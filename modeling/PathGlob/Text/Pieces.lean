import PathGlob.Text.Basic

/-!
# PathGlob.Text.Pieces

Cutting a text at every occurrence of a separator. Empty pieces are kept, so that a text with `n`
separators has `n + 1` pieces and putting the separators back gives the text again
(`join_pieces`).
-/

namespace PathGlob.Text

/-- The pieces between the separators, from left to right; never an empty list. -/
def pieces (separator : Char) : Text → List Text
  | [] => [[]]
  | c :: rest =>
    if c = separator then [] :: pieces separator rest
    else (pieces separator rest).modifyHead (c :: ·)

/-- The pieces with the separator between neighbours. -/
def join (separator : Char) : List Text → Text
  | [] => []
  | [piece] => piece
  | piece :: next :: more => piece ++ separator :: join separator (next :: more)

/-- The pieces are a cut of the text: put together they are the text, and none of them holds a
separator. -/
structure Cut (separator : Char) (text : Text) (pieces : List Text) : Prop where
  nonempty : pieces ≠ []
  free : ∀ piece ∈ pieces, separator ∉ piece
  joined : join separator pieces = text

theorem pieces_ne_nil (separator : Char) (t : Text) : pieces separator t ≠ [] := by
  induction t with
  | nil => simp [pieces]
  | cons c rest ih =>
    rw [pieces]
    split
    · simp
    · cases h : pieces separator rest with
      | nil => exact absurd h ih
      | cons piece more => simp

/-- Cutting and joining again loses nothing. -/
theorem join_pieces (separator : Char) (t : Text) : join separator (pieces separator t) = t := by
  induction t with
  | nil => rfl
  | cons c rest ih =>
    rw [pieces]
    cases h : pieces separator rest with
    | nil => exact absurd h (pieces_ne_nil separator rest)
    | cons piece more =>
      rw [h] at ih
      split
      · next hc => simp [join, ih, hc]
      · cases more <;> simp_all [join]

end PathGlob.Text
