import PathGlob.Pattern.Spelling
import PathGlob.Proofs.Glob.Errors

/-!
# PathGlob.Proofs.Glob.Quoting

**Every text can be quoted**: with a backslash in front of the characters that have a meaning of
their own it is a pattern, and the pattern matches the text only (`Glob.quote_isMatch_iff`).

Slashes are not quoted, so the pieces of a quoted text are the quoted pieces (`pieces_quote`). In a
quoted piece every character is either escaped or plain, and in both ways it accepts itself. Which
fragments are read from it need not be known: a spelling that accepts some text can be read
(`exists_writtenAll`).
-/

namespace PathGlob

namespace Pattern

variable {piece rest t : Text} {c : Char}

/-! ### Quoted pieces -/

theorem pieceAccepts_escaped_cons :
    PieceAccepts ('\\' :: c :: rest) t ↔ ∃ u, t = c :: u ∧ PieceAccepts rest u := by
  constructor
  · intro h
    cases h with
    | escaped c after => exact ⟨_, rfl, after⟩
    | plain plain _ => exact absurd plain (by decide)
  · rintro ⟨u, rfl, after⟩
    exact .escaped c after

theorem pieceAccepts_plain_cons (plain : isPlain c = true) :
    PieceAccepts (c :: rest) t ↔ ∃ u, t = c :: u ∧ PieceAccepts rest u := by
  constructor
  · intro h
    cases h with
    | plain _ after => exact ⟨_, rfl, after⟩
    | _ => exact absurd plain (by decide)
  · rintro ⟨u, rfl, after⟩
    exact .plain plain after

/-- In a quoted piece a character is either escaped or plain. -/
theorem quoteChar_cases (ne : c ≠ separator) :
    quoteChar c = ['\\', c] ∨ quoteChar c = [c] ∧ isPlain c = true := by
  unfold quoteChar
  split
  · exact .inl rfl
  · next notSpecial =>
    have plain : isPlain c = true := by
      simp [ne] at notSpecial
      simp [isPlain, notSpecial]
    exact .inr ⟨rfl, plain⟩

/-- A quoted piece accepts the piece and nothing else. -/
theorem pieceAccepts_quote (free : separator ∉ piece) :
    PieceAccepts (quote piece) t ↔ t = piece := by
  induction piece generalizing t with
  | nil =>
    constructor
    · intro h
      cases h
      rfl
    · rintro rfl
      exact .nil
  | cons c piece ih =>
    rw [List.mem_cons, not_or] at free
    have split : quote (c :: piece) = quoteChar c ++ quote piece := List.flatMap_cons
    have step : PieceAccepts (quote (c :: piece)) t ↔
        ∃ u, t = c :: u ∧ PieceAccepts (quote piece) u := by
      rcases quoteChar_cases (Ne.symm free.1) with same | ⟨same, plain⟩
      · rw [split, same]
        exact pieceAccepts_escaped_cons
      · rw [split, same]
        exact pieceAccepts_plain_cons plain
    rw [step]
    simp [ih free.2]

/-- Two asterisks accept every text, so no piece is quoted to them. -/
theorem quote_ne_doubleStar (free : separator ∉ piece) : quote piece ≠ ['*', '*'] := by
  intro same
  have every : ∀ s, s = piece := fun s => by
    rw [← pieceAccepts_quote free, same]
    simpa using PieceAccepts.anyText s (.anyText [] .nil)
  have contradiction : ([] : Text) = ['*'] := (every []).trans (every ['*']).symm
  simp at contradiction

/-! ### Quoted texts -/

/-- The characters that quoting puts a backslash in front of. -/
theorem quote_eq (t : Text) :
    quote t = t.flatMap fun c =>
      if c ∈ ['\\', '*', '?', '[', ']', '{', '}'] then ['\\', c] else [c] := by
  have char (c : Char) : quoteChar c =
      if c ∈ ['\\', '*', '?', '[', ']', '{', '}'] then ['\\', c] else [c] := by
    have same : ((isSpecial c && c != separator) || decide (c = '\\')) = true ↔
        c ∈ ['\\', '*', '?', '[', ']', '{', '}'] := by
      by_cases slash : c = separator
      · subst slash
        decide
      · simp [isSpecial, slash, or_comm, or_left_comm, or_assoc]
    simp only [quoteChar, same]
  rw [quote, funext char]

theorem not_mem_quote (free : separator ∉ piece) : separator ∉ quote piece := by
  intro mem
  obtain ⟨c, memPiece, mem⟩ := List.mem_flatMap.1 mem
  have ne : c ≠ separator := fun same => free (same ▸ memPiece)
  have noEscape : separator ≠ '\\' := by decide
  rcases quoteChar_cases ne with same | ⟨same, -⟩ <;> simp [same, noEscape, Ne.symm ne] at mem

theorem quote_join (items : List Text) :
    quote (Text.join separator items) = Text.join separator (items.map quote) := by
  induction items with
  | nil => rfl
  | cons item items ih =>
    cases items with
    | nil => rfl
    | cons next more =>
      have slash : quoteChar separator = [separator] := rfl
      rw [List.map_cons, Text.join_cons separator (quote item) (by simp), ← ih, Text.join, quote,
        List.flatMap_append, List.flatMap_cons, slash]
      rfl

/-- Quoting and cutting at the slashes can be exchanged. -/
theorem pieces_quote (t : Text) :
    Text.pieces separator (quote t) = (Text.pieces separator t).map quote := by
  have free : ∀ item ∈ (Text.pieces separator t).map quote, separator ∉ item := by
    intro item mem
    obtain ⟨piece, memPieces, rfl⟩ := List.mem_map.1 mem
    exact not_mem_quote (Text.not_mem_of_mem_pieces memPieces)
  have ne : (Text.pieces separator t).map quote ≠ [] := by simp [Text.pieces_ne_nil]
  rw [← Text.pieces_join ne free, ← quote_join, Text.join_pieces]

/-- A quoted text is a pattern. -/
theorem exists_parse_quote (t : Text) : ∃ pattern, parse (quote t) = .ok pattern := by
  simp only [parse_eq_ok_iff, WrittenPattern, pieces_quote]
  refine writtenPieces_iff.2 fun item mem => ?_
  obtain ⟨piece, memPieces, rfl⟩ := List.mem_map.1 mem
  have accepts := (pieceAccepts_quote (Text.not_mem_of_mem_pieces memPieces)).2 rfl
  obtain ⟨all, written, -⟩ := exists_writtenAll accepts
  exact written.writtenPiece

/-- A quoted text accepts the text and nothing else. -/
theorem accepts_quote_iff (t candidate : Text) : Accepts (quote t) candidate ↔ candidate = t := by
  have free : ∀ piece ∈ Text.pieces separator t, separator ∉ piece :=
    fun _ => Text.not_mem_of_mem_pieces
  have noStars : (Text.pieces separator (quote t)).getLast? ≠ some ['*', '*'] := by
    intro last
    have mem := List.mem_of_getLast? last
    rw [pieces_quote, List.mem_map] at mem
    obtain ⟨piece, mem, same⟩ := mem
    exact quote_ne_doubleStar (free piece mem) same
  have segments : (Text.pieces separator (quote t)).map pieceComponent =
      (Text.pieces separator t).map fun piece => .segment (quote piece) := by
    rw [pieces_quote, List.map_map]
    exact List.map_congr_left fun piece mem => if_neg (quote_ne_doubleStar (free piece mem))
  have injective : Text.pieces separator candidate = Text.pieces separator t ↔ candidate = t := by
    refine ⟨fun same => ?_, fun same => same ▸ rfl⟩
    rw [← Text.join_pieces separator candidate, same, Text.join_pieces]
  rw [Accepts, segments,
    Sequence.aligned_map_segment fun piece mem _ => pieceAccepts_quote (free piece mem), injective]
  exact and_iff_right noStars

end Pattern

namespace Glob

/-! ### Main result -/

/-- **Quoting.** With a backslash in front of every character that has a meaning of its own, slashes
left alone, a text is a pattern, which is compiled unless one of its segments is too large, and the
glob matches the text and nothing else. -/
theorem quote_isMatch_iff (t : Text) :
    (Pattern.quote t = t.flatMap fun c =>
      if c ∈ ['\\', '*', '?', '[', ']', '{', '}'] then ['\\', c] else [c]) ∧
    (∃ pattern, Pattern.parse (Pattern.quote t) = .ok pattern ∧
      ((∃ glob, ofText (Pattern.quote t) = .ok glob) ∨
        ∃ fragments, .segment fragments ∈ pattern ∧
          ofText (Pattern.quote t) =
            .error (.compile (Expression.ofFragments fragments) .tooLarge))) ∧
      ∀ glob, ofText (Pattern.quote t) = .ok glob →
        ∀ candidate, glob.isMatch candidate = true ↔ candidate = t := by
  obtain ⟨pattern, parsed⟩ := Pattern.exists_parse_quote t
  refine ⟨Pattern.quote_eq t, ⟨pattern, parsed, ofText_of_parse parsed⟩,
    fun glob compiled candidate => ?_⟩
  rw [isMatch_iff_aligned, ← Pattern.accepts_iff_aligned glob.written,
    ofText_eq_ok_iff.1 compiled, Pattern.accepts_quote_iff]

/-- A piece of two asterisks, and backslashes at the ends of pieces. -/
theorem quote_isMatch_doubleStar :
    Pattern.quote "é\\/**//[!a]\x7b?\\".toList =
        "é\\\\/\\*\\*//\\[!a\\]\\\x7b\\?\\\\".toList ∧
      ∃ glob, ofText (Pattern.quote "é\\/**//[!a]\x7b?\\".toList) = .ok glob ∧
        ∀ candidate, glob.isMatch candidate = true ↔
          candidate = "é\\/**//[!a]\x7b?\\".toList := by
  obtain ⟨glob, compiled⟩ := exists_of_compiles
    (show compiles (Pattern.quote "é\\/**//[!a]\x7b?\\".toList) = true by decide +kernel)
  exact ⟨by decide, glob, compiled, (quote_isMatch_iff _).2.2 glob compiled⟩

end Glob

end PathGlob
