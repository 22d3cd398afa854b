import PathGlob.Text.Basic

/-!
# PathGlob.Text.Lines

Cutting a sequence into lines. A line feed ends a line, and a carriage return directly in front of
it belongs to the ending. What follows the last line feed is a line too unless it is empty, and a
carriage return at its end is kept. The rule is the same for characters and for bytes.
-/

namespace PathGlob

variable {α : Type} [DecidableEq α]

/-- The lines of a sequence whose line feed is `feed` and whose carriage return is `ret`. -/
def linesOf (feed ret : α) : List α → List (List α)
  | [] => []
  | c :: rest =>
    if c = feed then [] :: linesOf feed ret rest
    else if c = ret ∧ rest.head? = some feed then linesOf feed ret rest
    else match linesOf feed ret rest with
      | [] => [[c]]
      | line :: more => (c :: line) :: more

/-- What the lines of a sequence are, said by what they are cut from. -/
inductive IsLines (feed ret : α) : List α → List (List α) → Prop
  | nil : IsLines feed ret [] []
  /-- A line that the end of the sequence ends. -/
  | last {line : List α} : line ≠ [] → feed ∉ line → IsLines feed ret line [line]
  /-- A line that a line feed ends. -/
  | feed {line rest : List α} {lines : List (List α)} : feed ∉ line → line.getLast? ≠ some ret →
    IsLines feed ret rest lines → IsLines feed ret (line ++ feed :: rest) (line :: lines)
  /-- A line that a carriage return and a line feed end. -/
  | returnFeed {line rest : List α} {lines : List (List α)} : feed ∉ line →
    IsLines feed ret rest lines → IsLines feed ret (line ++ ret :: feed :: rest) (line :: lines)

/-- The lines of a text. -/
def Text.lines (t : Text) : List Text :=
  linesOf '\n' '\r' t

/-- A line that can be printed and read back: without a line feed, and without a carriage return
that the line feed behind it would take along. -/
def Text.IsWhole (line : Text) : Prop :=
  '\n' ∉ line ∧ line.getLast? ≠ some '\r'

instance : DecidablePred Text.IsWhole :=
  fun _ => inferInstanceAs (Decidable (_ ∧ _))

/-- The text with the given lines, each ended by a line feed. -/
def Text.unlines (lines : List Text) : Text :=
  lines.flatMap fun line => line ++ ['\n']

/-- The lines of a sequence of bytes. -/
def byteLines (bytes : List UInt8) : List (List UInt8) :=
  linesOf 0x0A 0x0D bytes

end PathGlob
