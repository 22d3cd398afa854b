import Mathlib.Data.List.Forall2
import PathGlob.Text.Extending
import PathGlob.Text.Printable

/-!
# PathGlob.Text.Escapes

What stands between double quotes for a text, said character by character: which characters have an
escape, which escape that is, and which characters stand for themselves.
-/

namespace PathGlob.Text

/-- The characters that have a short escape, each with the character behind the backslash. -/
def shortEscapes : List (Char × Char) :=
  [('\x00', '0'), ('\t', 't'), ('\n', 'n'), ('\r', 'r'), ('"', '"'), ('\\', '\\')]

/-- The ranges of characters beyond ASCII that are not shown as they are: those that show nothing
and those that attach themselves to the character before. -/
def hiddenRanges : RangeTable :=
  unprintableLow ++ unprintableMiddle ++ unprintableHigh ++
    (extendingLow ++ extendingMiddle ++ extendingHigh)

/-- A character that is not shown as it is. -/
inductive IsHidden (c : Char) : Prop
  /-- A control character of ASCII. -/
  | control : c.toNat < 0x20 ∨ c.toNat = 0x7F → IsHidden c
  | inRange {first last : Nat} : (first, last) ∈ hiddenRanges → first ≤ c.toNat →
    c.toNat ≤ last → IsHidden c

/-- What stands for a character between quotes: its short escape if it has one, otherwise its code
point in hexadecimal digits if it is hidden, and otherwise the character itself. -/
inductive EscapesTo (c : Char) : Text → Prop
  | short {x : Char} : (c, x) ∈ shortEscapes → EscapesTo c ['\\', x]
  | code : (∀ x, (c, x) ∉ shortEscapes) → IsHidden c →
    EscapesTo c (['\\', 'u', '{'] ++ Nat.toDigits 16 c.toNat ++ ['}'])
  | plain : (∀ x, (c, x) ∉ shortEscapes) → ¬ IsHidden c → EscapesTo c [c]

/-- What a text is in quotes. -/
def IsQuoted (t shown : Text) : Prop :=
  ∃ parts, List.Forall₂ EscapesTo t parts ∧ shown = '"' :: parts.flatten ++ ['"']

end PathGlob.Text
