import PathGlob.Text.Basic

/-!
# PathGlob.Text.RangeTable

Sets of characters given by ranges of code points, the form in which the character properties of
a standard are stored.
-/

namespace PathGlob.Text

/-- A set of characters as a list of ranges of code points, both ends included. -/
abbrev RangeTable := List (Nat × Nat)

/-- Whether some range of the table holds the character. -/
def RangeTable.contains (table : RangeTable) (c : Char) : Bool :=
  table.any fun range => range.1 ≤ c.toNat && c.toNat ≤ range.2

end PathGlob.Text
