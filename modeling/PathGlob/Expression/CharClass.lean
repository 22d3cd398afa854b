import PathGlob.Text.Basic

/-!
# PathGlob.Expression.CharClass

Sets of characters as expressions write them: ranges, named sets, and the operators on them.
-/

namespace PathGlob.Expression

/-- A set of characters. -/
inductive CharClass
  /-- The set without members. -/
  | none
  /-- Every character. -/
  | any
  /-- The characters from `first` to `last`, both included. -/
  | range (first last : Char)
  | union (left right : CharClass)
  | inter (left right : CharClass)
  | diff (left right : CharClass)
  | symmDiff (left right : CharClass)
  | compl (set : CharClass)
  deriving DecidableEq, Repr

namespace CharClass

/-- Whether the character is a member. -/
def contains : CharClass → Char → Bool
  | none, _ => false
  | any, _ => true
  | range first last, c => first ≤ c && c ≤ last
  | union a b, c => a.contains c || b.contains c
  | inter a b, c => a.contains c && b.contains c
  | diff a b, c => a.contains c && !b.contains c
  | symmDiff a b, c => a.contains c != b.contains c
  | compl a, c => !a.contains c

/-- The set of one character. -/
def single (c : Char) : CharClass :=
  range c c

/-- The union of ranges. -/
def ofRanges : List (Char × Char) → CharClass
  | [] => none
  | (first, last) :: more => union (range first last) (ofRanges more)

theorem contains_single {c d : Char} : (single c).contains d = decide (d = c) := by
  simp only [single, contains, ← Bool.decide_and, decide_eq_decide]
  exact ⟨fun ⟨h₁, h₂⟩ => Char.le_antisymm h₂ h₁, fun h => by simp [h]⟩

/-- The sets that have a name between `[:` and `:]`. -/
def named? (name : Text) : Option CharClass :=
  (table.find? (·.1.toList = name)).map fun entry => ofRanges entry.2
where
  table : List (String × List (Char × Char)) := [
    ("alnum", [('0', '9'), ('A', 'Z'), ('a', 'z')]),
    ("alpha", [('A', 'Z'), ('a', 'z')]),
    ("ascii", [('\x00', '\x7F')]),
    ("blank", [('\t', '\t'), (' ', ' ')]),
    ("cntrl", [('\x00', '\x1F'), ('\x7F', '\x7F')]),
    ("digit", [('0', '9')]),
    ("graph", [('!', '~')]),
    ("lower", [('a', 'z')]),
    ("print", [(' ', '~')]),
    ("punct", [('!', '/'), (':', '@'), ('[', '\x60'), ('\x7B', '~')]),
    ("space", [('\t', '\r'), (' ', ' ')]),
    ("upper", [('A', 'Z')]),
    ("word", [('0', '9'), ('A', 'Z'), ('_', '_'), ('a', 'z')]),
    ("xdigit", [('0', '9'), ('A', 'F'), ('a', 'f')])]

end CharClass

end PathGlob.Expression
