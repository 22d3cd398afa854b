/-!
# PathGlob.Component

The shape that every list of segments has, whatever stands for one segment: either a **double
star**, which stands for any number of segments, or an item for exactly one segment. The item is
a list of fragments after parsing and a compiled segment pattern in a glob.
-/

namespace PathGlob

/-- One element of a pattern, with items of type `α` for single segments. -/
inductive Component (α : Type)
  /-- Any number of whole segments, none included. -/
  | doubleStar
  /-- Exactly one segment, described by the item. -/
  | segment (item : α)
  deriving DecidableEq, Repr

namespace Component

variable {α β ε : Type}

/-- Replaces the item of a segment. -/
def map (f : α → β) : Component α → Component β
  | doubleStar => doubleStar
  | segment item => segment (f item)

/-- Replaces the item of a segment by a step that may fail. -/
def mapM (f : α → Except ε β) : Component α → Except ε (Component β)
  | doubleStar => .ok doubleStar
  | segment item => (f item).map segment

@[simp] theorem map_doubleStar (f : α → β) : (doubleStar : Component α).map f = doubleStar := rfl

@[simp] theorem map_segment (f : α → β) (item : α) : (segment item).map f = segment (f item) := rfl

end Component

end PathGlob
