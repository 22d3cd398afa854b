import PathGlob.Expression.CharClass

/-!
# PathGlob.Expression.Ranges

The ranges of a set of characters. However a set is written, it has the same ranges: as few as
possible, in ascending order. They start and stop at the **switches** of the set, the code points
at which membership changes, and switches are looked for where a range of the written set starts or
ends.
-/

namespace PathGlob.Expression

/-- Puts a number into an ascending list, unless it is there. -/
def insertPoint (n : Nat) : List Nat → List Nat
  | [] => [n]
  | m :: more =>
    if n < m then n :: m :: more
    else if n = m then m :: more
    else m :: insertPoint n more

/-- The ranges between the first and the second point, the third and the fourth, and so on. A
range starts at a point and ends in front of one. -/
def pairUp : List Nat → List (Nat × Nat)
  | start :: stop :: more => (start, stop - 1) :: pairUp more
  | _ => []

namespace CharClass

/-- Whether the number is the code point of a member. -/
def holdsAt (set : CharClass) (n : Nat) : Bool :=
  decide n.isValidChar && set.contains (Char.ofNat n)

/-- Whether the number before is the code point of a member. -/
def heldBefore (set : CharClass) : Nat → Bool
  | 0 => false
  | n + 1 => set.holdsAt n

/-- Whether membership is not what it is before. -/
def changesAt (set : CharClass) (n : Nat) : Bool :=
  set.holdsAt n != set.heldBefore n

/-- The points together with those where the ranges that the set is written with start, and with
those behind their ends. -/
def withBounds : CharClass → List Nat → List Nat
  | none, points | any, points => points
  | range first last, points =>
    insertPoint first.toNat (insertPoint (last.toNat + 1) points)
  | union a b, points | inter a b, points | diff a b, points | symmDiff a b, points =>
    a.withBounds (b.withBounds points)
  | compl a, points => a.withBounds points

/-- Where the code points of characters start and stop; the surrogates between them are none. -/
def edges : List Nat :=
  [0, 0xD800, 0xE000, 0x110000]

/-- The points at which membership changes. -/
def switches (set : CharClass) : List Nat :=
  (set.withBounds edges).filter set.changesAt

/-- The ranges of code points that make up the set. -/
def ranges (set : CharClass) : List (Nat × Nat) :=
  pairUp set.switches

end CharClass

end PathGlob.Expression
