import PathGlob.Component

/-!
# PathGlob.Sequence.Plain

The search without a memory: the same choices in the same order, with every repeated place
searched again. It says what a match is by plain recursion and lists every test that is made.
-/

namespace PathGlob.Sequence

variable {π σ : Type}

/-- Whether the components match the segments, by recursion on the two lists. -/
def plainMatch (test : π → σ → Bool) : List (Component π) → List σ → Bool
  | [], [] => true
  | [], _ :: _ => false
  | _ :: _, [] => false
  | .doubleStar :: components, segment :: segments =>
    plainMatch test (.doubleStar :: components) segments ||
      plainMatch test components (segment :: segments)
  | .segment item :: components, segment :: segments =>
    test item segment && plainMatch test components segments
termination_by components segments => components.length + segments.length

/-- The places at which that recursion tests a segment, in order and with repeats, when its lists
start at component `i` and segment `j`. -/
def plainTests (test : π → σ → Bool) (i j : Nat) : List (Component π) → List σ → List (Nat × Nat)
  | [], _ => []
  | _ :: _, [] => []
  | .doubleStar :: components, segment :: segments =>
    plainTests test i (j + 1) (.doubleStar :: components) segments ++
      if plainMatch test (.doubleStar :: components) segments then []
      else plainTests test (i + 1) j components (segment :: segments)
  | .segment item :: components, segment :: segments =>
    (i, j) :: if test item segment then plainTests test (i + 1) (j + 1) components segments else []
termination_by components segments => components.length + segments.length

/-- A list without the elements that occurred before. -/
def firstOccurrences {α : Type} [DecidableEq α] : List α → List α
  | [] => []
  | x :: xs => x :: (firstOccurrences xs).filter (· ≠ x)

end PathGlob.Sequence
