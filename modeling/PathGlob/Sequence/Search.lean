import Std.Data.HashSet
import PathGlob.Component

/-!
# PathGlob.Sequence.Search

Matching a list of components against a list of segments. A double star first tries to absorb one
more segment and only then to absorb none. Pairs of a place in the components and a place in the
segments from which no match is possible are remembered, so that no such pair is searched twice
and the work is at most the product of the two lengths.

A double star absorbs segments only to leave the rest to what follows it, and nothing follows at
the end of the components: components that end in a double star match no list of segments.
-/

namespace PathGlob.Sequence

variable {π σ : Type}

/-- What a search has found out so far. -/
structure Memo where
  /-- The places, as indices of a component and a segment, from which there is no match. -/
  failed : Std.HashSet (Nat × Nat)
  /-- The places at which a segment has been tested, the latest first. -/
  tested : List (Nat × Nat)

namespace Memo

def empty : Memo where
  failed := ∅
  tested := []

def fail (memo : Memo) (place : Nat × Nat) : Memo :=
  { memo with failed := memo.failed.insert place }

def test (memo : Memo) (place : Nat × Nat) : Memo :=
  { memo with tested := place :: memo.tested }

end Memo

/-- Searches from component `i` and segment `j` on, which are the heads of the two lists. -/
def search (test : π → σ → Bool) (i j : Nat) (components : List (Component π))
    (segments : List σ) (memo : Memo) : Bool × Memo :=
  if memo.failed.contains (i, j) then (false, memo)
  else
    let outcome := match components, segments with
      | [], [] => (true, memo)
      | [], _ :: _ => (false, memo)
      | _ :: _, [] => (false, memo)
      | .doubleStar :: components', segment :: segments' =>
        match search test i (j + 1) (.doubleStar :: components') segments' memo with
        | (true, memo) => (true, memo)
        | (false, memo) => search test (i + 1) j components' (segment :: segments') memo
      | .segment item :: components', segment :: segments' =>
        if test item segment then
          search test (i + 1) (j + 1) components' segments' (memo.test (i, j))
        else (false, memo.test (i, j))
    match outcome with
    | (true, memo) => (true, memo)
    | (false, memo) => (false, memo.fail (i, j))
termination_by components.length + segments.length

/-- Whether the components match the segments. -/
def matchSequence (test : π → σ → Bool) (components : List (Component π)) (segments : List σ) :
    Bool :=
  (search test 0 0 components segments .empty).1

/-- The places at which segments are tested, in the order of the tests. -/
def testOrder (test : π → σ → Bool) (components : List (Component π)) (segments : List σ) :
    List (Nat × Nat) :=
  (search test 0 0 components segments .empty).2.tested.reverse

end PathGlob.Sequence
