import PathGlob.Component

/-!
# PathGlob.Sequence.Alignment

What it means for components to fit segments, without a search: the segments are cut into
consecutive runs, one for each component and nothing left over, where the run of a double star is
arbitrary and the run of any other component is a single segment that passes its test.
-/

namespace PathGlob.Sequence

variable {π σ : Type}

/-- The segments can be divided among the components. -/
inductive Aligned (test : π → σ → Prop) : List (Component π) → List σ → Prop
  | nil : Aligned test [] []
  /-- A double star takes any run of segments. -/
  | doubleStar {components segments} (run : List σ) :
    Aligned test components segments →
    Aligned test (.doubleStar :: components) (run ++ segments)
  /-- Any other component takes one segment. -/
  | segment {item segment components segments} :
    test item segment → Aligned test components segments →
    Aligned test (.segment item :: components) (segment :: segments)

end PathGlob.Sequence
