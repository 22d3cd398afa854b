import Mathlib.Data.List.Forall2
import PathGlob.Sequence.Alignment
import PathGlob.Sequence.Plain

/-!
# PathGlob.Proofs.Sequence.Alignment

**The search decides alignment.** The plain recursion never asks whether the components that are
left are double stars only, so it refuses every list that ends in a double star; on all other
lists it answers whether the segments can be divided among the components
(`plainMatch_iff_aligned`).

The proof follows the recursion. Its one real step is `aligned_doubleStar_cons`: a run of a double
star is empty or starts with the next segment, which are the two choices of the search.
-/

namespace PathGlob.Sequence

variable {π σ : Type}

/-! ### Taking an alignment apart -/

section Aligned

variable {test : π → σ → Prop} {components : List (Component π)} {segments : List σ}

@[simp] theorem aligned_nil_left : Aligned test [] segments ↔ segments = [] := by
  constructor
  · intro h
    cases h
    rfl
  · intro same
    obtain rfl := same
    exact .nil

@[simp] theorem aligned_segment_nil {item : π} :
    ¬ Aligned test (.segment item :: components) [] := by
  intro h
  cases h

/-- A double star takes a run, and what comes after it takes the rest. -/
theorem aligned_doubleStar_iff :
    Aligned test (.doubleStar :: components) segments ↔
      ∃ run rest, segments = run ++ rest ∧ Aligned test components rest := by
  constructor
  · intro h
    cases h with
    | doubleStar run h => exact ⟨run, _, rfl, h⟩
  · intro h
    obtain ⟨run, rest, rfl, h⟩ := h
    exact .doubleStar run h

@[simp] theorem aligned_doubleStar_nil :
    Aligned test (.doubleStar :: components) [] ↔ Aligned test components [] := by
  simp [aligned_doubleStar_iff]

/-- The runs of two double stars side by side are one run. -/
theorem aligned_doubleStar_twice :
    Aligned test (.doubleStar :: .doubleStar :: components) segments ↔
      Aligned test (.doubleStar :: components) segments := by
  constructor
  · intro h
    obtain ⟨run, behind, rfl, inner⟩ := aligned_doubleStar_iff.1 h
    obtain ⟨more, rest, rfl, aligned⟩ := aligned_doubleStar_iff.1 inner
    exact aligned_doubleStar_iff.2 ⟨run ++ more, rest, by simp, aligned⟩
  · exact .doubleStar []

theorem aligned_segment_cons {item : π} {segment : σ} :
    Aligned test (.segment item :: components) (segment :: segments) ↔
      test item segment ∧ Aligned test components segments := by
  constructor
  · intro h
    cases h with
    | segment passes rest => exact ⟨passes, rest⟩
  · intro h
    obtain ⟨passes, rest⟩ := h
    exact .segment passes rest

/-- The run of a double star is empty or starts with the next segment. -/
theorem aligned_doubleStar_cons {segment : σ} :
    Aligned test (.doubleStar :: components) (segment :: segments) ↔
      Aligned test (.doubleStar :: components) segments ∨
        Aligned test components (segment :: segments) := by
  constructor
  · intro h
    generalize consumed : segment :: segments = whole at h
    cases h with
    | doubleStar run rest =>
      cases run with
      | nil =>
        rw [List.nil_append] at consumed
        exact Or.inr (consumed ▸ rest)
      | cons head run =>
        obtain ⟨-, rfl⟩ := List.cons.inj consumed
        exact Or.inl (.doubleStar run rest)
  · intro h
    rcases h with h | h
    · cases h with
      | doubleStar run rest => exact .doubleStar (segment :: run) rest
    · exact .doubleStar [] h

/-- Only double stars can be left when the segments run out, so the last of the components is
one. -/
theorem getLast?_of_aligned_nil (h : Aligned test components []) (ne : components ≠ []) :
    components.getLast? = some .doubleStar := by
  induction components with
  | nil => exact absurd rfl ne
  | cons component components ih =>
    cases component with
    | segment item => exact absurd h aligned_segment_nil
    | doubleStar =>
      cases components with
      | nil => rfl
      | cons next more =>
        rw [List.getLast?_cons_cons]
        exact ih (aligned_doubleStar_nil.1 h) (List.cons_ne_nil next more)

/-- Components that are put together divide the segments into those of the first and those of the
second list. -/
theorem aligned_append_iff {more : List (Component π)} :
    Aligned test (components ++ more) segments ↔
      ∃ before after, segments = before ++ after ∧
        Aligned test components before ∧ Aligned test more after := by
  constructor
  · intro h
    induction components generalizing segments with
    | nil => exact ⟨[], segments, rfl, .nil, h⟩
    | cons component components ih =>
      cases h with
      | doubleStar run rest =>
        obtain ⟨before, after, rfl, first, second⟩ := ih rest
        exact ⟨run ++ before, after, by simp, .doubleStar run first, second⟩
      | @segment _ segment _ _ passes rest =>
        obtain ⟨before, after, rfl, first, second⟩ := ih rest
        exact ⟨segment :: before, after, rfl, .segment passes first, second⟩
  · rintro ⟨before, after, rfl, first, second⟩
    induction first with
    | nil => exact second
    | doubleStar run _ ih =>
      rw [List.append_assoc]
      exact .doubleStar run ih
    | segment passes _ ih => exact .segment passes ih

/-- A double star that takes nothing can be put anywhere. -/
theorem Aligned.insert_doubleStar {more : List (Component π)}
    (h : Aligned test (components ++ more) segments) :
    Aligned test (components ++ .doubleStar :: more) segments := by
  obtain ⟨before, after, rfl, first, second⟩ := aligned_append_iff.1 h
  exact aligned_append_iff.2 ⟨before, after, rfl, first, .doubleStar [] second⟩

/-- If every item passes one segment only, these are the segments that all of them fit. -/
theorem aligned_map_segment {item : σ → π} {values : List σ}
    (only : ∀ value ∈ values, ∀ s, test (item value) s ↔ s = value) :
    Aligned test (values.map fun value => .segment (item value)) segments ↔ segments = values := by
  induction values generalizing segments with
  | nil => simp
  | cons value values ih =>
    rw [List.forall_mem_cons] at only
    cases segments with
    | nil => simp
    | cons segment segments =>
      rw [List.map_cons, aligned_segment_cons, only.1, ih only.2, List.cons.injEq]

end Aligned

/-! ### Alignments of related lists -/

/-- Two components of the same shape whose items are related. -/
inductive Corresponds {α β : Type} (related : α → β → Prop) : Component α → Component β → Prop
  | doubleStar : Corresponds related .doubleStar .doubleStar
  | segment {a : α} {b : β} : related a b → Corresponds related (.segment a) (.segment b)

section Corresponds

variable {α β : Type} {related : α → β → Prop} {testA : α → σ → Prop} {testB : β → σ → Prop}
  {as : List (Component α)} {bs : List (Component β)} {segments : List σ}

/-- Alignment depends on the items only through the tests that they stand for. -/
theorem Aligned.transfer (same : ∀ a b, related a b → ∀ s, testA a s → testB b s)
    (h : List.Forall₂ (Corresponds related) as bs) (aligned : Aligned testA as segments) :
    Aligned testB bs segments := by
  induction aligned generalizing bs with
  | nil =>
    cases h
    exact .nil
  | doubleStar run _ ih =>
    cases h with
    | cons head tail =>
      cases head
      exact .doubleStar run (ih tail)
  | segment passes _ ih =>
    cases h with
    | cons head tail =>
      cases head with
      | segment hab => exact .segment (same _ _ hab _ passes) (ih tail)

theorem Corresponds.swap {a : Component α} {b : Component β} (h : Corresponds related a b) :
    Corresponds (fun b a => related a b) b a := by
  cases h with
  | doubleStar => exact .doubleStar
  | segment hab => exact .segment hab

theorem aligned_congr (same : ∀ a b, related a b → ∀ s, testA a s ↔ testB b s)
    (h : List.Forall₂ (Corresponds related) as bs) :
    Aligned testA as segments ↔ Aligned testB bs segments := by
  constructor
  · exact Aligned.transfer (fun a b hab s => (same a b hab s).1) h
  · have back : ∀ b a, related a b → ∀ s, testB b s → testA a s :=
      fun b a hab s => (same a b hab s).2
    exact Aligned.transfer back (h.imp fun _ _ => Corresponds.swap).flip

/-- Corresponding lists end in a double star together. -/
theorem getLast?_eq_doubleStar_congr (h : List.Forall₂ (Corresponds related) as bs) :
    as.getLast? = some .doubleStar ↔ bs.getLast? = some .doubleStar := by
  induction h with
  | nil => simp
  | @cons a b as bs head tail ih =>
    cases tail with
    | nil => cases head <;> simp
    | cons _ _ => simpa only [List.getLast?_cons_cons] using ih

end Corresponds

/-! ### The plain recursion -/

section Plain

variable {test : π → σ → Bool} {components : List (Component π)} {segments : List σ}

theorem plainMatch_doubleStar_cons {segment : σ} :
    plainMatch test (.doubleStar :: components) (segment :: segments) =
      (plainMatch test (.doubleStar :: components) segments ||
        plainMatch test components (segment :: segments)) := by
  rw [plainMatch]

theorem plainMatch_segment_cons {item : π} {segment : σ} :
    plainMatch test (.segment item :: components) (segment :: segments) =
      (test item segment && plainMatch test components segments) := by
  rw [plainMatch]

/-- Items can be replaced before they are tested. -/
theorem plainMatch_map {α : Type} (f : α → π) (components : List (Component α))
    (segments : List σ) :
    plainMatch test (components.map (Component.map f)) segments =
      plainMatch (fun item => test (f item)) components segments := by
  fun_induction plainMatch (fun item => test (f item)) components segments with
  | case1 => rw [List.map_nil, plainMatch]
  | case2 segment segments => rw [List.map_nil, plainMatch]
  | case3 component components => rw [List.map_cons, plainMatch]
  | case4 components segment segments ihAbsorb ihSkip =>
    rw [List.map_cons, Component.map_doubleStar] at ihAbsorb ⊢
    rw [plainMatch_doubleStar_cons, ihAbsorb, ihSkip]
  | case5 item components segment segments ih =>
    rw [List.map_cons, Component.map_segment, plainMatch_segment_cons, ih]

/-- The plain recursion finds an alignment whenever there is one, unless the components end in a
double star. -/
theorem plainMatch_iff_aligned :
    plainMatch test components segments = true ↔
      components.getLast? ≠ some .doubleStar ∧
        Aligned (fun item segment => test item segment = true) components segments := by
  fun_induction plainMatch test components segments with
  | case1 => simp
  | case2 segment segments => simp
  | case3 component components =>
    simp only [Bool.false_eq_true, false_iff, not_and]
    intro last aligned
    exact last (getLast?_of_aligned_nil aligned (List.cons_ne_nil component components))
  | case4 components segment segments ihAbsorb ihSkip =>
    rw [Bool.or_eq_true, ihAbsorb, ihSkip, aligned_doubleStar_cons]
    cases components with
    | nil => simp
    | cons next more =>
      rw [List.getLast?_cons_cons]
      exact and_or_left.symm
  | case5 item components segment segments ih =>
    rw [Bool.and_eq_true, ih, aligned_segment_cons]
    cases components with
    | nil => simp
    | cons next more =>
      rw [List.getLast?_cons_cons]
      exact and_left_comm

end Plain

end PathGlob.Sequence
