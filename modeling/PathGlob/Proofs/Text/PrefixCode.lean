import Mathlib.Data.List.Basic

/-!
# PathGlob.Proofs.Text.PrefixCode

**Prefix codes.** If no value is written as the start of another one, and none as nothing, then
values side by side can be told apart without a separator: one sequence starts with another if and
only if what is written for it does (`IsPrefixCode.flatMap_isPrefix_iff`). The UTF-8 form of texts
and the escaping of texts in expressions are such codes of single characters.
-/

namespace PathGlob

variable {α β : Type} {code : α → List β} {a b : α} {s t : List α} {u v : List β}

/-- No value is written as the start of another one, and none as nothing. -/
structure IsPrefixCode (code : α → List β) : Prop where
  ne_nil : ∀ a, code a ≠ []
  eq_of_isPrefix : ∀ ⦃a b⦄, code a <+: code b → a = b

namespace IsPrefixCode

/-- The value in front is told apart from whatever follows it. -/
theorem append_inj (h : IsPrefixCode code) (same : code a ++ u = code b ++ v) : a = b ∧ u = v := by
  -- Both are the start of one sequence, so one of them is the start of the other.
  have first : code a <+: code b ++ v := ⟨u, same⟩
  have second : code b <+: code b ++ v := List.prefix_append _ _
  have sameValue : a = b := by
    rcases List.prefix_or_prefix_of_prefix first second with shorter | shorter
    · exact h.eq_of_isPrefix shorter
    · exact (h.eq_of_isPrefix shorter).symm
  subst sameValue
  exact ⟨rfl, List.append_cancel_left same⟩

theorem flatMap_isPrefix_iff (h : IsPrefixCode code) :
    s.flatMap code <+: t.flatMap code ↔ s <+: t := by
  constructor
  · intro starts
    induction s generalizing t with
    | nil => exact List.nil_prefix
    | cons a s ih =>
      obtain ⟨more, same⟩ := starts
      cases t with
      | nil => simp [h.ne_nil a] at same
      | cons b t =>
        simp only [List.flatMap_cons, List.append_assoc] at same
        obtain ⟨rfl, sameRest⟩ := h.append_inj same
        exact (List.prefix_cons_inj a).2 (ih ⟨more, sameRest⟩)
  · rintro ⟨more, rfl⟩
    rw [List.flatMap_append]
    exact List.prefix_append _ _

/-- Different sequences are written differently. -/
theorem flatMap_inj (h : IsPrefixCode code) : s.flatMap code = t.flatMap code ↔ s = t := by
  refine ⟨fun same => ?_, fun same => same ▸ rfl⟩
  have forth : s <+: t := h.flatMap_isPrefix_iff.1 (same ▸ List.prefix_rfl)
  have back : t <+: s := h.flatMap_isPrefix_iff.1 (same ▸ List.prefix_rfl)
  exact forth.eq_of_length_le back.length_le

end IsPrefixCode

end PathGlob
