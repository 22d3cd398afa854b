import Mathlib.Data.List.Sort
import PathGlob.Pattern.Alternatives

/-!
# PathGlob.Proofs.Pattern.Alternatives

The members of a set that is built from a list are the texts in the list, and sets with the same
members are equal.
-/

namespace PathGlob.Alternatives

variable {text x : Text} {members items : List Text}

theorem mem_insertInto : x ∈ insertInto text members ↔ x = text ∨ x ∈ members := by
  refine ⟨mem_of_mem_insertInto, fun h => ?_⟩
  induction members with
  | nil => simpa [insertInto] using h
  | cons member more ih =>
    rw [insertInto]
    split
    · exact List.mem_cons.2 h
    · split
      · rcases h with rfl | h
        · exact List.mem_cons_of_mem member (ih (Or.inl rfl))
        · rcases List.mem_cons.1 h with rfl | h
          · exact List.mem_cons_self
          · exact List.mem_cons_of_mem member (ih (Or.inr h))
      · next notBefore notAfter =>
        have same : text = member := List.le_antisymm notAfter notBefore
        rcases h with rfl | h
        · exact same ▸ List.mem_cons_self
        · exact h

@[simp] theorem mem_ofList : x ∈ (ofList items).members ↔ x ∈ items := by
  induction items with
  | nil => rfl
  | cons item items ih =>
    have inserted : (ofList (item :: items)).members = insertInto item (ofList items).members := rfl
    rw [inserted, mem_insertInto, ih, List.mem_cons]

theorem members_ofList_ne_nil (h : items ≠ []) : (ofList items).members ≠ [] := by
  obtain ⟨item, items, rfl⟩ := List.exists_cons_of_ne_nil h
  exact List.ne_nil_of_mem (mem_ofList.2 List.mem_cons_self)

theorem eq_of_members {s t : Alternatives} (same : s.members = t.members) : s = t := by
  cases s
  cases t
  cases same
  rfl

/-- Ascending lists with the same members are equal. -/
theorem eq_of_mem_iff {s t : Alternatives} (same : ∀ x, x ∈ s.members ↔ x ∈ t.members) : s = t :=
  eq_of_members (s.ascending.eq_of_mem_iff t.ascending @same)

@[simp] theorem ofList_members (s : Alternatives) : ofList s.members = s :=
  eq_of_mem_iff fun _ => mem_ofList

end PathGlob.Alternatives
