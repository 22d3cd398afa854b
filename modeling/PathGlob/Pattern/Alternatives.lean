import PathGlob.Text.Basic

/-!
# PathGlob.Pattern.Alternatives

A set of texts as the strictly ascending list of its members. The order is the lexicographic one
on characters, which is also the order of the UTF-8 forms. Ascending lists make sets with the
same members equal, so neither order nor repetition in the writing of a set can be seen.
-/

namespace PathGlob

/-- A finite set of texts. -/
structure Alternatives where
  /-- The members in ascending order. -/
  members : List Text
  /-- No member occurs twice and none stands before a smaller one. -/
  ascending : members.Pairwise (· < ·) := by simp
  deriving DecidableEq

namespace Alternatives

/-- Puts a text into its place in an ascending list, unless it is there already. -/
def insertInto (text : Text) : List Text → List Text
  | [] => [text]
  | member :: more =>
    if text < member then text :: member :: more
    else if member < text then member :: insertInto text more
    else member :: more

theorem mem_of_mem_insertInto {text x : Text} {members : List Text}
    (h : x ∈ insertInto text members) : x = text ∨ x ∈ members := by
  induction members with
  | nil => simpa [insertInto] using h
  | cons member more ih =>
    rw [insertInto] at h
    split at h
    · simpa using h
    · split at h
      · rcases List.mem_cons.1 h with rfl | h
        · simp
        · rcases ih h with rfl | h <;> simp_all
      · exact Or.inr h

theorem insertInto_ascending (text : Text) {members : List Text}
    (h : members.Pairwise (· < ·)) : (insertInto text members).Pairwise (· < ·) := by
  induction members with
  | nil => simp [insertInto]
  | cons member more ih =>
    rw [insertInto]
    have ⟨least, tail⟩ := List.pairwise_cons.1 h
    split
    · next hlt =>
      refine List.pairwise_cons.2 ⟨fun x hx => ?_, h⟩
      rcases List.mem_cons.1 hx with rfl | hx
      · exact hlt
      · exact List.lt_trans hlt (least x hx)
    · split
      · next hgt =>
        refine List.pairwise_cons.2 ⟨fun x hx => ?_, ih tail⟩
        rcases mem_of_mem_insertInto hx with rfl | hx
        · exact hgt
        · exact least x hx
      · exact h

/-- The set without members. -/
def empty : Alternatives where
  members := []

/-- The set with one more member. -/
def insert (text : Text) (set : Alternatives) : Alternatives where
  members := insertInto text set.members
  ascending := insertInto_ascending text set.ascending

/-- The set of the texts in a list. -/
def ofList : List Text → Alternatives
  | [] => empty
  | text :: more => (ofList more).insert text

end Alternatives

end PathGlob
