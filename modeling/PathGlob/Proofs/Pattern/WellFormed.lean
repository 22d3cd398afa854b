import PathGlob.Pattern.WellFormed
import PathGlob.Proofs.Pattern.Alternatives
import PathGlob.Proofs.Pattern.Grammar

/-!
# PathGlob.Proofs.Pattern.WellFormed

**Patterns spell well-formed components only** (`WrittenPattern.wellFormed`). The rules of the
grammar ask for most of it; that no text holds a slash is inherited from the pieces, which were cut
at the slashes.
-/

namespace PathGlob

theorem Fragment.WellFormed.ne_emptyClass {f : Fragment} (h : f.WellFormed) (negated : Bool) :
    f ≠ .charClass negated [] := by
  intro same
  obtain rfl := same
  exact h.1 rfl

namespace Pattern

theorem isContents_iff {contents : Text} :
    IsContents contents ↔ contents ≠ [] ∧ ']' ∉ contents.tail := by
  cases contents with
  | nil => simp [IsContents]
  | cons first body => simp [IsContents]

/-- Groups are the ways to write a well-formed set. -/
theorem isGroup_iff {items : List Text} :
    IsGroup items ↔ (Fragment.oneOf (.ofList items)).WellFormed := by
  constructor
  · intro h
    obtain ⟨ne, each⟩ := h
    refine ⟨Alternatives.members_ofList_ne_nil ne, fun member mem => ?_⟩
    exact each member (Alternatives.mem_ofList.1 mem)
  · intro h
    obtain ⟨ne, each⟩ := h
    refine ⟨?_, fun item mem => each item (Alternatives.mem_ofList.2 mem)⟩
    intro none
    obtain rfl := none
    exact ne rfl

variable {s piece rest : Text} {f : Fragment} {fragments : List Fragment}

/-- One step of the grammar: what it writes is well formed, and the rest is as free of slashes as
the text was. -/
theorem Written.wellFormed (h : Written s f rest) (free : separator ∉ s) :
    f.WellFormed ∧ separator ∉ rest := by
  cases h with
  | escaped c rest =>
    simp only [List.mem_cons, not_or] at free
    exact ⟨⟨List.cons_ne_nil c [], by simpa using free.2.1⟩, free.2.2⟩
  | trailing => exact ⟨⟨List.cons_ne_nil _ _, free⟩, List.not_mem_nil⟩
  | anyChar rest => exact ⟨trivial, List.not_mem_of_not_mem_cons free⟩
  | anyText rest => exact ⟨trivial, List.not_mem_of_not_mem_cons free⟩
  | group items rest isGroup =>
    simp only [List.mem_append, List.mem_cons, not_or] at free
    exact ⟨isGroup_iff.1 isGroup, free.2.2⟩
  | negatedClass contents rest isContents =>
    simp only [List.mem_append, List.mem_cons, not_or] at free
    obtain ⟨ne, noBracket⟩ := isContents_iff.1 isContents
    exact ⟨⟨ne, free.1.2.2, noBracket, fun _ => rfl⟩, free.2.2⟩
  | charClass contents rest isContents noSign =>
    simp only [List.mem_append, List.mem_cons, not_or] at free
    obtain ⟨ne, noBracket⟩ := isContents_iff.1 isContents
    exact ⟨⟨ne, free.1.2, noBracket, fun sign => absurd sign noSign⟩, free.2.2⟩
  | plain text rest ne plain stops =>
    rw [List.mem_append, not_or] at free
    exact ⟨⟨ne, free.1⟩, free.2⟩

theorem WrittenAll.wellFormed (h : WrittenAll piece fragments) (free : separator ∉ piece) :
    ∀ f ∈ fragments, f.WellFormed := by
  induction h with
  | nil => simp
  | cons first _ ih =>
    obtain ⟨here, freeRest⟩ := first.wellFormed free
    exact List.forall_mem_cons.2 ⟨here, ih freeRest⟩

theorem written_anyText_iff : Written s .anyText rest ↔ s = '*' :: rest := by
  constructor
  · intro h
    cases h
    rfl
  · intro same
    obtain rfl := same
    exact .anyText rest

/-- A piece of two asterisks is the only one that spells two of them alone. -/
theorem WrittenAll.eq_doubleStar (h : WrittenAll piece [.anyText, .anyText]) :
    piece = ['*', '*'] := by
  cases h with
  | cons first more =>
    cases more with
    | cons second none =>
      cases none
      rw [written_anyText_iff] at first second
      rw [first, second]

theorem WrittenPiece.wellFormed {component : Component (List Fragment)}
    (h : WrittenPiece piece component) (free : separator ∉ piece) : component.WellFormed := by
  cases h with
  | doubleStar => exact trivial
  | segment ne written =>
    exact ⟨written.wellFormed free, fun same => ne (same ▸ written).eq_doubleStar⟩

theorem WrittenPieces.wellFormed {pieces : List Text} {pattern : Pattern}
    (h : WrittenPieces pieces pattern) (free : ∀ piece ∈ pieces, separator ∉ piece) :
    ∀ component ∈ pattern, component.WellFormed := by
  induction h with
  | nil => simp
  | cons written _ ih =>
    rw [List.forall_mem_cons] at free ⊢
    exact ⟨written.wellFormed free.1, ih free.2⟩

/-- The components of a pattern are well formed. -/
theorem WrittenPattern.wellFormed {text : Text} {pattern : Pattern}
    (h : WrittenPattern text pattern) : ∀ component ∈ pattern, component.WellFormed :=
  WrittenPieces.wellFormed h fun _ => Text.not_mem_of_mem_pieces

end Pattern

end PathGlob
