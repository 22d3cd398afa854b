import PathGlob.Pattern.Spelling
import PathGlob.Proofs.Pattern.Meaning
import PathGlob.Proofs.Pattern.WellFormed

/-!
# PathGlob.Proofs.Pattern.Spelling

**The parser undoes the spelling** (`parse_join_spelled`). Spelled literals are read one character
at a time, so what is read is the pattern with its literals **split** into single characters.

Every spelling of a well-formed fragment shows where it ends, whatever comes behind it: a backslash
takes one character, a group runs to the first closing brace, a class to the first closing bracket
behind its first character, and no fragment is longer than one asterisk. So fragments are read back
one by one with an arbitrary rest (`Fragment.Spelled.writtenFirst`). Only a piece as a whole can
be misread, as a double star, and well-formed segments are not spelled like that
(`Component.Spelled.writtenPiece`).
-/

namespace PathGlob

/-- A literal as one literal for each of its characters. -/
def Fragment.split : Fragment → List Fragment
  | literal text => text.map fun c => literal [c]
  | f => [f]

/-- A component with its literals split. -/
def Component.split (component : Component (List Fragment)) : Component (List Fragment) :=
  component.map (List.flatMap Fragment.split)

/-- A pattern with its literals split. -/
def Pattern.split (pattern : Pattern) : Pattern :=
  List.map Component.split pattern

/-! ### Splitting literals -/

section Split

variable {f : Fragment} {fragments : List Fragment}

theorem Fragment.split_ne_nil (h : f.WellFormed) : f.split ≠ [] := by
  cases f with
  | literal text => simpa [split] using h.1
  | _ => simp [split]

theorem Fragment.eq_anyText_of_mem_split (h : .anyText ∈ f.split) : f = .anyText := by
  cases f with
  | anyText => rfl
  | _ => simp [split] at h

/-- A literal of one character has nothing to split. -/
theorem Fragment.split_of_single (h : ∀ text, f = .literal text → text.length = 1) :
    f.split = [f] := by
  cases f with
  | literal text =>
    obtain ⟨c, rfl⟩ := List.length_eq_one_iff.1 (h text rfl)
    rfl
  | _ => rfl

theorem Fragment.flatMap_split_of_single
    (h : ∀ text, .literal text ∈ fragments → text.length = 1) :
    fragments.flatMap Fragment.split = fragments := by
  have single : ∀ f ∈ fragments, f.split = [f] := by
    intro f mem
    exact Fragment.split_of_single fun text same => h text (same ▸ mem)
  rw [List.flatMap_congr single, List.flatMap_singleton']

/-- Asterisks come from asterisks only. -/
theorem Fragment.eq_of_flatMap_split_eq_stars (wf : ∀ f ∈ fragments, f.WellFormed)
    (h : fragments.flatMap Fragment.split = [.anyText, .anyText]) :
    fragments = [.anyText, .anyText] := by
  have stars : ∀ f ∈ fragments, f = .anyText := by
    intro f mem
    obtain ⟨g, memSplit⟩ := List.exists_mem_of_ne_nil _ (Fragment.split_ne_nil (wf f mem))
    have star : g ∈ [Fragment.anyText, .anyText] := h ▸ List.mem_flatMap.2 ⟨f, mem, memSplit⟩
    obtain rfl : g = .anyText := by simpa using star
    exact Fragment.eq_anyText_of_mem_split memSplit
  have noLiteral : ∀ text, .literal text ∈ fragments → text.length = 1 := by
    intro text mem
    cases stars _ mem
  rw [← h, Fragment.flatMap_split_of_single noLiteral]

theorem Pattern.split_of_single {pattern : Pattern} (h : ∀ fragments text,
      .segment fragments ∈ pattern → .literal text ∈ fragments → text.length = 1) :
    pattern.split = pattern := by
  have single : ∀ component ∈ pattern, component.split = component := by
    intro component mem
    cases component with
    | doubleStar => rfl
    | segment fragments =>
      rw [Component.split, Component.map_segment,
        Fragment.flatMap_split_of_single fun text => h fragments text mem]
  rw [Pattern.split, List.map_congr_left single, List.map_id']

end Split

namespace Pattern

/-! ### One fragment -/

/-- Escaped characters are read one by one. -/
theorem writtenFirst_spellLiteral (text rest : Text) :
    WrittenFirst (spellLiteral text ++ rest) (text.map fun c => .literal [c]) rest := by
  induction text with
  | nil => exact .nil rest
  | cons c text ih => exact .cons (.escaped c (spellLiteral text ++ rest)) ih

theorem written_spellGroup {items : List Text}
    (wf : (Fragment.oneOf (.ofList items)).WellFormed) (rest : Text) :
    Written (spellGroup items ++ rest) (.oneOf (.ofList items)) rest := by
  have spelled : spellGroup items ++ rest = '{' :: Text.join ',' items ++ '}' :: rest := by
    simp [spellGroup]
  rw [spelled]
  exact .group items rest (isGroup_iff.2 wf)

theorem written_spell_charClass {negated : Bool} {contents : Text}
    (wf : (Fragment.charClass negated contents).WellFormed) (rest : Text) :
    Written ((Fragment.charClass negated contents).spell ++ rest)
      (.charClass negated contents) rest := by
  obtain ⟨ne, -, noBracket, sign⟩ := wf
  have isContents := isContents_iff.2 ⟨ne, noBracket⟩
  cases negated with
  | true =>
    have spelled : (Fragment.charClass true contents).spell ++ rest =
        '[' :: '!' :: contents ++ ']' :: rest := by simp [Fragment.spell]
    rw [spelled]
    exact .negatedClass contents rest isContents
  | false =>
    have spelled : (Fragment.charClass false contents).spell ++ rest =
        '[' :: contents ++ ']' :: rest := by simp [Fragment.spell]
    rw [spelled]
    exact .charClass contents rest isContents fun head => Bool.false_ne_true (sign head)

end Pattern

open Pattern

variable {s : Text} {f : Fragment} {fragments : List Fragment}

/-- Spellings of sets are lists of their members, the canonical spelling included. -/
theorem Fragment.spelled_oneOf_iff {alternatives : Alternatives} :
    (Fragment.oneOf alternatives).Spelled s ↔
      ∃ items, alternatives = .ofList items ∧ s = spellGroup items := by
  constructor
  · intro h
    cases h with
    | oneOf items => exact ⟨items, rfl, rfl⟩
    | canonical => exact ⟨alternatives.members, alternatives.ofList_members.symm, rfl⟩
  · intro h
    obtain ⟨items, rfl, rfl⟩ := h
    exact .oneOf items

/-- A spelled fragment is read back, whatever comes behind it. -/
theorem Fragment.Spelled.writtenFirst (h : f.Spelled s) (wf : f.WellFormed) (rest : Text) :
    WrittenFirst (s ++ rest) f.split rest := by
  cases f with
  | literal text =>
    cases h
    exact writtenFirst_spellLiteral text rest
  | oneOf alternatives =>
    obtain ⟨items, rfl, rfl⟩ := Fragment.spelled_oneOf_iff.1 h
    exact .cons (written_spellGroup wf rest) (.nil rest)
  | charClass negated contents =>
    cases h
    exact .cons (written_spell_charClass wf rest) (.nil rest)
  | anyChar =>
    cases h
    exact .cons (.anyChar rest) (.nil rest)
  | anyText =>
    cases h
    exact .cons (.anyText rest) (.nil rest)

/-- A spelled fragment holds no slash. -/
theorem Fragment.Spelled.free (h : f.Spelled s) (wf : f.WellFormed) : separator ∉ s := by
  cases f with
  | literal text =>
    cases h
    have slash : separator ∉ text := wf.2
    simpa [Fragment.spell, spellLiteral, separator] using slash
  | oneOf alternatives =>
    obtain ⟨items, rfl, rfl⟩ := Fragment.spelled_oneOf_iff.1 h
    have inner : separator ∉ Text.join ',' items := by
      intro mem
      rcases Text.mem_of_mem_join mem with comma | ⟨item, memItems, mem⟩
      · exact absurd comma (by decide)
      · have member := wf.2 item (Alternatives.mem_ofList.2 memItems)
        exact absurd (member.2 separator mem) (by decide)
    simpa [spellGroup, separator] using inner
  | charClass negated contents =>
    cases h
    have slash : separator ∉ contents := wf.2.1
    cases negated <;> simpa [Fragment.spell, separator] using slash
  | anyChar =>
    cases h
    decide
  | anyText =>
    cases h
    decide

/-! ### Whole pieces -/

theorem Fragment.SpelledAll.writtenFirst (h : SpelledAll fragments s)
    (wf : ∀ f ∈ fragments, f.WellFormed) :
    WrittenFirst s (fragments.flatMap Fragment.split) [] := by
  induction h with
  | nil => exact .nil []
  | cons spelled _ ih =>
    rw [List.forall_mem_cons] at wf
    rw [List.flatMap_cons]
    exact (spelled.writtenFirst wf.1 _).append (ih wf.2)

theorem Fragment.SpelledAll.free (h : SpelledAll fragments s)
    (wf : ∀ f ∈ fragments, f.WellFormed) : separator ∉ s := by
  induction h with
  | nil => exact List.not_mem_nil
  | cons spelled _ ih =>
    rw [List.forall_mem_cons] at wf
    rw [List.mem_append, not_or]
    exact ⟨spelled.free wf.1, ih wf.2⟩

/-- A spelled segment is no double star, as its fragments are not two asterisks. -/
theorem Component.Spelled.writtenPiece {component : Component (List Fragment)}
    (h : component.Spelled s) (wf : component.WellFormed) :
    WrittenPiece s component.split := by
  cases h with
  | doubleStar => exact .doubleStar
  | segment spelled =>
    have written := writtenFirst_nil_iff.1 (spelled.writtenFirst wf.1)
    refine .segment ?_ written
    intro same
    obtain rfl := same
    have stars : WrittenAll ['*', '*'] [.anyText, .anyText] :=
      .cons (.anyText ['*']) (.cons (.anyText []) .nil)
    exact wf.2 (Fragment.eq_of_flatMap_split_eq_stars wf.1 (stars.unique written))

theorem Component.Spelled.free {component : Component (List Fragment)}
    (h : component.Spelled s) (wf : component.WellFormed) : separator ∉ s := by
  cases h with
  | doubleStar => decide
  | segment spelled => exact spelled.free wf.1

namespace Pattern

/-! ### Whole patterns -/

variable {pattern : Pattern} {pieces : List Text}

theorem SpelledPieces.writtenPieces (h : SpelledPieces pattern pieces)
    (wf : ∀ component ∈ pattern, component.WellFormed) : WrittenPieces pieces pattern.split := by
  induction h with
  | nil => exact .nil
  | cons spelled _ ih =>
    rw [List.forall_mem_cons] at wf
    exact .cons (spelled.writtenPiece wf.1) (ih wf.2)

theorem SpelledPieces.free (h : SpelledPieces pattern pieces)
    (wf : ∀ component ∈ pattern, component.WellFormed) : ∀ piece ∈ pieces, separator ∉ piece := by
  induction h with
  | nil => simp
  | cons spelled _ ih =>
    rw [List.forall_mem_cons] at wf ⊢
    exact ⟨spelled.free wf.1, ih wf.2⟩

/-- A spelled pattern is read back with its literals split. -/
theorem parse_join_spelled (ne : pattern ≠ [])
    (wf : ∀ component ∈ pattern, component.WellFormed) (h : SpelledPieces pattern pieces) :
    parse (Text.join separator pieces) = .ok pattern.split := by
  have nePieces : pieces ≠ [] := by
    cases h with
    | nil => exact absurd rfl ne
    | cons _ _ => exact List.cons_ne_nil _ _
  rw [parse_eq_ok_iff, WrittenPattern, Text.pieces_join nePieces (h.free wf)]
  exact h.writtenPieces wf

end Pattern

end PathGlob
