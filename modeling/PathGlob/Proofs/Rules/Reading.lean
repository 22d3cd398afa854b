import PathGlob.Proofs.Glob.Matching
import PathGlob.Proofs.Rules.Meaning
import PathGlob.Proofs.Toml.Reading

/-!
# PathGlob.Proofs.Rules.Reading

**A written rules file is read back** (`ofDocument_eq_ok_iff_of_isListing`). Comments, lists of
other names and the order of the lists do not matter. So there is a rules file for every rule set.
-/

namespace PathGlob.Rules

open Toml (Value Entries HasList IsString IsStrings)

variable {value : Value} {entries : Entries} {lists : List (Text × List Text)} {name : Text}
  {texts : List Text} {globs : List Glob} {set : GlobSet}

theorem forall₂_isGlob_iff {items : List Value} (h : List.Forall₂ IsString items texts) :
    List.Forall₂ IsGlob items globs ↔ globs.map Glob.text = texts := by
  induction h generalizing globs with
  | nil => simp
  | @cons item text items texts isString _ ih =>
    obtain ⟨⟩ := isString
    rw [List.forall₂_cons_left_iff, List.map_eq_cons_iff]
    simp only [ih]
    constructor
    · rintro ⟨glob, more, ⟨compiled⟩, same, rfl⟩
      exact ⟨glob, more, rfl, Glob.ofText_eq_ok_iff.1 compiled, same⟩
    · rintro ⟨glob, more, rfl, compiled, same⟩
      exact ⟨glob, more, .string (Glob.ofText_eq_ok_iff.2 compiled), same, rfl⟩

theorem isGlobs_iff (h : IsStrings value texts) :
    IsGlobs value globs ↔ globs.map Glob.text = texts := by
  obtain ⟨areStrings⟩ := h
  constructor
  · rintro ⟨_, ⟨⟩, areGlobs⟩
    exact (forall₂_isGlob_iff areStrings).1 areGlobs
  · exact fun same => ⟨_, .array, (forall₂_isGlob_iff areStrings).2 same⟩

/-- The globs under a name are those of the list of that name. -/
theorem hasGlobs_iff (h : List.Forall₂ HasList entries lists)
    (distinct : (Toml.names entries).Nodup) :
    HasGlobs entries name globs ↔ globs.map Glob.text = (lists.lookup name).getD [] := by
  rw [← replaces_nil_iff]
  induction h with
  | nil => simp [replaces_empty]
  | @cons entry list entries lists hasList _ ih =>
    obtain ⟨key, value⟩ := entry
    obtain ⟨listName, texts⟩ := list
    obtain ⟨same, areStrings⟩ := hasList
    obtain rfl : key.name = listName := same
    obtain ⟨absent, distinct⟩ := List.nodup_cons.1 distinct
    by_cases here : key.name = name
    · subst here
      rw [replaces_cons_of_eq absent, isGlobs_iff areStrings, List.lookup_cons_self,
        Option.getD_some]
    · have other : (name == key.name) = false := beq_false_of_ne (Ne.symm here)
      rw [replaces_cons_of_ne here, ih distinct, List.lookup_cons, other]

/-- **A written rules file is read back.** -/
theorem ofDocument_eq_ok_iff_of_isListing {document : Text} (h : Toml.IsListing document lists)
    (once : (lists.map (·.1)).Nodup) :
    (ofDocument document).1 = .ok set ↔
      set.includes.map Glob.text = (lists.lookup "include".toList).getD [] ∧
        set.excludes.map Glob.text = (lists.lookup "exclude".toList).getD [] := by
  obtain ⟨entries, read, hasLists⟩ := Toml.document_of_isListing h once
  have distinct := Toml.names_document_nodup read
  rw [ofDocument_eq_ok_iff, read]
  simp only [Except.ok.injEq, exists_eq_left']
  rw [← hasGlobs_iff hasLists distinct, ← hasGlobs_iff hasLists distinct]
  exact ⟨fun h => ⟨h.includes, h.excludes⟩, fun h => ⟨h.1, h.2⟩⟩

/-- There is a rules file for every rule set. -/
theorem exists_ofDocument_eq_ok (set : GlobSet) :
    ∃ document, (ofDocument document).1 = .ok set := by
  have isInclude : Toml.IsBareKey "include".toList := by decide
  have isExclude : Toml.IsBareKey "exclude".toList := by decide
  have once : ["include".toList, "exclude".toList].Nodup := by decide
  have listing : Toml.IsListing
      (Toml.writeList "include".toList (set.includes.map Glob.text) ++
        '\n' :: Toml.writeList "exclude".toList (set.excludes.map Glob.text))
      [("include".toList, set.includes.map Glob.text),
        ("exclude".toList, set.excludes.map Glob.text)] := .list isInclude (.last isExclude)
  exact ⟨_, (ofDocument_eq_ok_iff_of_isListing listing once).2 ⟨rfl, rfl⟩⟩

/-- A document whose only line excludes one pattern. -/
theorem exists_hasRules_exclude {pattern : Text} {glob : Glob}
    (compiled : Glob.ofText pattern = .ok glob) : ∃ entries,
      Toml.document (Toml.writeList "exclude".toList [pattern]) = .ok entries ∧
        HasRules entries { includes := [], excludes := [glob] } := by
  have isExclude : Toml.IsBareKey "exclude".toList := by decide
  have listing : Toml.IsListing (Toml.writeList "exclude".toList [pattern])
      [("exclude".toList, [pattern])] := .last isExclude
  refine ofDocument_eq_ok_iff.1 ((ofDocument_eq_ok_iff_of_isListing listing ?_).2 ⟨rfl, ?_⟩)
  · exact List.nodup_singleton _
  · exact congrArg (fun text => [text]) (Glob.ofText_eq_ok_iff.1 compiled)

end PathGlob.Rules
