import Mathlib
import PathGlob.Log.Filter
import PathGlob.Proofs.Text.Pieces

/-!
# PathGlob.Proofs.Log.Filter

**The most specific directive decides** (`Filter.passes_read`). The directives of a filter that
count are those that no later one with the same scope has replaced; of those that cover an event
one that is most specific says which levels pass, and without any nothing passes. A filter that is
the name of a level lets through what is at least as important (`Filter.passes_ofSetting_level`).

Directives are put into their place one after the other. What is kept is that none stands behind
a less specific one and that no two have the same scope (`Filter.Ordered`).
-/

namespace PathGlob.Log

namespace Directive

variable {d e f : Directive} {filter : Filter}

/-! ### Specificity -/

theorem moreSpecific_iff : d.moreSpecific e = true ↔
    e.reach < d.reach ∨ d.reach = e.reach ∧ e.fields.length < d.fields.length := by
  simp [moreSpecific]

theorem sameScope_iff : d.sameScope e = true ↔ d.target = e.target ∧ d.fields = e.fields := by
  simp [sameScope]

theorem sameScope_comm : d.sameScope e = e.sameScope d := by
  simp only [sameScope, eq_comm]

theorem sameScope_congr (h : d.sameScope e = true) : d.sameScope f = e.sameScope f := by
  obtain ⟨target, fields⟩ := sameScope_iff.1 h
  rw [sameScope, sameScope, target, fields]

/-- Directives of one scope are equally specific. -/
theorem reach_eq_of_sameScope (h : d.sameScope e = true) :
    d.reach = e.reach ∧ d.fields.length = e.fields.length := by
  obtain ⟨target, fields⟩ := sameScope_iff.1 h
  exact ⟨by rw [reach, reach, target], by rw [fields]⟩

theorem moreSpecific_congr (h : d.sameScope e = true) : d.moreSpecific f = e.moreSpecific f := by
  obtain ⟨reach, fields⟩ := reach_eq_of_sameScope h
  rw [moreSpecific, moreSpecific, reach, fields]

theorem moreSpecific_congr_right (h : d.sameScope e = true) :
    f.moreSpecific d = f.moreSpecific e := by
  obtain ⟨reach, fields⟩ := reach_eq_of_sameScope h
  rw [moreSpecific, moreSpecific, reach, fields]

theorem not_moreSpecific_trans (h : d.moreSpecific e = false) (h' : f.moreSpecific e = true) :
    d.moreSpecific f = false := by
  rw [← Bool.not_eq_true, moreSpecific_iff] at h ⊢
  rw [moreSpecific_iff] at h'
  omega

end Directive

namespace Filter

open Directive

variable {d e : Directive} {filter : Filter}

/-- None is behind a less specific one, and no two have the same scope. -/
def Ordered (filter : Filter) : Prop :=
  filter.Pairwise fun d e => e.moreSpecific d = false ∧ d.sameScope e = false

theorem ordered_cons_iff : Ordered (d :: filter) ↔
    (∀ e ∈ filter, e.moreSpecific d = false ∧ d.sameScope e = false) ∧ Ordered filter :=
  List.pairwise_cons

/-- What is in an ordered filter once a directive has been put into it: the directive, and the
others unless they have its scope. -/
theorem mem_insertInto_iff (ordered : Ordered filter) :
    e ∈ d.insertInto filter ↔ e = d ∨ e ∈ filter ∧ d.sameScope e = false := by
  induction filter with
  | nil => simp [Directive.insertInto]
  | cons f more ih =>
    obtain ⟨behind, ordered⟩ := ordered_cons_iff.1 ordered
    rw [Directive.insertInto]
    split
    · next same =>
      -- The directives behind the one that is replaced have other scopes
      have others (mem : e ∈ more) : d.sameScope e = false := by
        rw [sameScope_congr same, (behind e mem).2]
      simp only [List.mem_cons]
      constructor
      · rintro (rfl | mem)
        · exact .inl rfl
        · exact .inr ⟨.inr mem, others mem⟩
      · rintro (rfl | ⟨rfl | mem, other⟩)
        · exact .inl rfl
        · exact absurd same (by simp [other])
        · exact .inr mem
    split
    · next notSame more_specific =>
      -- What has the scope of the directive is not behind a less specific one
      have others (mem : e ∈ f :: more) : d.sameScope e = false := by
        rcases List.mem_cons.1 mem with rfl | mem
        · exact Bool.eq_false_iff.2 notSame
        · refine Bool.eq_false_iff.2 fun same => ?_
          rw [moreSpecific_congr same, (behind e mem).1] at more_specific
          cases more_specific
      rw [List.mem_cons]
      constructor
      · rintro (rfl | mem)
        · exact .inl rfl
        · exact .inr ⟨mem, others mem⟩
      · rintro (rfl | ⟨mem, -⟩)
        · exact .inl rfl
        · exact .inr mem
    · next notSame _ =>
      simp only [List.mem_cons, ih ordered]
      constructor
      · rintro (rfl | rfl | ⟨mem, other⟩)
        · exact .inr ⟨.inl rfl, Bool.eq_false_iff.2 notSame⟩
        · exact .inl rfl
        · exact .inr ⟨.inr mem, other⟩
      · rintro (rfl | ⟨rfl | mem, other⟩)
        · exact .inr (.inl rfl)
        · exact .inl rfl
        · exact .inr (.inr ⟨mem, other⟩)

/-- Putting a directive into an ordered filter leaves it ordered. -/
theorem Ordered.insertInto (h : Ordered filter) : Ordered (d.insertInto filter) := by
  induction filter with
  | nil => exact List.pairwise_singleton _ _
  | cons f more ih =>
    obtain ⟨behind, ordered⟩ := ordered_cons_iff.1 h
    rw [Directive.insertInto]
    split
    · next same =>
      refine ordered_cons_iff.2 ⟨fun e mem => ?_, ordered⟩
      rw [moreSpecific_congr_right same, sameScope_congr same]
      exact behind e mem
    split
    · next notSame more_specific =>
      have less (e : Directive) (mem : e ∈ f :: more) : e.moreSpecific f = false := by
        rcases List.mem_cons.1 mem with rfl | mem
        · simp [moreSpecific]
        · exact (behind e mem).1
      refine ordered_cons_iff.2 ⟨fun e mem => ?_, h⟩
      refine ⟨not_moreSpecific_trans (less e mem) more_specific, Bool.eq_false_iff.2 fun same => ?_⟩
      rw [moreSpecific_congr same, less e mem] at more_specific
      cases more_specific
    · next notSame notMore =>
      refine ordered_cons_iff.2 ⟨fun e mem => ?_, ih ordered⟩
      rcases (mem_insertInto_iff ordered).1 mem with rfl | ⟨mem, -⟩
      · exact ⟨Bool.eq_false_iff.2 notMore, by
          rw [sameScope_comm]
          exact Bool.eq_false_iff.2 notSame⟩
      · exact behind e mem

/-! ### What a text has -/

/-- The directive is there and none of its scope comes after it. -/
def Standing (directives : List Directive) (d : Directive) : Prop :=
  ∃ before after, directives = before ++ d :: after ∧ ∀ e ∈ after, e.sameScope d = false

theorem standing_cons_iff {directives : List Directive} : Standing (e :: directives) d ↔
    (d = e ∧ ∀ f ∈ directives, f.sameScope d = false) ∨ Standing directives d := by
  constructor
  · rintro ⟨before, after, same, last⟩
    cases before with
    | nil =>
      obtain ⟨rfl, rfl⟩ := List.cons.inj same
      exact .inl ⟨rfl, last⟩
    | cons f before =>
      obtain ⟨rfl, rfl⟩ := List.cons.inj same
      exact .inr ⟨before, after, rfl, last⟩
  · rintro (⟨rfl, last⟩ | ⟨before, after, rfl, last⟩)
    · exact ⟨[], directives, rfl, last⟩
    · exact ⟨e :: before, after, rfl, last⟩

theorem ordered_foldl {directives : List Directive} (h : Ordered filter) :
    Ordered (directives.foldl (fun all d => d.insertInto all) filter) := by
  induction directives generalizing filter with
  | nil => exact h
  | cons e directives ih => exact ih h.insertInto

/-- Putting directives into a filter one after the other leaves those that are not replaced. -/
theorem mem_foldl_iff {directives : List Directive} (ordered : Ordered filter) :
    d ∈ directives.foldl (fun all d => d.insertInto all) filter ↔
      Standing directives d ∨ d ∈ filter ∧ ∀ e ∈ directives, e.sameScope d = false := by
  induction directives generalizing filter with
  | nil => simp [Standing]
  | cons e directives ih =>
    rw [List.foldl_cons, ih ordered.insertInto, mem_insertInto_iff ordered, standing_cons_iff,
      List.forall_mem_cons]
    -- What is left is about the first directive alone: it stays, unless its scope comes again
    grind

/-- Of the directives that cover an event the first one is most specific. -/
theorem Ordered.passes (h : Ordered filter) (event : Event) :
    ((∀ d ∈ filter, d.covers event = false) ∧ filter.passes event = false) ∨
      ∃ d ∈ filter, d.covers event = true ∧
        (∀ e ∈ filter, e.covers event = true → e.moreSpecific d = false) ∧
        filter.passes event = decide (event.level.rank ≤ d.rank) := by
  cases found : filter.find? (·.covers event) with
  | none =>
    refine .inl ⟨fun d mem => ?_, by rw [Filter.passes, found]⟩
    exact Bool.eq_false_iff.2 (List.find?_eq_none.1 found d mem)
  | some d =>
    obtain ⟨covers, before, after, rfl, earlier⟩ := List.find?_eq_some_iff_append.1 found
    refine .inr ⟨d, by simp, covers, fun e mem covered => ?_, by rw [Filter.passes, found]⟩
    rcases List.mem_append.1 mem with mem | mem
    · have := earlier e mem
      simp [covered] at this
    · rcases List.mem_cons.1 mem with rfl | mem
      · simp [moreSpecific]
      · have behind := (List.pairwise_append.1 h).2.1
        exact (List.rel_of_pairwise_cons behind mem).1

/-! ### Names of levels -/

theorem ne_of_isAlpha {c d : Char} (letter : c.isAlpha = true) (other : d.isAlpha = false) :
    c ≠ d := by
  rintro rfl
  exact Bool.eq_false_iff.1 other letter

theorem isAlphanumeric_of_isAlpha {c : Char} (letter : c.isAlpha = true) :
    Text.isAlphanumeric c = true := by
  have ascii : c.toNat < 0x80 := by
    simp only [Char.isAlpha, Char.isUpper, Char.isLower, Bool.or_eq_true, Bool.and_eq_true,
      decide_eq_true_eq, ge_iff_le, UInt32.le_iff_toNat_le, c.toNat_val] at letter
    simp at letter
    omega
  rw [Text.isAlphanumeric_of_lt ascii, Char.isAlphanum, letter, Bool.true_or]

theorem isDigit_of_isAlpha {c : Char} (letter : c.isAlpha = true) : c.isDigit = false := by
  simp only [Char.isAlpha, Char.isUpper, Char.isLower, Char.isDigit, Bool.or_eq_true,
    Bool.and_eq_true, Bool.and_eq_false_iff, decide_eq_true_eq, decide_eq_false_iff_not,
    ge_iff_le, UInt32.le_iff_toNat_le, c.toNat_val] at letter ⊢
  simp at letter ⊢
  omega

/-- A word that starts with a letter is no number. -/
theorem unsigned?_cons_of_isAlpha {c : Char} {rest : Text} (letter : c.isAlpha = true) :
    Console.unsigned? (c :: rest) = none := by
  have notPlus : c ≠ '+' := ne_of_isAlpha letter rfl
  rw [Console.unsigned?]
  · simp [isDigit_of_isAlpha letter]
  · intro digits same
    exact notPlus (List.cons.inj same).1

/-- A word of letters that names a rank is a directive for all events. -/
theorem read?_word {t : Text} {rank : Nat} (letters : ∀ c ∈ t, c.isAlpha = true) (ne : t ≠ [])
    (named : rank? t = some rank) :
    Directive.read? t = some { target := none, span := none, fields := [], rank } := by
  obtain ⟨c, rest, rfl⟩ := List.exists_cons_of_ne_nil ne
  have letter := letters c List.mem_cons_self
  have noBlank : c.isWhitespace = false := by
    simp [Char.isWhitespace, ne_of_isAlpha letter]
  have whole : (c :: rest).takeWhile (fun c => c != '=' && c != '[') = c :: rest :=
    List.takeWhile_eq_self_iff.2 fun d mem => by
      simp [ne_of_isAlpha (letters d mem)]
  rw [Directive.read?, List.dropWhile_cons_of_neg (by simp [noBlank])]
  split
  · next rest' same => exact absurd (List.cons.inj same).1 (ne_of_isAlpha letter rfl)
  · next d rest' _ same =>
    obtain ⟨rfl, rfl⟩ := List.cons.inj same
    simp [isAlphanumeric_of_isAlpha letter, whole, named]
  · next same => cases same

theorem isAlpha_of_mem_level {level : Level} {t : Text}
    (h : t.map Char.toLower = level.name.toList.map Char.toLower) {c : Char} (mem : c ∈ t) :
    c.isAlpha = true := by
  have small : (level.name.toList.map Char.toLower).all Char.isLower = true := by
    cases level <;> rfl
  rw [← Char.isLower_toLower_eq_isAlpha]
  exact List.all_eq_true.1 small _ (h ▸ List.mem_map_of_mem mem)

theorem rank?_level {level : Level} {t : Text}
    (h : t.map Char.toLower = level.name.toList.map Char.toLower) :
    Directive.rank? t = some level.rank := by
  cases t with
  | nil => cases level <;> simp [Level.name] at h
  | cons c rest =>
    have letter := isAlpha_of_mem_level h List.mem_cons_self
    have found : ["off", "error", "warn", "info", "debug", "trace"].findIdx?
        (·.toList = level.name.toList.map Char.toLower) = some level.rank := by
      cases level <;> decide
    rw [Directive.rank?, unsigned?_cons_of_isAlpha letter, h]
    exact found

/-- The name of a level, in any case, is the filter that ends at its rank. -/
theorem read?_level {level : Level} {t : Text}
    (h : t.map Char.toLower = level.name.toList.map Char.toLower) :
    Filter.read? t = some (upTo level.rank) := by
  have letters : ∀ c ∈ t, c.isAlpha = true := fun c mem => isAlpha_of_mem_level h mem
  have ne : t ≠ [] := by
    rintro rfl
    cases level <;> simp [Level.name] at h
  have noComma : ',' ∉ t := fun mem => absurd (letters _ mem) (by decide)
  rw [Filter.read?, Text.pieces_of_not_mem noComma]
  simp [ne, read?_word letters ne (rank?_level h), Directive.isStatic, Directive.insertInto, upTo]

/-! ### Main results -/

/-- **The most specific directive decides.** The directives of a filter count unless they are about
spans or a later one has replaced them. If none of those covers an event it does not pass; otherwise
one of the most specific ones that cover it says which levels pass. -/
theorem passes_read {s : Text} {directives : List Directive}
    (read : ((Text.pieces ',' s).filter (!·.isEmpty)).mapM Directive.read? = some directives)
    (given : directives ≠ []) (event : Event) :
    ∃ filter, Filter.read? s = some filter ∧
      (((∀ d, Standing (directives.filter Directive.isStatic) d → d.covers event = false) ∧
          filter.passes event = false) ∨
        ∃ d, Standing (directives.filter Directive.isStatic) d ∧ d.covers event = true ∧
          (∀ e, Standing (directives.filter Directive.isStatic) e → e.covers event = true →
            e.moreSpecific d = false) ∧
          filter.passes event = decide (event.level.rank ≤ d.rank)) := by
  have empty : Ordered [] := List.Pairwise.nil
  refine ⟨_, by rw [Filter.read?, read]; simp [given]; rfl, ?_⟩
  have ordered : Ordered ((directives.filter Directive.isStatic).foldl
      (fun all d => d.insertInto all) []) := ordered_foldl empty
  simpa only [mem_foldl_iff empty, List.not_mem_nil, false_and, or_false] using
    ordered.passes event

/-- **A level lets through what is at least as important.** It may be written in any case. -/
theorem passes_ofSetting_level {level : Level} {t : Text}
    (h : t.map Char.toLower = level.name.toList.map Char.toLower) (event : Event) :
    (ofSetting (some t)).passes event = decide (event.level.rank ≤ level.rank) := by
  rw [ofSetting, Option.bind_some, read?_level h, Option.getD_some]
  simp [Filter.passes, upTo, Directive.covers]

end Filter

end PathGlob.Log
