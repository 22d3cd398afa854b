import PathGlob.GlobSet.History
import PathGlob.Proofs.Glob.Matching
import PathGlob.Proofs.GlobSet.Acceptance

/-!
# PathGlob.Proofs.GlobSet.History

**A rule set is what its history has added to it** (`ofHistory_follows`). The patterns in a set are
kept on record step by step, and a step either adds all of its patterns or, if one of them does not
compile, none.

What a set accepts depends on the record alone, and there only on which patterns occur: the list of
includes counts as empty or not, and otherwise both lists are searched for some pattern that
matches. So neither order nor repetition can be seen from outside.
-/

namespace PathGlob

/-! ### Compiling lists of patterns -/

theorem Glob.ofTexts_eq_ok_iff {texts : List Text} {globs : List Glob} :
    ofTexts texts = .ok globs ↔ globs.map Glob.text = texts := by
  induction texts generalizing globs with
  | nil => rw [ofTexts, Except.ok.injEq, List.map_eq_nil_iff, eq_comm]
  | cons text more ih =>
    rw [ofTexts, List.map_eq_cons_iff]
    simp only [← ofText_eq_ok_iff, ← ih]
    cases ofText text with
    | error error => simp
    | ok glob =>
      simp only [map_eq_ok_iff, Except.ok.injEq]
      constructor
      · intro h
        obtain ⟨rest, compiled, same⟩ := h
        exact ⟨glob, rest, same.symm, rfl, compiled⟩
      · intro h
        obtain ⟨_, rest, same, rfl, compiled⟩ := h
        exact ⟨rest, compiled, same.symm⟩

namespace GlobSet

variable {set next other : GlobSet} {step : Step} {candidate : Text}

/-- The include and the exclude patterns of a set, with repetitions. -/
def patterns (set : GlobSet) : List Text × List Text :=
  (set.includes.map Glob.text, set.excludes.map Glob.text)

theorem patterns_extend :
    (set.extend other).patterns =
      (set.patterns.1 ++ other.patterns.1, set.patterns.2 ++ other.patterns.2) := by
  rw [patterns, extend, List.map_append, List.map_append]
  rfl

theorem ofTexts_eq_ok_iff {includes excludes : List Text} :
    ofTexts includes excludes = .ok set ↔ set.patterns = (includes, excludes) := by
  rw [patterns, Prod.mk.injEq, ← Glob.ofTexts_eq_ok_iff, ← Glob.ofTexts_eq_ok_iff, ofTexts]
  cases Glob.ofTexts includes with
  | error error => simp
  | ok globs =>
    simp only [map_eq_ok_iff, Except.ok.injEq]
    constructor
    · intro h
      obtain ⟨_, compiled, rfl⟩ := h
      exact ⟨rfl, compiled⟩
    · intro h
      obtain ⟨rfl, compiled⟩ := h
      exact ⟨set.excludes, compiled, rfl⟩

theorem exists_ofTexts_iff {includes excludes : List Text} :
    (∃ set, ofTexts includes excludes = .ok set) ↔
      ∀ pattern ∈ includes ++ excludes, Glob.compiles pattern = true := by
  simp only [ofTexts_eq_ok_iff, patterns, Prod.mk.injEq, List.forall_mem_append,
    ← Glob.exists_map_text_iff]
  constructor
  · intro h
    obtain ⟨set, same, same'⟩ := h
    exact ⟨⟨set.includes, same⟩, set.excludes, same'⟩
  · intro h
    obtain ⟨⟨globs, same⟩, globs', same'⟩ := h
    exact ⟨⟨globs, globs'⟩, same, same'⟩

/-! ### One step -/

/-- The patterns that a step compiles. -/
def Step.patterns : Step → List Text
  | .addInclude pattern | .addExclude pattern => [pattern]
  | .extend includes excludes => includes ++ excludes
  | .extendSelf | .clear => []

theorem exists_apply_iff :
    (∃ next, set.apply step = .ok next) ↔
      ∀ pattern ∈ step.patterns, Glob.compiles pattern = true := by
  have extended (includes excludes : List Text) :
      (∃ next, (ofTexts includes excludes).map set.extend = .ok next) ↔
        ∀ pattern ∈ includes ++ excludes, Glob.compiles pattern = true := by
    rw [← exists_ofTexts_iff]
    cases ofTexts includes excludes <;> simp [Except.map]
  cases step with
  | addInclude pattern => exact extended [pattern] []
  | addExclude pattern => exact extended [] [pattern]
  | extend includes excludes => exact extended includes excludes
  | extendSelf => simp [apply, Step.patterns]
  | clear => simp [apply, Step.patterns]

theorem exists_error_iff :
    (∃ error, set.apply step = .error error) ↔
      ∃ pattern ∈ step.patterns, Glob.compiles pattern = false := by
  have ok := not_congr (@exists_apply_iff set step)
  simp only [not_forall, Bool.not_eq_true, exists_prop] at ok
  rw [← ok]
  cases set.apply step <;> simp

/-- A step with a pattern that does not compile adds none of its patterns. -/
theorem recordStep_of_exists (record : List Text × List Text)
    (h : ∃ pattern ∈ step.patterns, Glob.compiles pattern = false) :
    recordStep record step = record := by
  obtain ⟨pattern, mem, fails⟩ := h
  cases step with
  | addInclude other =>
    obtain rfl := List.mem_singleton.1 mem
    simp [recordStep, fails]
  | addExclude other =>
    obtain rfl := List.mem_singleton.1 mem
    simp [recordStep, fails]
  | extend includes excludes =>
    have refused : ¬ ((includes.all Glob.compiles && excludes.all Glob.compiles) = true) := by
      rw [← List.all_append, List.all_eq_true]
      intro all
      rw [all pattern mem] at fails
      cases fails
    exact if_neg refused
  | extendSelf => cases mem
  | clear => cases mem

theorem patterns_of_map_extend {includes excludes : List Text}
    (h : (ofTexts includes excludes).map set.extend = .ok next) :
    next.patterns = (set.patterns.1 ++ includes, set.patterns.2 ++ excludes) := by
  obtain ⟨more, compiled, rfl⟩ := map_eq_ok_iff.1 h
  rw [patterns_extend, ofTexts_eq_ok_iff.1 compiled]

/-- The patterns of a set after a step are the record after the step, whether it fails or not. -/
theorem patterns_after (set : GlobSet) (step : Step) :
    (set.after step).patterns = recordStep set.patterns step := by
  rw [after]
  cases outcome : set.apply step with
  | error error => exact (recordStep_of_exists _ (exists_error_iff.1 ⟨error, outcome⟩)).symm
  | ok next =>
    have compile := exists_apply_iff.1 ⟨next, outcome⟩
    cases step with
    | addInclude pattern =>
      have compiles : Glob.compiles pattern = true := compile pattern List.mem_cons_self
      rw [patterns_of_map_extend outcome, recordStep, if_pos compiles, List.append_nil]
    | addExclude pattern =>
      have compiles : Glob.compiles pattern = true := compile pattern List.mem_cons_self
      rw [patterns_of_map_extend outcome, recordStep, if_pos compiles, List.append_nil]
    | extend includes excludes =>
      have all : (includes.all Glob.compiles && excludes.all Glob.compiles) = true := by
        rw [← List.all_append, List.all_eq_true]
        exact compile
      rw [patterns_of_map_extend outcome, recordStep, if_pos all]
    | extendSelf =>
      cases outcome
      exact patterns_extend
    | clear =>
      cases outcome
      rfl

/-! ### Histories -/

theorem ofHistory_append (before later : List Step) :
    ofHistory (before ++ later) = later.foldl after (ofHistory before) :=
  List.foldl_append

/-- The patterns of a set are the record of its history. -/
theorem patterns_ofHistory (steps : List Step) : (ofHistory steps).patterns = recordOf steps := by
  induction steps using List.reverseRecOn with
  | nil => rfl
  | append_singleton steps step ih =>
    rw [ofHistory_append, List.foldl_cons, List.foldl_nil, patterns_after, ih, recordOf, recordOf,
      List.foldl_append, List.foldl_cons, List.foldl_nil]

/-- Nothing in front of a clearing counts. -/
theorem ofHistory_append_clear (before since : List Step) :
    ofHistory (before ++ .clear :: since) = ofHistory since := by
  rw [ofHistory_append, List.foldl_cons]
  rfl

/-- A step that fails might as well not be there. -/
theorem ofHistory_append_failing (before later : List Step)
    (h : ∃ pattern ∈ step.patterns, Glob.compiles pattern = false) :
    ofHistory (before ++ step :: later) = ofHistory (before ++ later) := by
  obtain ⟨error, failed⟩ := (@exists_error_iff (ofHistory before) step).2 h
  rw [ofHistory_append, ofHistory_append, List.foldl_cons, after, failed]

/-! ### Verdicts -/

/-- The glob of some pattern in the list matches the candidate. -/
def SomeMatch (texts : List Text) (candidate : Text) : Prop :=
  ∃ text ∈ texts, ∃ glob, Glob.ofText text = .ok glob ∧ glob.isMatch candidate = true

/-- What becomes of a candidate by include and exclude patterns: it is accepted if there is no
include pattern or one that matches, and no exclude pattern matches. -/
def Verdict (record : List Text × List Text) (candidate : Text) : Prop :=
  (record.1 = [] ∨ SomeMatch record.1 candidate) ∧ ¬ SomeMatch record.2 candidate

theorem someMatch_map_text {globs : List Glob} :
    SomeMatch (globs.map Glob.text) candidate ↔ ∃ glob ∈ globs, glob.isMatch candidate = true := by
  simp only [SomeMatch, List.mem_map]
  constructor
  · intro h
    obtain ⟨_, ⟨glob, mem, rfl⟩, other, compiled, matched⟩ := h
    obtain rfl : other = glob :=
      Except.ok.inj (compiled.symm.trans (Glob.ofText_eq_ok_iff.2 rfl))
    exact ⟨other, mem, matched⟩
  · intro h
    obtain ⟨glob, mem, matched⟩ := h
    exact ⟨glob.text, ⟨glob, mem, rfl⟩, glob, Glob.ofText_eq_ok_iff.2 rfl, matched⟩

theorem accepts_iff_verdict : set.accepts candidate = true ↔ Verdict set.patterns candidate := by
  rw [accepts_iff, Verdict, patterns, someMatch_map_text, someMatch_map_text, List.map_eq_nil_iff,
    or_comm]

/-- The verdict depends on which patterns there are, not on their order or number. -/
theorem Verdict.congr {record record' : List Text × List Text}
    (includes : ∀ text, text ∈ record.1 ↔ text ∈ record'.1)
    (excludes : ∀ text, text ∈ record.2 ↔ text ∈ record'.2) :
    Verdict record candidate ↔ Verdict record' candidate := by
  simp only [Verdict, SomeMatch, List.eq_nil_iff_forall_not_mem, includes, excludes]

/-! ### Main result -/

/-- What is known of a rule set from the steps that have led to it. -/
structure FollowsHistory (steps : List Step) (set : GlobSet) : Prop where
  /-- Its lists hold the patterns on record, in order and with repetitions. -/
  lists : (set.includes.map Glob.text, set.excludes.map Glob.text) = recordOf steps
  /-- Only the steps since a clearing count. -/
  cleared : ∀ before since, steps = before ++ .clear :: since → set = ofHistory since
  /-- A step fails if one of its patterns does not compile. -/
  fails_iff : ∀ step, (∃ error, set.apply step = .error error) ↔
    ∃ pattern ∈ step.patterns, Glob.compiles pattern = false
  /-- Steps that fail have changed nothing. -/
  failed : ∀ before step later, steps = before ++ step :: later →
    (∃ pattern ∈ step.patterns, Glob.compiles pattern = false) → set = ofHistory (before ++ later)
  /-- Candidates are accepted by the patterns on record. -/
  verdict : ∀ candidate, set.accepts candidate = true ↔ Verdict (recordOf steps) candidate
  /-- A history that leaves the same patterns, in whatever order and number, accepts the same. -/
  same : ∀ others, (∀ text, text ∈ (recordOf steps).1 ↔ text ∈ (recordOf others).1) →
    (∀ text, text ∈ (recordOf steps).2 ↔ text ∈ (recordOf others).2) →
    ∀ candidate, set.accepts candidate = (ofHistory others).accepts candidate

/-- **Histories.** The lists of a rule set hold the patterns that the steps since the last clearing
have added, where a step with a pattern that does not compile adds none, and its verdicts depend on
nothing but which patterns these are. -/
theorem ofHistory_follows (steps : List Step) : FollowsHistory steps (ofHistory steps) where
  lists := patterns_ofHistory steps
  cleared := by
    intro before since same
    rw [same, ofHistory_append_clear]
  fails_iff := fun step => exists_error_iff
  failed := by
    intro before step later same fails
    rw [same, ofHistory_append_failing before later fails]
  verdict := by
    intro candidate
    rw [accepts_iff_verdict, patterns_ofHistory]
  same := by
    intro others includes excludes candidate
    rw [Bool.eq_iff_iff, accepts_iff_verdict, accepts_iff_verdict, patterns_ofHistory,
      patterns_ofHistory]
    exact Verdict.congr includes excludes

/-- A history with a clearing, a step that fails for the second of its patterns, and a repetition,
beside a short one that leaves the same patterns. -/
theorem ofHistory_follows_repeated :
    let steps : List Step := [.addExclude "x".toList, .clear, .addInclude "a*".toList,
      .extend ["c".toList] ["[".toList], .extendSelf, .extend ["b".toList] ["?[!x]".toList]]
    let others : List Step := [.extend ["b".toList, "a*".toList] ["?[!x]".toList]]
    (ofHistory steps).patterns =
        (["a*".toList, "a*".toList, "b".toList], ["?[!x]".toList]) ∧
      ∀ candidate, (ofHistory steps).accepts candidate = (ofHistory others).accepts candidate := by
  intro steps others
  have record : recordOf steps =
      (["a*".toList, "a*".toList, "b".toList], ["?[!x]".toList]) := by decide +kernel
  have record' : recordOf others = (["b".toList, "a*".toList], ["?[!x]".toList]) := by
    decide +kernel
  have follows := ofHistory_follows steps
  refine ⟨follows.lists.trans record, follows.same others ?_ ?_⟩
  · rw [record, record']
    simp [or_comm]
  · rw [record, record']
    simp

end GlobSet

end PathGlob
