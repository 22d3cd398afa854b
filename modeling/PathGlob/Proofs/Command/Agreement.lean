import PathGlob.Proofs.Command.Filter
import PathGlob.Proofs.Glob.Matching

/-!
# PathGlob.Proofs.Command.Agreement

**A check and a filter judge alike.** A check marks every candidate, a filter that includes a
pattern prints the candidates that the check of it marks as matching, and a filter that excludes it
prints the others (`check_agrees_with_filters`).

The three go different ways: the check asks the glob, a set with one include glob asks whether some
include glob matches, and a set with one exclude glob admits everything first. What the check says
about a candidate is taken from what it prints. As the candidates are known and both markers are of
the same length, only one choice of marks can have been printed (`markedLines_inj`).
-/

namespace PathGlob

namespace GlobSet

/-- With one include glob and nothing else a set accepts what the glob matches. -/
theorem accepts_singleton_include (glob : Glob) :
    accepts { includes := [glob], excludes := [] } = glob.isMatch := by
  funext candidate
  simp [accepts]

/-- With one exclude glob and nothing else a set accepts what the glob does not match. -/
theorem accepts_singleton_exclude (glob : Glob) :
    accepts { includes := [], excludes := [glob] } = fun candidate => !glob.isMatch candidate := by
  funext candidate
  simp [accepts]

end GlobSet

namespace Command

variable {glob : Glob} {pattern : Text} {candidates : List Text}
  {readFile : Text → Except FileFault (List UInt8)} {stdin : List UInt8}

/-! ### Marked candidates -/

/-- A candidate with what a check says about it. -/
@[ext]
structure Marked where
  candidate : Text
  matched : Bool

/-- The words for a mark, in a column of their own. -/
def marker (matched : Bool) : Text :=
  if matched then "match   ".toList else "no match".toList

/-- The lines of marked candidates without colors. -/
def markedLines (marked : List Marked) : Text :=
  marked.flatMap fun m => marker m.matched ++ ' ' :: m.candidate ++ ['\n']

/-- The candidates with the given mark. -/
def withMark (matched : Bool) (marked : List Marked) : List Text :=
  (marked.filter (·.matched = matched)).map Marked.candidate

theorem markedLines_cons (m : Marked) (more : List Marked) :
    markedLines (m :: more) =
      marker m.matched ++ ' ' :: (m.candidate ++ '\n' :: markedLines more) := by
  simp [markedLines]

/-- The markers are of the same length, so that none is the start of the other. -/
theorem marker_append_inj {a b : Bool} {s t : Text} (same : marker a ++ s = marker b ++ t) :
    a = b ∧ s = t := by
  have sameLength : ∀ a b, (marker a).length = (marker b).length := by decide
  have injective : ∀ a b, marker a = marker b → a = b := by decide
  obtain ⟨words, rest⟩ := List.append_inj same (sameLength a b)
  exact ⟨injective a b words, rest⟩

/-- Marks can be read from their lines if the candidates are known. -/
theorem markedLines_inj {first second : List Marked}
    (candidates : first.map Marked.candidate = second.map Marked.candidate)
    (same : markedLines first = markedLines second) : first = second := by
  induction first generalizing second with
  | nil => exact (List.map_eq_nil_iff.1 candidates.symm).symm
  | cons m first ih =>
    cases second with
    | nil => cases candidates
    | cons n second =>
      obtain ⟨sameCandidate, candidates⟩ := List.cons.inj candidates
      rw [markedLines_cons, markedLines_cons] at same
      obtain ⟨sameMark, same⟩ := marker_append_inj same
      rw [sameCandidate, List.cons.injEq, List.append_cancel_left_eq, List.cons.injEq] at same
      rw [Marked.ext sameCandidate sameMark, ih candidates same.2.2]

/-- Every candidate has one of the two marks. -/
theorem withMark_append_perm (marked : List Marked) :
    (withMark true marked ++ withMark false marked).Perm (marked.map Marked.candidate) := by
  have split := List.filter_append_perm (fun m : Marked => decide (m.matched = true)) marked
  rw [withMark, withMark, ← List.map_append]
  simpa using split.map Marked.candidate

/-! ### What the commands print -/

/-- The candidates as the check of a glob marks them. -/
def marksOf (glob : Glob) (candidates : List Text) : List Marked :=
  candidates.map fun candidate => { candidate, matched := glob.isMatch candidate }

@[simp] theorem map_candidate_marksOf :
    (marksOf glob candidates).map Marked.candidate = candidates := by
  simp [marksOf, Function.comp_def]

theorem withMark_marksOf (matched : Bool) :
    withMark matched (marksOf glob candidates) =
      candidates.filter fun candidate => glob.isMatch candidate = matched := by
  simp [withMark, marksOf, List.filter_map, Function.comp_def]

theorem run_check (compiled : Glob.ofText pattern = .ok glob) :
    let report := (Command.check pattern candidates).run false readFile stdin
    report.stdout = markedLines (marksOf glob candidates) ∧
      report.exitCode = if candidates.all glob.isMatch then 0 else 1 := by
  simp only [run, checkReport, compiled, checkGlob, Report.exitCode]
  constructor
  · rw [markedLines, marksOf, List.flatMap_map]
    rfl
  · cases candidates.all glob.isMatch <;> rfl

/-- A filter without a rules file prints the arguments that its options accept. -/
theorem run_filter_options (nonempty : candidates ≠ []) (set : GlobSet)
    (readFile : Text → Except FileFault (List UInt8)) (stdin : List UInt8) :
    let report :=
      (Command.filter set.includes set.excludes none candidates).run false readFile stdin
    report.stdout = Text.unlines (candidates.filter set.accepts) ∧ report.exitCode = 0 := by
  have rulesOk : (rulesOf set.includes set.excludes none readFile).1 = .ok set := rfl
  intro report
  have ending : report.ending = .ok .success := by
    rw [ending_run_filter rulesOk, candidatesOf_of_ne_nil nonempty]
    rfl
  refine ⟨?_, by rw [Report.exitCode, ending]⟩
  rw [stdout_run_filter rulesOk, candidatesOf_of_ne_nil nonempty]

/-- The filter that includes a glob prints the candidates that its check marks as matching. -/
theorem run_filter_include (nonempty : candidates ≠ []) :
    let report := (Command.filter [glob] [] none candidates).run false readFile stdin
    report.stdout = Text.unlines (withMark true (marksOf glob candidates)) ∧
      report.exitCode = 0 := by
  have options := run_filter_options nonempty { includes := [glob], excludes := [] } readFile stdin
  rw [GlobSet.accepts_singleton_include] at options
  simpa [withMark_marksOf] using options

/-- The filter that excludes a glob prints the candidates that its check marks as not matching. -/
theorem run_filter_exclude (nonempty : candidates ≠ []) :
    let report := (Command.filter [] [glob] none candidates).run false readFile stdin
    report.stdout = Text.unlines (withMark false (marksOf glob candidates)) ∧
      report.exitCode = 0 := by
  have options := run_filter_options nonempty { includes := [], excludes := [glob] } readFile stdin
  rw [GlobSet.accepts_singleton_exclude] at options
  simpa [withMark_marksOf] using options

/-- All candidates match if and only if those that do are printed to the same text as all. -/
theorem unlines_withMark_iff :
    Text.unlines (withMark true (marksOf glob candidates)) = Text.unlines candidates ↔
      candidates.all glob.isMatch = true := by
  rw [withMark_marksOf, Text.unlines_eq_iff_of_sublist List.filter_sublist, List.filter_eq_self,
    List.all_eq_true]
  simp only [decide_eq_true_eq]

/-! ### Main result -/

/-- **A check and two filters.** A check marks every candidate in order. The filter that includes
the pattern prints the candidates marked as matching, the one that excludes it the others, in order
and as often as they are there. The check succeeds if and only if the first of them prints all
candidates, and otherwise ends with exit code 1. -/
theorem check_agrees_with_filters (compiled : Glob.ofText pattern = .ok glob)
    (nonempty : candidates ≠ []) (readFile : Text → Except FileFault (List UInt8))
    (stdin : List UInt8) :
    let checked := (Command.check pattern candidates).run false readFile stdin
    let included := (Command.filter [glob] [] none candidates).run false readFile stdin
    let excluded := (Command.filter [] [glob] none candidates).run false readFile stdin
    ∃ marked : List Marked, marked.map Marked.candidate = candidates ∧
      (∀ others : List Marked, others.map Marked.candidate = candidates →
        (checked.stdout = markedLines others ↔ others = marked)) ∧
      included.stdout = Text.unlines (withMark true marked) ∧
      excluded.stdout = Text.unlines (withMark false marked) ∧
      (withMark true marked ++ withMark false marked).Perm candidates ∧
      included.exitCode = 0 ∧ excluded.exitCode = 0 ∧
      (checked.exitCode = 0 ↔ included.stdout = Text.unlines candidates) ∧
      (checked.exitCode ≠ 0 → checked.exitCode = 1) := by
  intro checked included excluded
  obtain ⟨lines, code⟩ : checked.stdout = markedLines (marksOf glob candidates) ∧
      checked.exitCode = if candidates.all glob.isMatch then 0 else 1 := run_check compiled
  obtain ⟨matching, includedOk⟩ : included.stdout = _ ∧ included.exitCode = 0 :=
    run_filter_include nonempty
  obtain ⟨others, excludedOk⟩ : excluded.stdout = _ ∧ excluded.exitCode = 0 :=
    run_filter_exclude nonempty
  refine ⟨marksOf glob candidates, map_candidate_marksOf, fun again same => ?_, matching, others,
    ?_, includedOk, excludedOk, ?_, ?_⟩
  · rw [lines]
    refine ⟨fun printed => ?_, fun printed => printed ▸ rfl⟩
    exact (markedLines_inj (map_candidate_marksOf.trans same.symm) printed).symm
  · simpa using withMark_append_perm (marksOf glob candidates)
  · rw [matching, unlines_withMark_iff, code]
    cases candidates.all glob.isMatch <;> simp
  · rw [code]
    cases candidates.all glob.isMatch <;> simp

/-- A candidate that is there twice, one that looks like a marked one, and an empty one. -/
theorem check_agrees_with_filters_twice :
    ∃ glob, Glob.ofText "[!m]*".toList = .ok glob ∧
      let candidates := ["a".toList, "match    a".toList, "a".toList, "".toList]
      let readFile : Text → Except FileFault (List UInt8) := fun _ => .error .notFound
      candidates ≠ [] ∧
        ∃ marked : List Marked, marked.map Marked.candidate = candidates ∧
          ((Command.check "[!m]*".toList candidates).run false readFile []).stdout =
            markedLines marked ∧
          ((Command.filter [glob] [] none candidates).run false readFile []).stdout =
            Text.unlines (withMark true marked) ∧
          ((Command.filter [] [glob] none candidates).run false readFile []).stdout =
            Text.unlines (withMark false marked) := by
  obtain ⟨glob, compiled⟩ := Glob.exists_of_compiles
    (show Glob.compiles "[!m]*".toList = true by decide +kernel)
  refine ⟨glob, compiled, ?_⟩
  intro candidates readFile
  have nonempty : candidates ≠ [] := List.cons_ne_nil _ _
  obtain ⟨marked, same, lines, matching, others, -⟩ :=
    check_agrees_with_filters compiled nonempty readFile []
  exact ⟨nonempty, marked, same, (lines marked same).2 rfl, matching, others⟩

end Command

end PathGlob
