import PathGlob.Proofs.Command.Filter
import PathGlob.Proofs.Glob.Matching

/-!
# PathGlob.Proofs.Command.Merging

**Merged rules stand between the rules that they come from** (`merged_between`). A rule set extended
by another one accepts what both accept and nothing that neither accepts; in between, include globs
of either side admit candidates and exclude globs of either side reject them. So a filter with a
rules file and options prints, line by line, at least what the file alone and the options alone
would both print, and at most what one of them would.
-/

namespace PathGlob.Command

variable {first second : GlobSet} {rules : Option Text}
  {readFile : Text → Except FileFault (List UInt8)} {candidates : List Text} {colored : Bool}
  {stdin : List UInt8}

/-! ### Sublists of candidates -/

theorem filter_both_sublist (given : List Text) :
    (given.filter fun candidate => first.accepts candidate && second.accepts candidate).Sublist
      (given.filter (first.extend second).accepts) := by
  refine List.monotone_filter_right given fun candidate both => ?_
  rw [Bool.and_eq_true] at both
  exact GlobSet.accepts_extend_of_both both.1 both.2

theorem filter_sublist_either (given : List Text) :
    (given.filter (first.extend second).accepts).Sublist
      (given.filter fun candidate => first.accepts candidate || second.accepts candidate) := by
  refine List.monotone_filter_right given fun candidate passes => ?_
  rw [Bool.or_eq_true]
  exact GlobSet.accepts_or_of_extend passes

/-! ### Filters with one source of rules -/

/-- With the rules of a file and those of options a filter prints what the merged rules accept. -/
theorem stdout_run_merged (file : FromFile readFile rules first) :
    ((Command.filter second.includes second.excludes rules candidates).run colored readFile
        stdin).stdout =
      Text.unlines ((candidatesOf candidates stdin).1.filter (first.extend second).accepts) :=
  stdout_run_filter (rulesOf_eq_ok_iff.2 ⟨first, file, rfl⟩)

/-- Without options a filter prints what the rules of the file accept. -/
theorem stdout_run_file (file : FromFile readFile rules first) :
    ((Command.filter [] [] rules candidates).run colored readFile stdin).stdout =
      Text.unlines ((candidatesOf candidates stdin).1.filter first.accepts) := by
  have alone : first.extend { includes := [], excludes := [] } = first := by
    simp only [GlobSet.extend, List.append_nil]
  exact stdout_run_filter (rulesOf_eq_ok_iff.2 ⟨first, file, alone⟩)

/-- Without a file a filter prints what the rules of the options accept. -/
theorem stdout_run_options :
    ((Command.filter second.includes second.excludes none candidates).run colored readFile
        stdin).stdout =
      Text.unlines ((candidatesOf candidates stdin).1.filter second.accepts) :=
  stdout_run_filter (rulesOf_eq_ok_iff.2 ⟨.empty, .absent, rfl⟩)

/-! ### Main result -/

/-- **Merging.** A candidate that two rule sets accept passes when one is extended by the other, and
one that passes is accepted by one of them; the order of the two does not matter, nor does that of
extending by a third one. The lines that a filter with a file and with options prints contain the
lines that file and options would both print alone, and are among those that one of them would. -/
theorem merged_between (first second : GlobSet) :
    (∀ candidate, first.accepts candidate = true → second.accepts candidate = true →
      (first.extend second).accepts candidate = true) ∧
    (∀ candidate, (first.extend second).accepts candidate = true →
      first.accepts candidate = true ∨ second.accepts candidate = true) ∧
    (∀ candidate,
      (first.extend second).accepts candidate = (second.extend first).accepts candidate) ∧
    (∀ third, (first.extend second).extend third = first.extend (second.extend third)) ∧
    ∀ readFile rules, FromFile readFile rules first → ∀ candidates colored stdin,
      let given := (candidatesOf candidates stdin).1
      let printed := given.filter (first.extend second).accepts
      ((Command.filter second.includes second.excludes rules candidates).run colored readFile
        stdin).stdout = Text.unlines printed ∧
      ((Command.filter [] [] rules candidates).run colored readFile stdin).stdout =
        Text.unlines (given.filter first.accepts) ∧
      ((Command.filter second.includes second.excludes none candidates).run colored readFile
        stdin).stdout = Text.unlines (given.filter second.accepts) ∧
      (given.filter fun candidate =>
        first.accepts candidate && second.accepts candidate).Sublist printed ∧
      printed.Sublist (given.filter fun candidate =>
        first.accepts candidate || second.accepts candidate) := by
  refine ⟨fun _ => GlobSet.accepts_extend_of_both, fun _ => GlobSet.accepts_or_of_extend,
    fun _ => GlobSet.accepts_extend_comm, GlobSet.extend_assoc, ?_⟩
  intro readFile rules file candidates colored stdin
  exact ⟨stdout_run_merged file, stdout_run_file file, stdout_run_options,
    filter_both_sublist _, filter_sublist_either _⟩

/-- The document `exclude = ["?"]` read from a file, with an include option, for arguments that the
file alone, both and the option alone accept. -/
theorem merged_between_exclude_include :
    let readFile : Text → Except FileFault (List UInt8) :=
      fun _ => .ok (Text.toBytes "exclude = [\"?\"]".toList)
    let given := ["ac".toList, "bc".toList, "b".toList]
    ∃ file glob, FromFile readFile (some "rules".toList) file ∧
      Glob.ofText "b*".toList = .ok glob ∧
      let printed := given.filter (file.extend { includes := [glob], excludes := [] }).accepts
      ((Command.filter [glob] [] (some "rules".toList) given).run false readFile []).stdout =
        Text.unlines printed ∧
      printed.Sublist (given.filter fun candidate =>
        file.accepts candidate || GlobSet.accepts ⟨[glob], []⟩ candidate) := by
  intro readFile given
  obtain ⟨glob, compiled⟩ := Glob.exists_of_compiles
    (show Glob.compiles "b*".toList = true by decide +kernel)
  obtain ⟨excluded, compiled'⟩ := Glob.exists_of_compiles
    (show Glob.compiles "?".toList = true by decide +kernel)
  obtain ⟨entries, document, hasRules⟩ := Rules.exists_hasRules_exclude compiled'
  have written : Toml.writeList "exclude".toList ["?".toList] = "exclude = [\"?\"]".toList := by
    decide
  rw [written] at document
  have fromFile :
      FromFile readFile (some "rules".toList) { includes := [], excludes := [excluded] } :=
    .read rfl document hasRules
  obtain ⟨-, -, -, -, filters⟩ := merged_between ⟨[], [excluded]⟩ ⟨[glob], []⟩
  obtain ⟨both, -, -, -, either⟩ := filters readFile _ fromFile given false []
  exact ⟨_, glob, fromFile, compiled, both, either⟩

end PathGlob.Command
