import PathGlob.Proofs.Command.Filter
import PathGlob.Proofs.Glob.Errors

/-!
# PathGlob.Proofs.Command.Outcome

**How commands end.** A command fails for a fault that its user can mend or for one that he cannot,
and both are said here by the arguments, files and input alone (`UsersFault`, `SystemFault`).
Patterns are compiled and rules are read before anything is printed or read from the input, so a
command that fails has printed nothing, unless it is a filter whose input breaks off
(`run_allOrNothing`).

What a run can come to is said once, by the kind of command (`Ran`); every part of the main result
is read off that.
-/

namespace PathGlob

/-- Rules cannot be taken from a file that cannot be read, is no text or does not hold rules, and
all of that is for the user to mend. -/
theorem Rules.ofFile_eq_error {path : Text} {contents : Except FileFault (List UInt8)}
    {failure : Failure} (h : (Rules.ofFile path contents).1 = .error failure) :
    failure.isUsers = true ∧
      ((∃ fault, contents = .error fault) ∨
        (∃ bytes, contents = .ok bytes ∧ ∀ t, Text.toBytes t ≠ bytes) ∨
        ∃ document problem, contents = .ok (Text.toBytes document) ∧
          (Rules.ofDocument document).1 = .error problem) := by
  cases contents with
  | error fault =>
    cases h
    exact ⟨rfl, .inl ⟨fault, rfl⟩⟩
  | ok bytes =>
    cases decoded : Text.ofBytes? bytes with
    | none =>
      simp only [ofFile, decoded, Except.error.injEq] at h
      subst h
      exact ⟨rfl, .inr (.inl ⟨bytes, rfl, Text.ofBytes?_eq_none_iff.1 decoded⟩)⟩
    | some document =>
      obtain rfl := Text.ofBytes?_eq_some_iff.1 decoded
      cases read : (ofDocument document).1 with
      | error problem =>
        simp only [ofFile, decoded, read, Except.error.injEq] at h
        subst h
        exact ⟨rfl, .inr (.inr ⟨document, problem, rfl, read⟩)⟩
      | ok set =>
        simp only [ofFile, decoded, read] at h
        cases h

namespace Command

variable {command : Command} {report : Report} {includes excludes : List Glob}
  {rules : Option Text} {candidates : List Text} {colored : Bool}
  {readFile : Text → Except FileFault (List UInt8)} {stdin : List UInt8}

/-! ### Faults -/

/-- The pattern that a command compiles when it is run. The globs of a filter come compiled. -/
def pattern? : Command → Option Text
  | .check pattern _ => some pattern
  | .explain pattern => some pattern
  | .filter _ _ _ _ => none

/-- What the user of a command has to mend before it can be run. -/
inductive UsersFault (readFile : Text → Except FileFault (List UInt8)) : Command → Prop
  /-- The pattern is none. -/
  | notPattern {command : Command} {pattern : Text} {fault : Pattern.Fault} :
    command.pattern? = some pattern → Pattern.parse pattern = .error fault →
    UsersFault readFile command
  /-- The rules file cannot be read. -/
  | unreadable {command : Command} {path : Text} {fault : FileFault} :
    Program.rulesFile? command = some path → readFile path = .error fault →
    UsersFault readFile command
  /-- The rules file is not valid UTF-8. -/
  | notText {command : Command} {path : Text} {bytes : List UInt8} :
    Program.rulesFile? command = some path → readFile path = .ok bytes →
    (∀ t, Text.toBytes t ≠ bytes) → UsersFault readFile command
  /-- The rules file is no document. -/
  | notDocument {command : Command} {path document : Text} {fault : Toml.Fault} :
    Program.rulesFile? command = some path → readFile path = .ok document.toBytes →
    Toml.document document = .error fault → UsersFault readFile command
  /-- Something is wrong with the entries of the document in the rules file. -/
  | notRules {command : Command} {path document : Text} {entries : Toml.Entries}
    {problem : Toml.Problem} :
    Program.rulesFile? command = some path → readFile path = .ok document.toBytes →
    Toml.document document = .ok entries → Rules.EntriesProblem entries problem →
    UsersFault readFile command

/-- A filter of the input, some line of which is not valid UTF-8. -/
inductive BreaksOff (stdin : List UInt8) : Command → Prop
  | intro {includes excludes : List Glob} {rules : Option Text} {lines : List (List UInt8)}
    {line : List UInt8} : IsLines 0x0A 0x0D stdin lines → line ∈ lines →
    (∀ t, Text.toBytes t ≠ line) → BreaksOff stdin (.filter includes excludes rules [])

/-- What keeps a command from its work that its user cannot mend. -/
inductive SystemFault (readFile : Text → Except FileFault (List UInt8)) (stdin : List UInt8) :
    Command → Prop
  /-- A segment of the pattern is too large to be compiled. -/
  | tooLarge {command : Command} {text : Text} {pattern : Pattern} {fragments : List Fragment} :
    command.pattern? = some text → Pattern.parse text = .ok pattern →
    .segment fragments ∈ pattern →
    Expression.compile (Expression.ofFragments fragments) = .error .tooLarge →
    SystemFault readFile stdin command
  /-- The rules are fine but the input breaks off. -/
  | input {command : Command} {file : GlobSet} :
    FromFile readFile (Program.rulesFile? command) file → BreaksOff stdin command →
    SystemFault readFile stdin command

/-- A check with a candidate that does not match. -/
inductive HasMismatch : Command → Prop
  | intro {pattern candidate : Text} {candidates : List Text} {glob : Glob} :
    Glob.ofText pattern = .ok glob → candidate ∈ candidates → glob.isMatch candidate = false →
    HasMismatch (.check pattern candidates)

/-! ### What a run can come to -/

/-- The reports of a command, by what it does. -/
inductive Ran (readFile : Text → Except FileFault (List UInt8)) (stdin : List UInt8) :
    Command → Report → Prop
  | refused {command : Command} {pattern : Text} {error : Glob.Error} {events : List Log.Event} :
    command.pattern? = some pattern → Glob.ofText pattern = .error error →
    Ran readFile stdin command (.failed (.ofGlobError error) events)
  | checked {pattern : Text} {candidates : List Text} {glob : Glob} {report : Report} :
    Glob.ofText pattern = .ok glob →
    report.ending = .ok (if candidates.all glob.isMatch then .success else .mismatch) →
    Ran readFile stdin (.check pattern candidates) report
  | explained {pattern : Text} {glob : Glob} {report : Report} :
    Glob.ofText pattern = .ok glob → report.ending = .ok .success →
    Ran readFile stdin (.explain pattern) report
  | noRules {includes excludes : List Glob} {rules : Option Text} {candidates : List Text}
    {failure : Failure} {events : List Log.Event} :
    (rulesOf includes excludes rules readFile).1 = .error failure →
    Ran readFile stdin (.filter includes excludes rules candidates) (.failed failure events)
  | filtered {includes excludes : List Glob} {rules : Option Text} {candidates : List Text}
    {file : GlobSet} {report : Report} : FromFile readFile rules file →
    report.ending =
      (if (candidatesOf candidates stdin).2 then .error .invalidInput else .ok .success) →
    Ran readFile stdin (.filter includes excludes rules candidates) report

/-- A filter whose rules are not in order does nothing. -/
theorem run_filter_error {failure : Failure}
    (h : (rulesOf includes excludes rules readFile).1 = .error failure) :
    (Command.filter includes excludes rules candidates).run colored readFile stdin =
      .failed failure (rulesOf includes excludes rules readFile).2 := by
  cases read : rulesOf includes excludes rules readFile with
  | mk outcome events =>
    rw [read] at h
    obtain rfl : outcome = .error failure := h
    simp only [run, filterReport, read]

theorem ran_run (command : Command) (colored : Bool)
    (readFile : Text → Except FileFault (List UInt8)) (stdin : List UInt8) :
    Ran readFile stdin command (command.run colored readFile stdin) := by
  cases command with
  | check pattern candidates =>
    cases outcome : Glob.ofText pattern with
    | error error =>
      simp only [run, checkReport, outcome]
      exact .refused rfl outcome
    | ok glob =>
      refine .checked outcome ?_
      simp only [run, checkReport, outcome, checkGlob]
  | explain pattern =>
    cases outcome : Glob.ofText pattern with
    | error error =>
      simp only [run, explainReport, outcome]
      exact .refused rfl outcome
    | ok glob =>
      refine .explained outcome ?_
      simp only [run, explainReport, outcome]
  | filter includes excludes rules candidates =>
    cases outcome : (rulesOf includes excludes rules readFile).1 with
    | error failure =>
      rw [run_filter_error outcome]
      exact .noRules outcome
    | ok set =>
      obtain ⟨file, fromFile, -⟩ := rulesOf_eq_ok_iff.1 outcome
      exact .filtered fromFile (ending_run_filter outcome)

/-! ### Faults of patterns -/

variable {text : Text}

theorem rulesFile?_of_pattern (h : command.pattern? = some text) :
    Program.rulesFile? command = none := by
  cases command with
  | check | explain => rfl
  | filter => cases h

theorem usersFault_of_pattern (h : command.pattern? = some text) :
    UsersFault readFile command ↔ ∃ fault, Glob.ofText text = .error (.parse fault) := by
  simp only [Glob.ofText_eq_parse_error_iff]
  constructor
  · intro fault
    cases fault with
    | notPattern isPattern refused =>
      obtain rfl : text = _ := Option.some.inj (h.symm.trans isPattern)
      exact ⟨_, refused⟩
    | unreadable hasFile | notText hasFile | notDocument hasFile | notRules hasFile =>
      rw [rulesFile?_of_pattern h] at hasFile
      cases hasFile
  · rintro ⟨fault, refused⟩
    exact .notPattern h refused

theorem systemFault_of_pattern (h : command.pattern? = some text) :
    SystemFault readFile stdin command ↔
      ∃ expression cause, Glob.ofText text = .error (.compile expression cause) := by
  rw [Glob.exists_compile_error_iff]
  constructor
  · intro fault
    cases fault with
    | tooLarge isPattern parsed mem failed =>
      obtain rfl : text = _ := Option.some.inj (h.symm.trans isPattern)
      exact ⟨_, _, parsed, mem, failed⟩
    | input _ breaks =>
      cases breaks
      cases h
  · rintro ⟨pattern, fragments, parsed, mem, failed⟩
    exact .tooLarge h parsed mem failed

/-! ### Faults of rules -/

theorem rulesOf_eq_error {failure : Failure}
    (h : (rulesOf includes excludes rules readFile).1 = .error failure) :
    ∃ path, rules = some path ∧ (Rules.ofFile path (readFile path)).1 = .error failure := by
  cases rules with
  | none => cases h
  | some path => exact ⟨path, rfl, map_eq_error_iff.1 h⟩

theorem not_usersFault_of_fromFile {file : GlobSet} (fromFile : FromFile readFile rules file) :
    ¬ UsersFault readFile (.filter includes excludes rules candidates) := by
  intro fault
  cases fault with
  | notPattern isPattern => cases isPattern
  | unreadable hasFile unreadable =>
    cases hasFile
    cases fromFile with
    | read contents => cases unreadable.symm.trans contents
  | notText hasFile contents notText =>
    cases hasFile
    cases fromFile with
    | read contents' => exact notText _ (Except.ok.inj (contents'.symm.trans contents))
  | notDocument hasFile contents notDocument =>
    cases hasFile
    cases fromFile with
    | read contents' isDocument =>
      obtain rfl := Text.toBytes_inj.1 (Except.ok.inj (contents.symm.trans contents'))
      cases notDocument.symm.trans isDocument
  | notRules hasFile contents isDocument notRules =>
    cases hasFile
    cases fromFile with
    | read contents' isDocument' hasRules =>
      obtain rfl := Text.toBytes_inj.1 (Except.ok.inj (contents.symm.trans contents'))
      have refused := Rules.ofDocument_eq_error_iff.2 (.inr ⟨_, isDocument, notRules⟩)
      cases refused.symm.trans (Rules.ofDocument_eq_ok_iff.2 ⟨_, isDocument', hasRules⟩)

/-- A filter is kept from running by the user if and only if it has no rules. -/
theorem usersFault_filter_iff :
    UsersFault readFile (.filter includes excludes rules candidates) ↔
      ∃ failure, (rulesOf includes excludes rules readFile).1 = .error failure := by
  constructor
  · intro fault
    cases outcome : (rulesOf includes excludes rules readFile).1 with
    | error failure => exact ⟨failure, rfl⟩
    | ok set =>
      obtain ⟨file, fromFile, -⟩ := rulesOf_eq_ok_iff.1 outcome
      exact absurd fault (not_usersFault_of_fromFile fromFile)
  · rintro ⟨failure, refused⟩
    obtain ⟨path, rfl, noRules⟩ := rulesOf_eq_error refused
    obtain ⟨-, unreadable | notText | notRules⟩ := Rules.ofFile_eq_error noRules
    · obtain ⟨fault, contents⟩ := unreadable
      exact .unreadable rfl contents
    · obtain ⟨bytes, contents, notText⟩ := notText
      exact .notText rfl contents notText
    · obtain ⟨document, problem, contents, notRules⟩ := notRules
      rcases Rules.ofDocument_eq_error_iff.1 notRules with
        ⟨_, notDocument, -⟩ | ⟨_, isDocument, isProblem⟩
      · exact .notDocument rfl contents notDocument
      · exact .notRules rfl contents isDocument isProblem

/-! ### Faults of the input -/

theorem validLines_broken_iff {lines : List (List UInt8)} :
    (validLines lines).2 = true ↔ ∃ line ∈ lines, ∀ t, Text.toBytes t ≠ line := by
  induction lines with
  | nil => simp [validLines]
  | cons line more ih =>
    rw [List.exists_mem_cons_iff, ← ih, validLines]
    cases decoded : Text.ofBytes? line with
    | none => simp [Text.ofBytes?_eq_none_iff.1 decoded]
    | some text =>
      have isText : ¬ ∀ t, Text.toBytes t ≠ line := fun none =>
        none text (Text.ofBytes?_eq_some_iff.1 decoded)
      simp [isText]

theorem breaksOff_iff :
    BreaksOff stdin (.filter includes excludes rules candidates) ↔
      (candidatesOf candidates stdin).2 = true := by
  constructor
  · rintro ⟨cut, mem, notText⟩
    rw [candidatesOf_nil, validLines_broken_iff, ← isLines_bytes_iff.1 cut]
    exact ⟨_, mem, notText⟩
  · intro broken
    cases candidates with
    | cons => cases broken
    | nil =>
      obtain ⟨line, mem, notText⟩ := validLines_broken_iff.1 broken
      exact .intro (isLines_bytes_iff.2 rfl) mem notText

theorem systemFault_filter_iff :
    SystemFault readFile stdin (.filter includes excludes rules candidates) ↔
      (∃ file, FromFile readFile rules file) ∧ (candidatesOf candidates stdin).2 = true := by
  rw [← breaksOff_iff]
  constructor
  · intro fault
    cases fault with
    | tooLarge isPattern => cases isPattern
    | input fromFile breaks => exact ⟨⟨_, fromFile⟩, breaks⟩
  · rintro ⟨⟨file, fromFile⟩, breaks⟩
    exact .input fromFile breaks

/-! ### What a run tells -/

theorem Ran.silent (ran : Ran readFile stdin command report) {failure : Failure}
    (failed : report.ending = .error failure) :
    report.stdout = [] ∨ BreaksOff stdin command := by
  cases ran with
  | refused | noRules => exact .inl rfl
  | checked _ ending | explained _ ending => cases failed.symm.trans ending
  | filtered _ ending =>
    refine .inr (breaksOff_iff.2 ?_)
    rw [ending] at failed
    split at failed
    · assumption
    · cases failed

theorem Ran.users_iff (ran : Ran readFile stdin command report) :
    (∃ failure, report.ending = .error failure ∧ failure.isUsers = true) ↔
      UsersFault readFile command := by
  cases ran with
  | refused isPattern refused =>
    rw [usersFault_of_pattern isPattern, refused]
    rename_i error _
    cases error <;> simp [Report.failed, Failure.ofGlobError, Failure.isUsers]
  | checked compiled ending | explained compiled ending =>
    rw [usersFault_of_pattern rfl, compiled, ending]
    simp
  | noRules refused =>
    obtain ⟨path, rfl, noFile⟩ := rulesOf_eq_error refused
    have users := (Rules.ofFile_eq_error noFile).1
    rw [usersFault_filter_iff, refused]
    simp [Report.failed, users]
  | filtered fromFile ending =>
    rw [usersFault_filter_iff, rulesOf_eq_ok_iff.2 ⟨_, fromFile, rfl⟩, ending]
    split <;> simp [Failure.isUsers]

theorem Ran.system_iff (ran : Ran readFile stdin command report) :
    (∃ failure, report.ending = .error failure ∧ failure.isUsers = false) ↔
      SystemFault readFile stdin command := by
  cases ran with
  | refused isPattern refused =>
    rw [systemFault_of_pattern isPattern, refused]
    rename_i error _
    cases error <;> simp [Report.failed, Failure.ofGlobError, Failure.isUsers]
  | checked compiled ending | explained compiled ending =>
    rw [systemFault_of_pattern rfl, compiled, ending]
    simp
  | noRules refused =>
    obtain ⟨path, rfl, noFile⟩ := rulesOf_eq_error refused
    have users := (Rules.ofFile_eq_error noFile).1
    have noRules : ¬ ∃ file, FromFile readFile (some path) file := by
      rintro ⟨file, fromFile⟩
      cases noFile.symm.trans (fromFile_some_iff.1 fromFile)
    rw [systemFault_filter_iff]
    simp [Report.failed, users, noRules]
  | filtered fromFile ending =>
    rw [systemFault_filter_iff, ending, and_iff_right ⟨_, fromFile⟩]
    split <;> simp_all [Failure.isUsers]

theorem hasMismatch_check_iff {pattern : Text} {glob : Glob}
    (compiled : Glob.ofText pattern = .ok glob) :
    HasMismatch (.check pattern candidates) ↔ candidates.all glob.isMatch = false := by
  rw [← Bool.not_eq_true, List.all_eq_true]
  constructor
  · rintro ⟨compiled', mem, mismatch⟩ all
    obtain rfl := Except.ok.inj (compiled.symm.trans compiled')
    exact absurd (all _ mem) (by simp [mismatch])
  · intro notAll
    push Not at notAll
    obtain ⟨candidate, mem, mismatch⟩ := notAll
    exact .intro compiled mem (by simpa using mismatch)

theorem Ran.mismatch (ran : Ran readFile stdin command report) {verdict : Verdict}
    (ended : report.ending = .ok verdict) :
    report.exitCode = 1 ∧ HasMismatch command ∨
      report.exitCode = 0 ∧ ¬ HasMismatch command := by
  cases ran with
  | refused | noRules => cases ended
  | checked compiled ending =>
    rw [hasMismatch_check_iff compiled, Report.exitCode, ending]
    rename_i candidates glob
    cases candidates.all glob.isMatch with
    | false => exact .inl ⟨rfl, rfl⟩
    | true => exact .inr ⟨rfl, nofun⟩
  | explained _ ending =>
    rw [Report.exitCode, ending]
    exact .inr ⟨rfl, nofun⟩
  | filtered _ ending =>
    rw [ending] at ended
    split at ended
    · cases ended
    · next whole =>
      rw [Report.exitCode, ending, if_neg whole]
      exact .inr ⟨rfl, nofun⟩

/-- Rules are read before the input is. -/
theorem readsInput_of_usersFault (fault : UsersFault readFile command) :
    Program.readsInput command readFile = false ∧
      ∀ stdin input,
        command.run colored readFile stdin = command.run colored readFile input := by
  cases command with
  | check | explain => exact ⟨rfl, fun _ _ => rfl⟩
  | filter includes excludes rules candidates =>
    obtain ⟨failure, refused⟩ := usersFault_filter_iff.1 fault
    refine ⟨?_, fun _ _ => by rw [run_filter_error refused, run_filter_error refused]⟩
    cases candidates with
    | nil => rw [Program.readsInput, refused]
    | cons => rfl

/-! ### Main result -/

/-- What is true of the runs of a command with the given arguments and files, whatever its input
is. -/
structure AllOrNothing (command : Command) (readFile : Text → Except FileFault (List UInt8))
    (run : List UInt8 → Report) : Prop where
  /-- A command that fails has printed nothing, unless its input breaks off. -/
  silent : ∀ stdin failure, (run stdin).ending = .error failure →
    (run stdin).stdout = [] ∨ BreaksOff stdin command
  users : ∀ stdin,
    (∃ failure, (run stdin).ending = .error failure ∧ failure.isUsers = true) ↔
      UsersFault readFile command
  /-- The user's faults are found before the input is read. -/
  early : UsersFault readFile command →
    Program.readsInput command readFile = false ∧ ∀ stdin input, run stdin = run input
  system : ∀ stdin,
    (∃ failure, (run stdin).ending = .error failure ∧ failure.isUsers = false) ↔
      SystemFault readFile stdin command
  /-- A command that does not fail tells by its exit code whether a candidate did not match. -/
  mismatch : ∀ stdin verdict, (run stdin).ending = .ok verdict →
    (run stdin).exitCode = 1 ∧ HasMismatch command ∨
      (run stdin).exitCode = 0 ∧ ¬ HasMismatch command

/-- **All or nothing.** A command fails for the faults of its user and for those of the system, and
for nothing else. Unless the input breaks off it prints nothing then. The program ends with exit
code 2 if its command fails and with that of the command otherwise. -/
theorem run_allOrNothing (invocation : Invocation) (env : Console.Environment)
    (stdoutColors stderrColors : Bool) (readFile : Text → Except FileFault (List UInt8)) :
    let run := invocation.command.run (invocation.color.colors stdoutColors) readFile
    AllOrNothing invocation.command readFile run ∧
      ∀ stdin,
        let result := Program.obeyed invocation env stdoutColors stderrColors readFile stdin
        result.stdout = (run stdin).stdout ∧
          (result.exitCode = 2 ↔ ∃ failure, (run stdin).ending = .error failure) ∧
          ∀ verdict, (run stdin).ending = .ok verdict →
            result.exitCode = (run stdin).exitCode := by
  intro run
  have ran stdin : Ran readFile stdin invocation.command (run stdin) :=
    ran_run invocation.command _ readFile stdin
  constructor
  · exact {
      silent := fun stdin _ failed => (ran stdin).silent failed
      users := fun stdin => (ran stdin).users_iff
      early := readsInput_of_usersFault
      system := fun stdin => (ran stdin).system_iff
      mismatch := fun stdin _ ended => (ran stdin).mismatch ended }
  · intro stdin result
    refine ⟨rfl, ?_, fun _ _ => rfl⟩
    have code : result.exitCode = (run stdin).exitCode := rfl
    rw [code, Report.exitCode]
    cases (run stdin).ending with
    | error failure => simp
    | ok verdict => cases verdict <;> simp

end Command

end PathGlob
