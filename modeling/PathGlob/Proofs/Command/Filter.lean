import PathGlob.Program
import PathGlob.Proofs.Glob.Matching
import PathGlob.Proofs.GlobSet.Acceptance
import PathGlob.Proofs.Rules.Reading
import PathGlob.Proofs.Text.Lines

/-!
# PathGlob.Proofs.Command.Filter

**What a filter prints.** The candidates that pass are printed in order, one line for each, whether
they are arguments or lines of the input. A filter that reads its input cuts it into lines of bytes
and stops at the first line that is not UTF-8 (`filter_input`); candidates that are printed one a
line and read back are the same candidates (`filter_arguments_eq_input`).

A report depends on arguments and input only through the candidates that they give
(`candidatesOf`), so both statements are about candidates: the first about those that lines of
bytes give, the second about those that printed lines give.
-/

namespace PathGlob

/-- Rules are read from a file if and only if it is a text whose document has them. -/
theorem Rules.ofFile_eq_ok_iff {path : Text} {contents : Except FileFault (List UInt8)}
    {set : GlobSet} :
    (Rules.ofFile path contents).1 = .ok set ↔
      ∃ document entries, contents = .ok (Text.toBytes document) ∧
        Toml.document document = .ok entries ∧ Rules.HasRules entries set := by
  have ofText (document : Text) : (Rules.ofFile path (.ok document.toBytes)).1 = .ok set ↔
      ∃ entries, Toml.document document = .ok entries ∧ Rules.HasRules entries set := by
    rw [← Rules.ofDocument_eq_ok_iff]
    simp only [Rules.ofFile, Text.ofBytes?_toBytes]
    cases (Rules.ofDocument document).1 <;> simp
  constructor
  · intro read
    cases contents with
    | error fault => simp [Rules.ofFile] at read
    | ok bytes =>
      cases decoded : Text.ofBytes? bytes with
      | none => simp [Rules.ofFile, decoded] at read
      | some document =>
        obtain rfl := Text.ofBytes?_eq_some_iff.1 decoded
        obtain ⟨entries, isDocument, hasRules⟩ := (ofText document).1 read
        exact ⟨document, entries, rfl, isDocument, hasRules⟩
  · rintro ⟨document, entries, rfl, isDocument, hasRules⟩
    exact (ofText document).2 ⟨entries, isDocument, hasRules⟩

namespace Command

variable {set : GlobSet} {includes excludes : List Glob} {rules : Option Text}
  {readFile : Text → Except FileFault (List UInt8)} {candidates texts : List Text} {broken : Bool}
  {colored : Bool} {stdin : List UInt8}

/-! ### Lines that are texts -/

/-- The texts of lines up to the first that is not valid UTF-8, and whether there is such a
line. -/
def validLines : List (List UInt8) → List Text × Bool
  | [] => ([], false)
  | line :: more =>
    match Text.ofBytes? line with
    | none => ([], true)
    | some text => (text :: (validLines more).1, (validLines more).2)

theorem validLines_map_append (texts : List Text) (rest : List (List UInt8)) :
    validLines (texts.map Text.toBytes ++ rest) =
      (texts ++ (validLines rest).1, (validLines rest).2) := by
  induction texts with
  | nil => rfl
  | cons t texts ih =>
    rw [List.map_cons, List.cons_append, validLines, Text.ofBytes?_toBytes, ih]
    rfl

theorem validLines_map (texts : List Text) :
    validLines (texts.map Text.toBytes) = (texts, false) := by
  simpa [validLines] using validLines_map_append texts []

theorem validLines_append_invalid {line : List UInt8} (invalid : ∀ t, Text.toBytes t ≠ line)
    (texts : List Text) (later : List (List UInt8)) :
    validLines (texts.map Text.toBytes ++ line :: later) = (texts, true) := by
  rw [validLines_map_append, validLines, Text.ofBytes?_eq_none_iff.2 invalid, List.append_nil]

/-- The lines of a text in UTF-8 are the lines of the text. -/
theorem validLines_toBytes (t : Text) : validLines (byteLines t.toBytes) = (t.lines, false) := by
  rw [byteLines_toBytes, validLines_map]

/-! ### Candidates -/

/-- The candidates of a filter, and whether there would be more but for a broken input. -/
def candidatesOf (arguments : List Text) (stdin : List UInt8) : List Text × Bool :=
  if arguments.isEmpty then validLines (byteLines stdin) else (arguments, false)

theorem candidatesOf_nil : candidatesOf [] stdin = validLines (byteLines stdin) := rfl

theorem candidatesOf_of_ne_nil (ne : candidates ≠ []) :
    candidatesOf candidates stdin = (candidates, false) := by
  simp [candidatesOf, ne]

/-! ### One candidate after another -/

/-- What a filter has come to: of the candidates processed since `start`, those that the rules
accept have been printed and counted, and the others have been reported. -/
structure Tally (set : GlobSet) (start : Output) (processed : List Text) (accepted : Nat)
    (output : Output) : Prop where
  stdout : output.stdout.toList =
    start.stdout.toList ++ Text.unlines (processed.filter set.accepts)
  events : output.events.toList =
    start.events.toList ++ (processed.filter (!set.accepts ·)).map .rejected
  accepted : accepted = (processed.filter set.accepts).length

namespace Tally

variable {start output next : Output} {processed : List Text} {accepted : Nat} {candidate : Text}

theorem nil : Tally set start [] 0 start where
  stdout := (List.append_nil _).symm
  events := (List.append_nil _).symm
  accepted := rfl

/-- One more candidate is one more line and one more in the count. -/
theorem print (tally : Tally set start processed accepted output)
    (written : writeAccepted set candidate output = (true, next)) :
    Tally set start (processed ++ [candidate]) (accepted + 1) next := by
  cases accepts : set.accepts candidate with
  | false => simp [writeAccepted, accepts] at written
  | true =>
    obtain rfl : _ = next := by simpa [writeAccepted, accepts] using written
    exact {
      stdout := by simp [tally.stdout, accepts, Text.unlines]
      events := by simp [tally.events, accepts]
      accepted := by simp [tally.accepted, accepts] }

/-- One more candidate is one more rejection. -/
theorem reject (tally : Tally set start processed accepted output)
    (written : writeAccepted set candidate output = (false, next)) :
    Tally set start (processed ++ [candidate]) accepted next := by
  cases accepts : set.accepts candidate with
  | true => simp [writeAccepted, accepts] at written
  | false =>
    obtain rfl : _ = next := by simpa [writeAccepted, accepts] using written
    exact {
      stdout := by simp [tally.stdout, accepts]
      events := by simp [tally.events, accepts]
      accepted := by simp [tally.accepted, accepts] }

/-- The loop over arguments processes all of them. -/
theorem filterArguments (tally : Tally set start processed accepted output)
    (candidates : List Text) :
    Tally set start (processed ++ candidates) (filterArguments set accepted output candidates).1
      (filterArguments set accepted output candidates).2 := by
  induction candidates generalizing processed accepted output with
  | nil => rwa [List.append_nil]
  | cons candidate more ih =>
    rw [List.append_cons, Command.filterArguments]
    split
    · next written => exact ih (tally.print written)
    · next written => exact ih (tally.reject written)

/-- The loop over lines processes those in front of the first that is no text, and fails if there
is such a line. -/
theorem filterLines (tally : Tally set start processed accepted output)
    (lines : List (List UInt8)) :
    ∃ total, Tally set start (processed ++ (validLines lines).1) total
        (filterLines set accepted output lines).2 ∧
      (filterLines set accepted output lines).1 =
        if (validLines lines).2 then .error .invalidInput else .ok total := by
  induction lines generalizing processed accepted output with
  | nil => exact ⟨accepted, by rwa [validLines, List.append_nil], rfl⟩
  | cons line more ih =>
    rw [validLines, Command.filterLines]
    cases Text.ofBytes? line with
    | none => exact ⟨accepted, by rwa [List.append_nil], rfl⟩
    | some candidate =>
      dsimp only
      rw [List.append_cons]
      split
      · next written => exact ih (tally.print written)
      · next written => exact ih (tally.reject written)

end Tally

/-- What filtering comes to depends on arguments and input only through the candidates that they
give. -/
theorem filterWith_eq :
    filterWith set candidates stdin =
      let given := candidatesOf candidates stdin
      { stdout := Text.unlines (given.1.filter set.accepts)
        events := (if set.isEmpty then [.noRules] else []) ++
          (given.1.filter (!set.accepts ·)).map .rejected ++
          if given.2 then [] else [.filterDone (given.1.filter set.accepts).length]
        ending := if given.2 then .error .invalidInput else .ok .success } := by
  have start : (Output.initial set).events.toList =
      if set.isEmpty then [Log.Event.noRules] else [] := by
    rw [Output.initial]
    split <;> rfl
  have nothing : (Output.initial set).stdout.toList = [] := rfl
  have tally : Tally set (.initial set) [] 0 (.initial set) := .nil
  cases candidates with
  | nil =>
    obtain ⟨total, tally, outcome⟩ := tally.filterLines (byteLines stdin)
    cases broken : (validLines (byteLines stdin)).2 <;>
      simp [filterWith, candidatesOf_nil, outcome, broken, tally.stdout, tally.events,
        tally.accepted, start, nothing]
  | cons candidate more =>
    have tally := tally.filterArguments (candidate :: more)
    simp [filterWith, candidatesOf, tally.stdout, tally.events, tally.accepted, start, nothing]

@[simp] theorem stdout_filterWith :
    (filterWith set candidates stdin).stdout =
      Text.unlines ((candidatesOf candidates stdin).1.filter set.accepts) := by
  rw [filterWith_eq]

@[simp] theorem ending_filterWith :
    (filterWith set candidates stdin).ending =
      if (candidatesOf candidates stdin).2 then .error .invalidInput else .ok .success := by
  rw [filterWith_eq]

/-- Arguments and input count only for the candidates that they give. -/
theorem run_filter_congr {arguments : List Text} {input : List UInt8}
    (same : candidatesOf candidates stdin = candidatesOf arguments input) :
    (Command.filter includes excludes rules candidates).run colored readFile stdin =
      (Command.filter includes excludes rules arguments).run colored readFile input := by
  simp only [run, filterReport, filterWith_eq, same]

/-! ### Rules -/

/-- The rules that a filter takes from its rules file. -/
inductive FromFile (readFile : Text → Except FileFault (List UInt8)) : Option Text → GlobSet → Prop
  /-- Without a file there are none. -/
  | absent : FromFile readFile none .empty
  /-- A file is a document in UTF-8 that has the rules. -/
  | read {path document : Text} {entries : Toml.Entries} {file : GlobSet} :
    readFile path = .ok document.toBytes → Toml.document document = .ok entries →
    Rules.HasRules entries file → FromFile readFile (some path) file

theorem fromFile_none_iff {file : GlobSet} : FromFile readFile none file ↔ file = .empty := by
  constructor
  · rintro ⟨⟩
    rfl
  · rintro rfl
    exact .absent

theorem fromFile_some_iff {path : Text} {file : GlobSet} :
    FromFile readFile (some path) file ↔ (Rules.ofFile path (readFile path)).1 = .ok file := by
  rw [Rules.ofFile_eq_ok_iff]
  constructor
  · rintro (_ | ⟨contents, isDocument, hasRules⟩)
    exact ⟨_, _, contents, isDocument, hasRules⟩
  · rintro ⟨document, entries, contents, isDocument, hasRules⟩
    exact .read contents isDocument hasRules

/-- The rules of the options come after those of the file. -/
theorem rulesOf_eq_ok_iff :
    (rulesOf includes excludes rules readFile).1 = .ok set ↔
      ∃ file, FromFile readFile rules file ∧ file.extend { includes, excludes } = set := by
  cases rules with
  | none =>
    have options : (rulesOf includes excludes none readFile).1 =
        .ok (GlobSet.empty.extend { includes, excludes }) := rfl
    simp only [options, fromFile_none_iff, exists_eq_left, Except.ok.injEq]
  | some path =>
    have merged : (rulesOf includes excludes (some path) readFile).1 =
        (Rules.ofFile path (readFile path)).1.map (·.extend { includes, excludes }) := rfl
    simp only [merged, map_eq_ok_iff, fromFile_some_iff]

/-- A filter whose rules are in order filters its candidates. -/
theorem run_filter (h : (rulesOf includes excludes rules readFile).1 = .ok set) :
    (Command.filter includes excludes rules candidates).run colored readFile stdin =
      let report := filterWith set candidates stdin
      { report with events := (rulesOf includes excludes rules readFile).2 ++ report.events } := by
  cases read : rulesOf includes excludes rules readFile with
  | mk outcome events =>
    rw [read] at h
    obtain rfl : outcome = .ok set := h
    simp only [run, filterReport, read]

theorem stdout_run_filter (h : (rulesOf includes excludes rules readFile).1 = .ok set) :
    ((Command.filter includes excludes rules candidates).run colored readFile stdin).stdout =
      Text.unlines ((candidatesOf candidates stdin).1.filter set.accepts) := by
  rw [run_filter h]
  exact stdout_filterWith

theorem ending_run_filter (h : (rulesOf includes excludes rules readFile).1 = .ok set) :
    ((Command.filter includes excludes rules candidates).run colored readFile stdin).ending =
      if (candidatesOf candidates stdin).2 then .error .invalidInput else .ok .success := by
  rw [run_filter h]
  exact ending_filterWith

/-! ### Main results -/

/-- What comes of filtering lines of bytes. -/
structure FiltersLines (passes : Text → Prop) [DecidablePred passes] (lines : List (List UInt8))
    (report : Report) : Prop where
  /-- If all lines are texts, those that pass are printed. -/
  valid : ∀ texts : List Text, lines = texts.map Text.toBytes →
    report.stdout = Text.unlines (texts.filter passes) ∧ report.ending = .ok .success
  /-- A line that is the UTF-8 form of no text ends the command, which is not the user's fault. The
  lines in front of it have been filtered, and nothing is printed of those behind it. -/
  invalid : ∀ (texts : List Text) (line : List UInt8) (later : List (List UInt8)),
    lines = texts.map Text.toBytes ++ line :: later → (∀ t, Text.toBytes t ≠ line) →
    report.stdout = Text.unlines (texts.filter passes) ∧
      ∃ failure, report.ending = .error failure ∧ failure.isUsers = false

/-- **Filtering the input.** There is one way to cut the input into lines, and these are filtered by
the rules of the file and of the options together. -/
theorem filter_input {file : GlobSet} (h : FromFile readFile rules file)
    (includes excludes : List Glob) (colored : Bool) (stdin : List UInt8) :
    ∃ lines, (∀ others, IsLines 0x0A 0x0D stdin others ↔ others = lines) ∧
      FiltersLines (file.Passes { includes, excludes }) lines
        ((Command.filter includes excludes rules []).run colored readFile stdin) := by
  refine ⟨byteLines stdin, fun _ => isLines_bytes_iff, ?_⟩
  have rulesOk : (rulesOf includes excludes rules readFile).1 = .ok _ :=
    rulesOf_eq_ok_iff.2 ⟨file, h, rfl⟩
  constructor
  · intro texts all
    rw [stdout_run_filter rulesOk, ending_run_filter rulesOk, candidatesOf_nil, all,
      validLines_map, GlobSet.filter_accepts_extend]
    exact ⟨rfl, rfl⟩
  · intro texts line later cut notText
    rw [stdout_run_filter rulesOk, ending_run_filter rulesOk, candidatesOf_nil, cut,
      validLines_append_invalid notText, GlobSet.filter_accepts_extend]
    exact ⟨rfl, _, rfl, rfl⟩

/-- The document `exclude = ["*.tmp"]` read from a file, and an input whose lines are `a` with a
carriage return, an empty line, `b.tmp`, a byte that is no text, and `c` without a line feed. The
rule of the file keeps `b.tmp` back, and the byte ends the command before `c`. -/
theorem filter_input_tmp :
    let readFile : Text → Except FileFault (List UInt8) :=
      fun _ => .ok (Text.toBytes "exclude = [\"*.tmp\"]".toList)
    let stdin : List UInt8 :=
      [0x61, 0x0D, 0x0A, 0x0A, 0x62, 0x2E, 0x74, 0x6D, 0x70, 0x0A, 0xC3, 0x0A, 0x63]
    let report := (Command.filter [] [] (some "rules".toList) []).run false readFile stdin
    ∃ file, FromFile readFile (some "rules".toList) file ∧
      (∃ lines, (∀ others, IsLines 0x0A 0x0D stdin others ↔ others = lines) ∧
        FiltersLines (file.Passes { includes := [], excludes := [] }) lines report) ∧
      report.stdout = "a\n\n".toList ∧
      ∃ failure, report.ending = .error failure ∧ failure.isUsers = false := by
  intro readFile stdin report
  obtain ⟨glob, compiled⟩ := Glob.exists_of_compiles
    (show Glob.compiles "*.tmp".toList = true by decide +kernel)
  have pattern : glob.pattern = [.segment [.anyText, .literal ".tmp".toList]] :=
    Glob.pattern_of_ofText compiled (by decide +kernel)
  have accepted (candidate : Text) :
      Fragment.AllAccept [.anyText, .literal ".tmp".toList] candidate ↔
        ".tmp".toList <:+ candidate := by
    constructor
    · intro accepts
      cases accepts with | cons _ rest =>
      cases rest with | cons literal none =>
      cases literal
      cases none
      exact ⟨_, by rw [List.append_nil]⟩
    · rintro ⟨s, rfl⟩
      refine .cons (.anyText s) ?_
      exact List.append_nil ".tmp".toList ▸ .cons (.literal _) .nil
  obtain ⟨entries, document, hasRules⟩ := Rules.exists_hasRules_exclude compiled
  have written :
      Toml.writeList "exclude".toList ["*.tmp".toList] = "exclude = [\"*.tmp\"]".toList := by
    decide
  rw [written] at document
  have fromFile : FromFile readFile (some "rules".toList) { includes := [], excludes := [glob] } :=
    .read rfl document hasRules
  obtain ⟨lines, unique, filters⟩ := filter_input fromFile [] [] false stdin
  obtain rfl := (unique (byteLines stdin)).1 (isLines_bytes_iff.2 rfl)
  obtain ⟨stdout, ending⟩ := filters.invalid ["a".toList, [], "b.tmp".toList] [0xC3] [[0x63]]
    (by decide) (Text.ofBytes?_eq_none_iff.1 (by decide +kernel))
  refine ⟨_, fromFile, ⟨_, unique, filters⟩, ?_, ending⟩
  have kept : ["a".toList, [], "b.tmp".toList].filter
      (GlobSet.Passes { includes := [], excludes := [glob] } { includes := [], excludes := [] }) =
        ["a".toList, [], "b.tmp".toList].filter (¬ ".tmp".toList <:+ ·) := by
    have pieces : ∀ candidate ∈ ["a".toList, [], "b.tmp".toList],
        Text.pieces Pattern.separator candidate = [candidate] := by decide
    refine List.filter_congr fun candidate mem => decide_eq_decide.2 ?_
    rw [GlobSet.passes_exclude_iff, Glob.isMatch_iff_of_segment pattern (pieces candidate mem),
      accepted]
  rw [stdout, kept]
  decide

/-- **Arguments and input agree.** Candidates that can be printed and read back give the same report
as arguments and as lines of the input, where the last line feed may be missing if the last
candidate is not empty. -/
theorem filter_arguments_eq_input (nonempty : candidates ≠ [])
    (whole : ∀ candidate ∈ candidates, Text.IsWhole candidate) (includes excludes : List Glob)
    (rules : Option Text) (colored : Bool) (readFile : Text → Except FileFault (List UInt8))
    (stdin : List UInt8) :
    (Command.filter includes excludes rules []).run colored readFile
        (Text.unlines candidates).toBytes =
      (Command.filter includes excludes rules candidates).run colored readFile stdin ∧
    (candidates.getLast? ≠ some [] →
      (Command.filter includes excludes rules []).run colored readFile
          (Text.toBytes (Text.unlines candidates).dropLast) =
        (Command.filter includes excludes rules candidates).run colored readFile stdin) := by
  constructor
  · refine run_filter_congr ?_
    rw [candidatesOf_nil, candidatesOf_of_ne_nil nonempty, validLines_toBytes,
      Text.lines_unlines whole]
  · intro last
    refine run_filter_congr ?_
    rw [candidatesOf_nil, candidatesOf_of_ne_nil nonempty, validLines_toBytes,
      Text.lines_dropLast_unlines whole last]

/-- An empty candidate, one with a carriage return inside, and one that is not ASCII. -/
theorem filter_arguments_eq_input_whole :
    let candidates := ["".toList, "a\rb".toList, "é".toList]
    let readFile : Text → Except FileFault (List UInt8) := fun _ => .error .notFound
    candidates ≠ [] ∧ (∀ candidate ∈ candidates, Text.IsWhole candidate) ∧
      candidates.getLast? ≠ some [] ∧
      (Command.filter [] [] none []).run false readFile (Text.unlines candidates).toBytes =
        (Command.filter [] [] none candidates).run false readFile [] ∧
      (Command.filter [] [] none []).run false readFile
          (Text.toBytes (Text.unlines candidates).dropLast) =
        (Command.filter [] [] none candidates).run false readFile [] := by
  intro candidates readFile
  have nonempty : candidates ≠ [] := List.cons_ne_nil _ _
  have whole : ∀ candidate ∈ candidates, Text.IsWhole candidate := by decide
  have last : candidates.getLast? ≠ some [] := by decide
  have same := filter_arguments_eq_input nonempty whole [] [] none false readFile []
  exact ⟨nonempty, whole, last, same.1, same.2 last⟩

end Command

end PathGlob
