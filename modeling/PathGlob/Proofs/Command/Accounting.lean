import PathGlob.Proofs.Command.Filter

/-!
# PathGlob.Proofs.Command.Accounting

**A filter accounts for every candidate** (`filter_accounts`). Each candidate that it gets to is
either printed or reported as rejected, both in order, and the number that it reports at the end is
that of the printed candidates. An input that breaks off ends this behind the lines that have been
processed, and then no number is reported.

That the loops of a filter print, count and report what they should is their invariant `Tally`.
Here the candidates are divided into the printed and the rejected ones (`divided_filter`), and the
events of a whole run are told apart by their messages; reading rules has no event with the message
of a rejection or of an end (`withMessage_rulesOf`).
-/

namespace PathGlob

/-! ### Events by their messages -/

namespace Log

variable {message : String} {event : Event} {events more : List Event} {text : Text}
  {pattern : Pattern}

/-- The events with the given message. -/
def withMessage (message : String) (events : List Event) : List Event :=
  events.filter (·.message = some message)

/-- The event that reports a rejected candidate. -/
structure IsRejection (candidate : Text) (event : Event) : Prop where
  level : event.level = .trace
  message : event.message = some "rejected"
  fields : event.fields = [("candidate", .quoted candidate)]

/-- The event that reports the end of a filter and how many candidates it has accepted. -/
structure IsEnd (accepted : Nat) (event : Event) : Prop where
  level : event.level = .info
  message : event.message = some "filter done"
  fields : event.fields = [("accepted", .number accepted)]

theorem withMessage_append :
    withMessage message (events ++ more) = withMessage message events ++ withMessage message more :=
  List.filter_append _ _

theorem withMessage_of_all (h : ∀ event ∈ events, event.message = some message) :
    withMessage message events = events :=
  List.filter_eq_self.2 fun event mem => decide_eq_true (h event mem)

theorem withMessage_eq_nil_iff :
    withMessage message events = [] ↔ ∀ event ∈ events, event.message ≠ some message := by
  simp only [withMessage, List.filter_eq_nil_iff, decide_eq_true_eq, ne_eq]

theorem message_eventsOfCompiling (mem : event ∈ eventsOfCompiling pattern) :
    event.message = some "compiling glob segment" := by
  induction pattern with
  | nil => cases mem
  | cons component more ih =>
    cases component with
    | doubleStar => exact ih mem
    | segment fragments =>
      rw [eventsOfCompiling, List.mem_cons] at mem
      rcases mem with rfl | mem
      · rfl
      · split at mem
        · exact ih mem
        · cases mem

theorem message_eventsOfGlob (mem : event ∈ eventsOfGlob text) :
    event.message = some "glob parse failed" ∨ event.message = some "compiling glob segment" := by
  unfold eventsOfGlob at mem
  split at mem
  · rw [List.mem_singleton] at mem
    exact .inl (mem ▸ rfl)
  · exact .inr (message_eventsOfCompiling mem)

end Log

/-- The messages of the events that reading rules may have. -/
def Rules.messages : List String :=
  ["glob parse failed", "compiling glob segment", "loaded rules"]

theorem Rules.message_ofFile {path : Text} {contents : Except FileFault (List UInt8)}
    {event : Log.Event} (mem : event ∈ (ofFile path contents).2) :
    ∃ message ∈ messages, event.message = some message := by
  have ofTried {tried : List Text} (mem : event ∈ tried.flatMap Log.eventsOfGlob) :
      ∃ message ∈ messages, event.message = some message := by
    obtain ⟨text, -, mem⟩ := List.mem_flatMap.1 mem
    rcases Log.message_eventsOfGlob mem with same | same
    · exact ⟨_, by decide, same⟩
    · exact ⟨_, by decide, same⟩
  unfold ofFile at mem
  split at mem
  · cases mem
  · split at mem
    · cases mem
    · simp only at mem
      split at mem
      · exact ofTried mem
      · rcases List.mem_append.1 mem with mem | mem
        · exact ofTried mem
        · rw [List.mem_singleton] at mem
          exact ⟨"loaded rules", by decide, mem ▸ rfl⟩

namespace Command

variable {set : GlobSet} {includes excludes : List Glob} {rules : Option Text}
  {readFile : Text → Except FileFault (List UInt8)} {stdin : List UInt8} {passes : Text → Prop}
  {arguments processed printed rejected : List Text} {candidate : Text} {broken colored : Bool}

theorem withMessage_rulesOf {message : String} (other : message ∉ Rules.messages) :
    Log.withMessage message (rulesOf includes excludes rules readFile).2 = [] := by
  cases rules with
  | none => rfl
  | some path =>
    refine Log.withMessage_eq_nil_iff.2 fun event mem same => ?_
    obtain ⟨known, memKnown, ofKnown⟩ := Rules.message_ofFile mem
    obtain rfl := Option.some.inj (ofKnown.symm.trans same)
    exact other memKnown

/-! ### One candidate after another -/

/-- The candidates that have been processed, divided into those that pass, which are printed, and
the others, which are rejected. -/
inductive Divided (passes : Text → Prop) : List Text → List Text → List Text → Prop
  | start : Divided passes [] [] []
  | print {processed printed rejected : List Text} {candidate : Text} :
    Divided passes processed printed rejected → passes candidate →
    Divided passes (processed ++ [candidate]) (printed ++ [candidate]) rejected
  | reject {processed printed rejected : List Text} {candidate : Text} :
    Divided passes processed printed rejected → ¬ passes candidate →
    Divided passes (processed ++ [candidate]) printed (rejected ++ [candidate])

theorem divided_filter (judged : ∀ candidate, set.accepts candidate = true ↔ passes candidate)
    (processed : List Text) :
    Divided passes processed (processed.filter set.accepts)
      (processed.filter (!set.accepts ·)) := by
  -- The induction is on the candidates processed so far, so that each case adds one candidate.
  induction processed using List.reverseRecOn with
  | nil => exact .start
  | append_singleton processed candidate ih =>
    rw [List.filter_append, List.filter_append]
    cases verdict : set.accepts candidate with
    | true =>
      have passes : passes candidate := (judged candidate).1 verdict
      simpa [verdict] using ih.print passes
    | false =>
      have fails : ¬ passes candidate := by
        rw [← judged, verdict]
        exact Bool.false_ne_true
      simpa [verdict] using ih.reject fails

/-- There is only one way to divide candidates. -/
theorem Divided.eq_filter (divided : Divided passes processed printed rejected) {p : Text → Bool}
    (judged : ∀ candidate ∈ processed, p candidate = true ↔ passes candidate) :
    printed = processed.filter p ∧ rejected = processed.filter (!p ·) := by
  induction divided with
  | start => exact ⟨rfl, rfl⟩
  | print _ holds ih =>
    rw [List.forall_mem_append, List.forall_mem_singleton] at judged
    have accepted := judged.2.2 holds
    simp [← (ih judged.1).1, ← (ih judged.1).2, accepted]
  | reject _ fails ih =>
    rw [List.forall_mem_append, List.forall_mem_singleton] at judged
    have refused := mt judged.2.1 fails
    simp [← (ih judged.1).1, ← (ih judged.1).2, refused]

/-! ### The candidates that a filter gets to -/

/-- The candidates of a filter: its arguments or, if there are none, the lines of its input. -/
inductive Gives (stdin : List UInt8) : List Text → List Text → Prop
  | arguments {arguments : List Text} : arguments ≠ [] → Gives stdin arguments arguments
  | lines {texts : List Text} : IsLines 0x0A 0x0D stdin (texts.map Text.toBytes) →
    Gives stdin [] texts

/-- The candidates of a filter of the input in front of the first line that is not valid UTF-8. -/
inductive BreaksOffAfter (stdin : List UInt8) : List Text → List Text → Prop
  | lines {texts : List Text} {line : List UInt8} {later : List (List UInt8)} :
    IsLines 0x0A 0x0D stdin (texts.map Text.toBytes ++ line :: later) →
    (∀ t, Text.toBytes t ≠ line) → BreaksOffAfter stdin [] texts

/-- The candidates in front of the place where an input breaks off are determined by the input. -/
theorem BreaksOffAfter.eq_validLines (h : BreaksOffAfter stdin arguments processed) :
    processed = (validLines (byteLines stdin)).1 := by
  obtain ⟨cut, notText⟩ := h
  rw [← isLines_bytes_iff.1 cut, validLines_append_invalid notText]

theorem validLines_cases (lines : List (List UInt8)) :
    (lines = (validLines lines).1.map Text.toBytes ∧ (validLines lines).2 = false) ∨
      ∃ line later, lines = (validLines lines).1.map Text.toBytes ++ line :: later ∧
        (∀ t, Text.toBytes t ≠ line) ∧ (validLines lines).2 = true := by
  induction lines with
  | nil => exact .inl ⟨rfl, rfl⟩
  | cons line more ih =>
    cases decoded : Text.ofBytes? line with
    | none =>
      rw [validLines, decoded]
      exact .inr ⟨line, more, rfl, Text.ofBytes?_eq_none_iff.1 decoded, rfl⟩
    | some text =>
      obtain rfl := Text.ofBytes?_eq_some_iff.1 decoded
      rw [validLines, decoded]
      rcases ih with ⟨all, whole⟩ | ⟨invalid, later, cut, notText, broken⟩
      · exact .inl ⟨congrArg _ all, whole⟩
      · exact .inr ⟨invalid, later, congrArg _ cut, notText, broken⟩

theorem candidatesOf_cases (arguments : List Text) (stdin : List UInt8) :
    ∃ processed broken, candidatesOf arguments stdin = (processed, broken) ∧
      ((broken = false ∧ Gives stdin arguments processed) ∨
        (broken = true ∧ BreaksOffAfter stdin arguments processed)) := by
  cases arguments with
  | cons first more =>
    have nonempty : first :: more ≠ [] := List.cons_ne_nil first more
    exact ⟨_, _, candidatesOf_of_ne_nil nonempty, .inl ⟨rfl, .arguments nonempty⟩⟩
  | nil =>
    refine ⟨_, _, candidatesOf_nil, ?_⟩
    rcases validLines_cases (byteLines stdin) with ⟨all, whole⟩ | ⟨_, _, cut, notText, broken⟩
    · exact .inl ⟨whole, .lines (isLines_bytes_iff.2 all.symm)⟩
    · exact .inr ⟨broken, .lines (isLines_bytes_iff.2 cut.symm) notText⟩

/-! ### What a run shows -/

section Run

variable (rulesOk : (rulesOf includes excludes rules readFile).1 = .ok set)
  (given : candidatesOf arguments stdin = (processed, broken))

include rulesOk given

/-- The events of a run: those of reading the rules, a warning if there are none, the rejections,
and the end if the run gets there. -/
theorem events_run_filter :
    ((Command.filter includes excludes rules arguments).run colored readFile stdin).events =
      (rulesOf includes excludes rules readFile).2 ++ (if set.isEmpty then [.noRules] else []) ++
        (processed.filter (!set.accepts ·)).map .rejected ++
        if broken then [] else [.filterDone (processed.filter set.accepts).length] := by
  rw [run_filter rulesOk, filterWith_eq, given]
  simp only [List.append_assoc]

/-- Reading the rules and warning that there are none have messages of their own. -/
theorem withMessage_run_filter {message : String} (ofRules : message ∉ Rules.messages)
    (noWarning : Log.Event.noRules.message ≠ some message) :
    Log.withMessage message
        ((Command.filter includes excludes rules arguments).run colored readFile stdin).events =
      Log.withMessage message ((processed.filter (!set.accepts ·)).map .rejected) ++
        Log.withMessage message
          (if broken then [] else [.filterDone (processed.filter set.accepts).length]) := by
  have warning : Log.withMessage message (if set.isEmpty then [.noRules] else []) = [] := by
    refine Log.withMessage_eq_nil_iff.2 fun event mem => ?_
    split at mem
    · rw [List.mem_singleton.1 mem]
      exact noWarning
    · cases mem
  rw [events_run_filter rulesOk given, Log.withMessage_append, Log.withMessage_append,
    Log.withMessage_append, withMessage_rulesOf ofRules, warning]
  rfl

theorem rejections_run_filter :
    Log.withMessage "rejected"
        ((Command.filter includes excludes rules arguments).run colored readFile stdin).events =
      (processed.filter (!set.accepts ·)).map .rejected := by
  have noEnd : Log.withMessage "rejected"
      (if broken then [] else [.filterDone (processed.filter set.accepts).length]) = [] := by
    cases broken <;> rfl
  rw [withMessage_run_filter rulesOk given (by decide) (by decide), noEnd, List.append_nil]
  exact Log.withMessage_of_all (List.forall_mem_map.2 fun _ _ => rfl)

theorem ends_run_filter :
    Log.withMessage "filter done"
        ((Command.filter includes excludes rules arguments).run colored readFile stdin).events =
      if broken then [] else [.filterDone (processed.filter set.accepts).length] := by
  have noRejection : Log.withMessage "filter done"
      ((processed.filter (!set.accepts ·)).map .rejected) = [] :=
    Log.withMessage_eq_nil_iff.2 (List.forall_mem_map.2 fun _ _ => by simp [Log.Event.rejected])
  rw [withMessage_run_filter rulesOk given (by decide) (by decide), noRejection]
  cases broken <;> rfl

end Run

/-! ### Main result -/

/-- **Accounting.** The candidates that a filter processes are divided: those that pass the rules
are printed and the others are reported as rejected, each of them once and both in order. If the
filter succeeds then it has processed all candidates, and at the very end, and only there, it
reports how many it has printed. Otherwise some line of its input is not valid UTF-8, the candidates
are the lines in front of the first such line, and there is no report of an end. -/
theorem filter_accounts {file : GlobSet} (fromFile : FromFile readFile rules file)
    (includes excludes : List Glob) (arguments : List Text) (colored : Bool)
    (stdin : List UInt8) :
    let report := (Command.filter includes excludes rules arguments).run colored readFile stdin
    ∃ processed printed rejected,
      Divided (file.Passes { includes, excludes }) processed printed rejected ∧
      report.stdout = Text.unlines printed ∧
      List.Forall₂ Log.IsRejection rejected (Log.withMessage "rejected" report.events) ∧
      ((Gives stdin arguments processed ∧ report.ending = .ok .success ∧
          ∃ last, Log.withMessage "filter done" report.events = [last] ∧
            report.events.getLast? = some last ∧ Log.IsEnd printed.length last) ∨
        (BreaksOffAfter stdin arguments processed ∧ report.ending = .error .invalidInput ∧
          ∀ event ∈ report.events, event.message ≠ some "filter done")) := by
  intro report
  have rulesOk : (rulesOf includes excludes rules readFile).1 =
      .ok (file.extend { includes, excludes }) := rulesOf_eq_ok_iff.2 ⟨file, fromFile, rfl⟩
  obtain ⟨processed, broken, given, gotTo⟩ := candidatesOf_cases arguments stdin
  have stdout : report.stdout =
      Text.unlines (processed.filter (file.extend { includes, excludes }).accepts) := by
    rw [stdout_run_filter rulesOk, given]
  have rejections : List.Forall₂ Log.IsRejection
      (processed.filter (!(file.extend { includes, excludes }).accepts ·))
      (Log.withMessage "rejected" report.events) := by
    rw [rejections_run_filter rulesOk given, List.forall₂_map_right_iff, List.forall₂_same]
    exact fun candidate _ => ⟨rfl, rfl, rfl⟩
  have ends : Log.withMessage "filter done" report.events = if broken then [] else
      [.filterDone (processed.filter (file.extend { includes, excludes }).accepts).length] :=
    ends_run_filter rulesOk given
  have ending : report.ending = if broken then .error .invalidInput else .ok .success := by
    rw [ending_run_filter rulesOk, given]
  refine ⟨processed, _, _, divided_filter (fun _ => GlobSet.accepts_extend_iff) processed, stdout,
    rejections, ?_⟩
  rcases gotTo with ⟨rfl, all⟩ | ⟨rfl, front⟩
  · refine .inl ⟨all, ending, _, ends, ?_, rfl, rfl, rfl⟩
    rw [events_run_filter rulesOk given]
    exact List.getLast?_concat
  · exact .inr ⟨front, ending, Log.withMessage_eq_nil_iff.1 ends⟩

/-- The document `exclude = ["b"]` read from a file, and an input whose lines are `b`, an empty
line, `ac` with a carriage return, `b` again, a byte that is no text, and `c` without a line
feed. Both `b` are rejected, and `c` is not processed. -/
theorem filter_accounts_broken :
    let readFile : Text → Except FileFault (List UInt8) :=
      fun _ => .ok (Text.toBytes "exclude = [\"b\"]".toList)
    let stdin : List UInt8 :=
      [0x62, 0x0A, 0x0A, 0x61, 0x63, 0x0D, 0x0A, 0x62, 0x0A, 0xC3, 0x0A, 0x63]
    let report := (Command.filter [] [] (some "rules".toList) []).run false readFile stdin
    ∃ file, FromFile readFile (some "rules".toList) file ∧ ∃ processed printed rejected,
      Divided (file.Passes { includes := [], excludes := [] }) processed printed rejected ∧
      printed = [[], "ac".toList] ∧ rejected = ["b".toList, "b".toList] ∧
      report.stdout = Text.unlines printed ∧
      List.Forall₂ Log.IsRejection rejected (Log.withMessage "rejected" report.events) ∧
      BreaksOffAfter stdin [] processed ∧ report.ending = .error .invalidInput ∧
      ∀ event ∈ report.events, event.message ≠ some "filter done" := by
  intro readFile stdin report
  obtain ⟨glob, compiled⟩ := Glob.exists_of_compiles
    (show Glob.compiles "b".toList = true by decide +kernel)
  have pattern : glob.pattern = [.segment [.literal "b".toList]] :=
    Glob.pattern_of_ofText compiled (by decide +kernel)
  have accepted (candidate : Text) :
      Fragment.AllAccept [.literal "b".toList] candidate ↔ candidate = "b".toList := by
    constructor
    · intro accepts
      cases accepts with | cons literal none =>
      cases literal
      cases none
      exact List.append_nil _
    · rintro rfl
      exact .cons (.literal _) .nil
  obtain ⟨entries, document, hasRules⟩ := Rules.exists_hasRules_exclude compiled
  have written : Toml.writeList "exclude".toList ["b".toList] = "exclude = [\"b\"]".toList := by
    decide
  rw [written] at document
  have fromFile : FromFile readFile (some "rules".toList) { includes := [], excludes := [glob] } :=
    .read rfl document hasRules
  obtain ⟨processed, printed, rejected, divided, stdout, rejections, all | front⟩ :=
    filter_accounts fromFile [] [] [] false stdin
  · obtain ⟨lines, -⟩ := all
    cases lines with
    | arguments ne => exact absurd rfl ne
    | lines cut =>
      have mem : [0xC3] ∈ byteLines stdin := by decide
      rw [← isLines_bytes_iff.1 cut] at mem
      obtain ⟨t, -, same⟩ := List.mem_map.1 mem
      exact absurd same (Text.ofBytes?_eq_none_iff.1 (by decide +kernel) t)
  · have read : processed = ["b".toList, [], "ac".toList, "b".toList] := by
      rw [front.1.eq_validLines]
      decide +kernel
    subst read
    have judged : ∀ candidate ∈ ["b".toList, [], "ac".toList, "b".toList],
        decide (candidate ≠ "b".toList) = true ↔
          GlobSet.Passes { includes := [], excludes := [glob] } { includes := [], excludes := [] }
            candidate := by
      have pieces : ∀ candidate ∈ ["b".toList, [], "ac".toList, "b".toList],
          Text.pieces Pattern.separator candidate = [candidate] := by decide
      intro candidate mem
      rw [GlobSet.passes_exclude_iff, Glob.isMatch_iff_of_segment pattern (pieces candidate mem),
        accepted, decide_eq_true_iff]
    obtain ⟨rfl, rfl⟩ := divided.eq_filter judged
    exact ⟨_, fromFile, _, _, _, divided, by decide, by decide, stdout, rejections, front⟩

end Command

end PathGlob
