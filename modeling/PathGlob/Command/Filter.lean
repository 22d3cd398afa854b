import PathGlob.Command.Report
import PathGlob.Rules
import PathGlob.Text.Lines

/-!
# PathGlob.Command.Filter

Filtering candidates by rules. The rules are those of the rules file followed by those given as
options. Candidates are arguments or, if there are none, the lines of the input. The first line
that is not valid UTF-8 ends the command; the lines before it are filtered all the same.
-/

namespace PathGlob.Command

/-- What a filter has printed and reported so far. -/
structure Output where
  stdout : Array Char
  events : Array Log.Event

/-- The output before the first candidate; a set without rules is worth a warning. -/
def Output.initial (set : GlobSet) : Output where
  stdout := #[]
  events := if set.isEmpty then #[.noRules] else #[]

/-- Prints a candidate that the rules accept and reports any other as rejected. Tells which of the
two it did. -/
def writeAccepted (set : GlobSet) (candidate : Text) (output : Output) : Bool × Output :=
  if set.accepts candidate then
    (true, { output with stdout := output.stdout ++ candidate ++ ['\n'] })
  else
    (false, { output with events := output.events.push (.rejected candidate) })

/-- Filters candidates that are given as arguments and counts those that are printed. -/
def filterArguments (set : GlobSet) (accepted : Nat) (output : Output) :
    List Text → Nat × Output
  | [] => (accepted, output)
  | candidate :: more =>
    match writeAccepted set candidate output with
    | (true, output) => filterArguments set (accepted + 1) output more
    | (false, output) => filterArguments set accepted output more

/-- Filters lines of the input and counts those that are printed. The first line that is not valid
UTF-8 ends this. -/
def filterLines (set : GlobSet) (accepted : Nat) (output : Output) :
    List (List UInt8) → Except Failure Nat × Output
  | [] => (.ok accepted, output)
  | line :: more =>
    match Text.ofBytes? line with
    | none => (.error .invalidInput, output)
    | some candidate =>
      match writeAccepted set candidate output with
      | (true, output) => filterLines set (accepted + 1) output more
      | (false, output) => filterLines set accepted output more

/-- Filters by rules that are in order, and tells at the end how many candidates it has printed. -/
def filterWith (set : GlobSet) (candidates : List Text) (stdin : List UInt8) : Report :=
  let (outcome, output) :=
    if candidates.isEmpty then filterLines set 0 (.initial set) (byteLines stdin)
    else
      let (accepted, output) := filterArguments set 0 (.initial set) candidates
      (.ok accepted, output)
  let stdout := output.stdout.toList
  let events := output.events.toList
  match outcome with
  | .error failure => { stdout, events, ending := .error failure }
  | .ok accepted =>
    { stdout, events := events ++ [.filterDone accepted], ending := .ok .success }

/-- The rules of a file, if one is given, and of the options after them. -/
def rulesOf (includes excludes : List Glob) (rules : Option Text)
    (readFile : Text → Except FileFault (List UInt8)) : Except Failure GlobSet × List Log.Event :=
  let options : GlobSet := { includes, excludes }
  match rules with
  | none => (.ok options, [])
  | some path =>
    let (outcome, events) := Rules.ofFile path (readFile path)
    (outcome.map fun set => set.extend options, events)

/-- Filters candidates, or the lines of the input if there are none. -/
def filterReport (includes excludes : List Glob) (rules : Option Text) (candidates : List Text)
    (readFile : Text → Except FileFault (List UInt8)) (stdin : List UInt8) : Report :=
  let (outcome, events) := rulesOf includes excludes rules readFile
  match outcome with
  | .error failure => .failed failure events
  | .ok set =>
    let report := filterWith set candidates stdin
    { report with events := events ++ report.events }

end PathGlob.Command
