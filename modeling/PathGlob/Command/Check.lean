import PathGlob.Command.Report
import PathGlob.Console.Style

/-!
# PathGlob.Command.Check

Checking candidates against one pattern. Every candidate gets a line that starts with a marker, so
the lines are the candidates in order and none is left out after a mismatch.
-/

namespace PathGlob.Command

open Console (Style)

/-- The line of a candidate. -/
def checkLine (colored : Bool) (matched : Bool) (candidate : Text) : Text :=
  let marker :=
    if matched then Style.green.paint colored "match   ".toList
    else Style.red.paint colored "no match".toList
  marker ++ ' ' :: candidate ++ ['\n']

/-- Checks candidates against a glob. -/
def checkGlob (colored : Bool) (glob : Glob) (candidates : List Text) : Report where
  stdout := candidates.flatMap fun c => checkLine colored (glob.isMatch c) c
  events := candidates.map fun c => .checked glob.text c (glob.isMatch c)
  ending := .ok (if candidates.all glob.isMatch then .success else .mismatch)

/-- Checks candidates against a pattern. -/
def checkReport (colored : Bool) (pattern : Text) (candidates : List Text) : Report :=
  let events := Log.eventsOfGlob pattern
  match Glob.ofText pattern with
  | .error error => .failed (.ofGlobError error) events
  | .ok glob =>
    let report := checkGlob colored glob candidates
    { report with events := events ++ report.events }

end PathGlob.Command
