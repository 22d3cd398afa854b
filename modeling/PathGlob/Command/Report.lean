import PathGlob.Failure
import PathGlob.Log.Event

/-!
# PathGlob.Command.Report

What running a command comes to: the text it prints, the events on the way, and how it ends.
-/

namespace PathGlob

/-- How a command ends that does not fail. -/
inductive Verdict
  | success
  /-- Some candidate did not match. -/
  | mismatch
  deriving DecidableEq, Repr

/-- What running a command comes to. A command that fails may have printed something before. -/
structure Report where
  stdout : Text
  events : List Log.Event
  ending : Except Failure Verdict
  deriving Repr

namespace Report

/-- A command that fails before it prints anything. -/
def failed (failure : Failure) (events : List Log.Event) : Report where
  stdout := []
  events := events
  ending := .error failure

/-- The exit code: failures are told from mismatches. -/
def exitCode (report : Report) : Nat :=
  match report.ending with
  | .ok .success => 0
  | .ok .mismatch => 1
  | .error _ => 2

end Report

end PathGlob
