import PathGlob.Expression.Segment
import PathGlob.Glob.Basic
import PathGlob.Text.Quoted

/-!
# PathGlob.Log.Event

What the program reports while it works. An event has a level, the place it comes from and named
fields; most have a message.
-/

namespace PathGlob.Log

/-- How important an event is, the most important level first. -/
inductive Level
  | error
  | warn
  | info
  | debug
  | trace
  deriving DecidableEq, Repr

/-- The rank of a level; a filter of rank `n` lets levels of rank at most `n` pass. -/
def Level.rank : Level → Nat
  | error => 1
  | warn => 2
  | info => 3
  | debug => 4
  | trace => 5

def Level.name : Level → String
  | error => "ERROR"
  | warn => "WARN"
  | info => "INFO"
  | debug => "DEBUG"
  | trace => "TRACE"

/-- The value of a field. -/
inductive FieldValue
  /-- A text that is shown as it is. -/
  | plain (text : Text)
  /-- A text that is shown in quotes. -/
  | quoted (text : Text)
  | number (n : Nat)
  | flag (b : Bool)
  deriving DecidableEq, Repr

/-- Something that happened. -/
structure Event where
  level : Level
  /-- The part of the program that reports. -/
  target : String
  message : Option String
  fields : List (String × FieldValue)
  deriving DecidableEq, Repr

namespace Event

/-- A segment is about to be compiled. -/
def compiling (expression : Text) : Event where
  level := .trace
  target := "globber_glob::regex"
  message := some "compiling glob segment"
  fields := [("regex", .plain expression)]

/-- A text turned out not to be a pattern. -/
def parseFailed (fault : Pattern.Fault) : Event where
  level := .debug
  target := "globber_glob::parser"
  message := some "glob parse failed"
  fields := [("pattern", .quoted fault.pattern), ("position", .number fault.position),
    ("reason", .plain fault.reason.message.toList)]

/-- A candidate has been checked against a pattern. -/
def checked (pattern candidate : Text) (matched : Bool) : Event where
  level := .debug
  target := "globber_cli::commands::check"
  message := none
  fields := [("pattern", .plain pattern), ("candidate", .quoted candidate),
    ("matched", .flag matched)]

/-- Rules have been read from a file. -/
def loadedRules (path : Text) (includes excludes : Nat) : Event where
  level := .debug
  target := "globber_cli::rules"
  message := some "loaded rules"
  fields := [("path", .plain path), ("include", .number includes), ("exclude", .number excludes)]

/-- There are no rules to filter by. -/
def noRules : Event where
  level := .warn
  target := "globber_cli::commands::filter"
  message := some "No include or exclude patterns given, every candidate is accepted"
  fields := []

/-- A candidate did not pass the rules. -/
def rejected (candidate : Text) : Event where
  level := .trace
  target := "globber_cli::commands::filter"
  message := some "rejected"
  fields := [("candidate", .quoted candidate)]

/-- All candidates have been filtered. -/
def filterDone (accepted : Nat) : Event where
  level := .info
  target := "globber_cli::commands::filter"
  message := some "filter done"
  fields := [("accepted", .number accepted)]

end Event

/-- The events of compiling the segments of a pattern, up to the first that does not compile. -/
def eventsOfCompiling : Pattern → List Event
  | [] => []
  | .doubleStar :: more => eventsOfCompiling more
  | .segment fragments :: more =>
    .compiling (Expression.ofFragments fragments) ::
      match SegmentPattern.ofFragments fragments with
      | .ok _ => eventsOfCompiling more
      | .error _ => []

/-- The events of making a glob out of a text. -/
def eventsOfGlob (text : Text) : List Event :=
  match Pattern.parse text with
  | .error fault => [.parseFailed fault]
  | .ok pattern => eventsOfCompiling pattern

end PathGlob.Log
