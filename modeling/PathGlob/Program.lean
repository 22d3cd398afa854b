import PathGlob.Arguments.Reader
import PathGlob.Command.Check
import PathGlob.Command.Explain
import PathGlob.Command.Filter
import PathGlob.Log.Filter
import PathGlob.Log.Line

/-!
# PathGlob.Program

The program as a function: from arguments, environment, files and input to what it prints, what it
logs and its exit code.
-/

namespace PathGlob

/-- Runs a command. -/
def Command.run (command : Command) (colored : Bool)
    (readFile : Text → Except FileFault (List UInt8)) (stdin : List UInt8) : Report :=
  match command with
  | .check pattern candidates => Command.checkReport colored pattern candidates
  | .filter includes excludes rules candidates =>
    Command.filterReport includes excludes rules candidates readFile stdin
  | .explain pattern => Command.explainReport colored pattern

namespace Program

/-- The version that is told when asked for. -/
def versionText : Text :=
  "globber 0.1.0\n".toList

/-- The variables of the environment that a run may depend on. -/
def variableNames : List String :=
  ["GLOBBER_COLOR", "GLOBBER_LOG", "GLOBBER_LOG_DIR", "GLOBBER_RULES", "FORCE_COLOR",
    "CLICOLOR_FORCE", "CLICOLOR", "NO_COLOR", "TERM", "TERM_PROGRAM", "COLORTERM",
    "IGNORE_IS_TERMINAL"]

/-- The rules file that a command reads. -/
def rulesFile? : Command → Option Text
  | .filter _ _ rules _ => rules
  | _ => none

/-- Whether a command reads the input: only a filter without candidates whose rules are fine. -/
def readsInput (command : Command) (readFile : Text → Except FileFault (List UInt8)) : Bool :=
  match command with
  | .filter includes excludes rules [] =>
    match (Command.rulesOf includes excludes rules readFile).1 with
    | .ok _ => true
    | .error _ => false
  | _ => false

/-- Everything that a run of the program leaves behind. -/
structure Result where
  stdout : Text
  stderr : Text
  exitCode : Nat
  /-- The directory for log files, if there is one, with the events to write. -/
  log : Option (Text × List Log.Event)
  deriving Repr

/-- The result of a command line that is refused. -/
def refused (refusal : Arguments.Refusal) : Result :=
  let stdout := if refusal = .version then versionText else []
  let stderr := if refusal.message.isEmpty then [] else refusal.message ++ ['\n']
  { stdout, stderr, exitCode := refusal.exitCode, log := none }

/-- The last words of a command that fails. -/
def failureLine (colored : Bool) (failure : Failure) : Text :=
  Console.Style.red.paint colored "error".toList ++ ": ".toList ++ failure.message ++ ['\n']

/-- The result of a command line that is obeyed. `stdoutColors` and `stderrColors` say whether the
two streams can show colors. -/
def obeyed (invocation : Invocation) (env : Console.Environment)
    (stdoutColors stderrColors : Bool) (readFile : Text → Except FileFault (List UInt8))
    (stdin : List UInt8) : Result :=
  let colors := invocation.color.colors
  let report := invocation.command.run (colors stdoutColors) readFile stdin
  let filter := Log.Filter.ofSetting (env.get? "GLOBBER_LOG")
  let lines := (report.events.filter filter.passes).flatMap
    (Log.Event.line (colors (stdoutColors && stderrColors)))
  let last := match report.ending with
    | .error failure => failureLine (colors stderrColors) failure
    | .ok _ => []
  { stdout := report.stdout
    stderr := lines ++ last
    exitCode := report.exitCode
    log := invocation.logDir.map fun directory => (directory, report.events) }

/-- Runs the program. -/
def run (args : List Text) (env : Console.Environment) (stdoutColors stderrColors : Bool)
    (readFile : Text → Except FileFault (List UInt8)) (stdin : List UInt8) : Result :=
  match Arguments.read env args with
  | .error refusal => refused refusal
  | .ok invocation => obeyed invocation env stdoutColors stderrColors readFile stdin

end Program

end PathGlob
