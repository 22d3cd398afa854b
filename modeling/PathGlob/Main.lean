import PathGlob.Log.Record
import PathGlob.Program

/-!
# PathGlob.Main

The program at a terminal. Everything that a run depends on is read here, and everything that it
leaves behind is written here; what happens in between is `Program.run`.
-/

namespace PathGlob.Main

open Program (variableNames rulesFile? readsInput)

/-- The variables of the environment that are set. -/
def environment : IO Console.Environment := do
  let mut env := []
  for name in variableNames do
    if let some value ← IO.getEnv name then
      env := (name.toList, value.toList) :: env
  return env

/-- The fault that an error of the system is. -/
def faultOf (error : IO.Error) : FileFault :=
  match error with
  | .noFileOrDirectory _ _ _ => .notFound
  | .inappropriateType _ code _ => if code = 21 then .isDirectory else .notDirectory
  | .permissionDenied _ _ _ => .permissionDenied
  | other => .other (toString other).toList

/-- The contents of a file. -/
def readFile (path : Text) : IO (Except FileFault (List UInt8)) := do
  try
    return .ok (← IO.FS.readBinFile (String.ofList path)).toList
  catch error =>
    return .error (faultOf error)

/-- All bytes of the input. -/
def readInput : IO (List UInt8) := do
  let stdin ← IO.getStdin
  let mut bytes := ByteArray.empty
  repeat
    let more ← stdin.read 65536
    if more.isEmpty then break
    bytes := bytes ++ more
  return bytes.toList

/-- Appends the records of events to the log file in a directory, one line each. -/
def writeLog (directory : Text) (events : List Log.Event) : IO Unit := do
  let directory := String.ofList directory
  IO.FS.createDirAll directory
  let handle ← IO.FS.Handle.mk (directory ++ "/globber.log") .append
  for event in events do
    handle.putStr (String.ofList (event.record.write ++ ['\n']))

/-- Runs the program on its arguments and returns the exit code. -/
def run (args : List String) : IO UInt32 := do
  let args := args.map String.toList
  let env ← environment
  let stdout ← IO.getStdout
  let stderr ← IO.getStderr
  let stdoutColors := Console.supportsColor env (← stdout.isTty)
  let stderrColors := Console.supportsColor env (← stderr.isTty)
  let mut contents : Except FileFault (List UInt8) := .error .notFound
  let mut input := []
  if let .ok invocation := Arguments.read env args then
    if let some path := rulesFile? invocation.command then
      contents ← readFile path
    if readsInput invocation.command (fun _ => contents) then
      input ← readInput
  let result := Program.run args env stdoutColors stderrColors (fun _ => contents) input
  if let some (directory, events) := result.log then
    writeLog directory events
  stdout.putStr (String.ofList result.stdout)
  stdout.flush
  stderr.putStr (String.ofList result.stderr)
  return UInt32.ofNat result.exitCode

end PathGlob.Main

/-- Runs the program. -/
def main (args : List String) : IO UInt32 :=
  PathGlob.Main.run args
