import PathGlob.Console.Color
import PathGlob.Console.Plain
import PathGlob.GlobSet.Basic

/-!
# PathGlob.Arguments.Basic

What a command line asks for, and why it may be refused.
-/

namespace PathGlob

/-- A command with its arguments. -/
inductive Command
  /-- Tell for every candidate whether the pattern matches it. -/
  | check (pattern : Text) (candidates : List Text)
  /-- Print the candidates that the rules of a file and the given globs accept; without candidates
  the lines of the input are filtered. -/
  | filter (includes excludes : List Glob) (rules : Option Text) (candidates : List Text)
  /-- Describe the parts of a pattern. -/
  | explain (pattern : Text)

/-- A command line. -/
structure Invocation where
  command : Command
  color : Console.ColorChoice
  /-- The directory for log files. -/
  logDir : Option Text

namespace Arguments

/-- An option that takes a value. -/
inductive ValueOption
  | includes
  | excludes
  | rules
  | color
  | logDir
  deriving DecidableEq, Repr

/-- An option without a value. -/
inductive Flag
  | help
  | version
  deriving DecidableEq, Repr

/-- How an option is shown in messages. -/
def ValueOption.shown : ValueOption → Text
  | includes => "--include <PATTERN>".toList
  | excludes => "--exclude <PATTERN>".toList
  | rules => "--rules <RULES>".toList
  | color => "--color <COLOR>".toList
  | logDir => "--log-dir <LOG_DIR>".toList

def Flag.shown : Flag → Text
  | help => "--help".toList
  | version => "--version".toList

/-- Why no command is run. -/
inductive Refusal
  /-- The help text is asked for. -/
  | help
  /-- The version is asked for. -/
  | version
  /-- There are no arguments at all. -/
  | nothingGiven
  /-- There are options but no command. -/
  | missingCommand
  | unknownCommand (name : Text)
  /-- An option that does not exist, or one argument too many. -/
  | unknownArgument (shown : Text)
  /-- A flag was given a value. -/
  | valueForFlag (flag : Flag) (value : Text)
  | missingValue (option : ValueOption)
  | repeated (option : ValueOption)
  /-- A value that is none of the allowed ones. -/
  | notAllowed (option : ValueOption) (value : Text)
  /-- A value that is no glob. -/
  | notGlob (option : ValueOption) (value : Text) (error : Glob.Error)
  /-- A command lacks arguments that it needs. -/
  | missingArguments
  deriving DecidableEq, Repr

namespace Refusal

/-- A text between single quotes. -/
def inQuotes (t : Text) : Text :=
  '\'' :: t ++ ['\'']

/-- What is told, if it is not a help or version text. -/
def problem? : Refusal → Option Text
  | help | version | nothingGiven => none
  | missingCommand => some "'globber' requires a subcommand but one was not provided".toList
  | unknownCommand name => some ("unrecognized subcommand ".toList ++ inQuotes name)
  | unknownArgument shown =>
    some ("unexpected argument ".toList ++ inQuotes shown ++ " found".toList)
  | valueForFlag flag value =>
    some ("unexpected value ".toList ++ inQuotes value ++ " for ".toList ++ inQuotes flag.shown ++
      " found; no more were expected".toList)
  | missingValue option =>
    some ("a value is required for ".toList ++ inQuotes option.shown ++
      " but none was supplied".toList)
  | repeated option =>
    some ("the argument ".toList ++ inQuotes option.shown ++
      " cannot be used multiple times".toList)
  | notAllowed option value =>
    some ("invalid value ".toList ++ inQuotes value ++ " for ".toList ++ inQuotes option.shown)
  | notGlob option value error =>
    some ("invalid value ".toList ++ inQuotes value ++ " for ".toList ++ inQuotes option.shown ++
      ": ".toList ++ error.message)
  | missingArguments => some "the following required arguments were not provided:".toList

/-- The first line of the message, without control sequences; empty for a help or version
text. -/
def message (refusal : Refusal) : Text :=
  match refusal.problem? with
  | none => []
  | some problem => ((Console.plain ("error: ".toList ++ problem)).lines).head?.getD []

/-- The exit code: asking for help or the version is no error. -/
def exitCode : Refusal → Nat
  | help | version => 0
  | _ => 2

end Refusal

end Arguments

end PathGlob
