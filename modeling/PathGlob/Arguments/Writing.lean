import PathGlob.Arguments.Basic

/-!
# PathGlob.Arguments.Writing

Command lines with long options, each with its value behind `=`, and with all positional arguments
after `--`. Options that belong to both levels may stand on either.
-/

namespace PathGlob

/-- The name of a choice. -/
def Console.ColorChoice.name : ColorChoice → Text
  | auto => "auto".toList
  | always => "always".toList
  | never => "never".toList

namespace Arguments

/-- The options that belong to both levels, as far as they are given. -/
structure Settings where
  color : Option Console.ColorChoice
  /-- The directory for log files. -/
  logDir : Option Text

/-- A long option with its value. -/
def longOption (name : String) (value : Text) : Text :=
  "--".toList ++ name.toList ++ '=' :: value

/-- A long option if there is a value for it. -/
def optional (name : String) (value : Option Text) : List Text :=
  value.toList.map (longOption name)

def Settings.words (s : Settings) : List Text :=
  optional "color" (s.color.map Console.ColorChoice.name) ++ optional "log-dir" s.logDir

/-- The name of a command. -/
def nameOf : Command → Text
  | .check _ _ => "check".toList
  | .filter _ _ _ _ => "filter".toList
  | .explain _ => "explain".toList

/-- The options of a command. -/
def optionsOf : Command → List Text
  | .filter includes excludes rules _ =>
    includes.map (fun glob => longOption "include" glob.text) ++
      excludes.map (fun glob => longOption "exclude" glob.text) ++
      optional "rules" rules
  | .check _ _ | .explain _ => []

/-- The positional arguments of a command. -/
def positionalsOf : Command → List Text
  | .check pattern candidates => pattern :: candidates
  | .filter _ _ _ candidates => candidates
  | .explain pattern => [pattern]

/-- The command with another rules file if it has none of its own. -/
def withRules (rules : Option Text) : Command → Command
  | .filter includes excludes own candidates =>
    .filter includes excludes (own <|> rules) candidates
  | command => command

/-- The command line of a command with settings in front of it and after it. -/
def commandLine (outer inner : Settings) (command : Command) : List Text :=
  outer.words ++ nameOf command ::
    (inner.words ++ optionsOf command ++ "--".toList :: positionalsOf command)

end Arguments

end PathGlob
