import PathGlob.Text.Basic

/-!
# PathGlob.Console.Color

Deciding whether output is colored: by choice, or by what the environment says about the terminal.
-/

namespace PathGlob.Console

/-- Environment variables. -/
abbrev Environment := List (Text × Text)

/-- The value of a variable. -/
def Environment.get? (env : Environment) (name : String) : Option Text :=
  env.lookup name.toList

/-- When to color. -/
inductive ColorChoice
  | auto
  | always
  | never
  deriving DecidableEq, Repr

/-- The choice with the given name. -/
def ColorChoice.ofName? (name : Text) : Option ColorChoice :=
  if name = "auto".toList then some auto
  else if name = "always".toList then some always
  else if name = "never".toList then some never
  else none

/-- The number that a text of decimal digits, perhaps after a plus sign, writes. -/
def unsigned? (t : Text) : Option Nat :=
  let digits := match t with
    | '+' :: digits => digits
    | digits => digits
  if digits.isEmpty || !digits.all Char.isDigit then none
  else
    let n := digits.foldl (fun n c => 10 * n + (c.toNat - '0'.toNat)) 0
    if n < UInt64.size then some n else none

/-- Whether the environment asks for colors without regard to the terminal. -/
def isForced (env : Environment) : Bool :=
  match env.get? "FORCE_COLOR", env.get? "CLICOLOR_FORCE" with
  | some force, _ =>
    if force = "false".toList then false
    else if force = "true".toList || force.isEmpty then true
    else (unsigned? force).getD 1 > 0
  | none, some force => force ≠ ['0']
  | none, none => false

/-- Whether `part` occurs in `whole`. -/
def occursIn (part whole : Text) : Bool :=
  (List.range (whole.length + 1)).any fun i => part.isPrefixOf (whole.drop i)

/-- Whether the environment names a terminal that shows colors. -/
def namesColorTerminal (env : Environment) : Bool :=
  let term := (env.get? "TERM").getD []
  let programs := ["iTerm.app".toList, "Apple_Terminal".toList]
  let kinds := ["screen", "xterm", "vt100", "vt220", "rxvt"]
  let marks := ["color", "ansi", "cygwin", "linux"]
  (env.get? "COLORTERM").isSome || programs.any (env.get? "TERM_PROGRAM" = some ·) ||
    kinds.any (·.toList.isPrefixOf term) || marks.any (occursIn ·.toList term) ||
    ["direct", "truecolor", "256"].any (·.toList.isSuffixOf term) ||
    (env.get? "CLICOLOR").any (· ≠ ['0'])

/-- Whether a stream can show colors, where `terminal` says that it is a terminal. -/
def supportsColor (env : Environment) (terminal : Bool) : Bool :=
  if isForced env then true
  else if (env.get? "NO_COLOR").any (· ≠ ['0']) || env.get? "TERM" = some "dumb".toList then false
  else if terminal || (env.get? "IGNORE_IS_TERMINAL").any (· ≠ ['0']) then namesColorTerminal env
  else false

/-- Whether to color, given whether the stream can show colors. -/
def ColorChoice.colors (choice : ColorChoice) (supported : Bool) : Bool :=
  match choice with
  | auto => supported
  | always => true
  | never => false

end PathGlob.Console
