import PathGlob.Arguments.Basic

/-!
# PathGlob.Arguments.Reader

Reading a command line. Arguments before the command and those after it are two **levels** with
options of their own; `--color` and `--log-dir` belong to both. On a level arguments are read from
left to right:

* after `--` everything is a positional argument;
* `--name` and `--name=value` are long options, and `-abc` is a group of short ones, the last of
  which may have its value attached, with or without `=`;
* an option without an attached value takes the next argument, unless that looks like an option;
* everything else is positional, and on the first level the name of the command.

A detached value is taken over when the next option or positional argument comes, or at the end;
only then can it be found wrong. If an unknown argument comes first it is the one reported.

Variables of the environment stand in for `--rules`, `--color` and `--log-dir` on each level that
does not have the option.
-/

namespace PathGlob.Arguments

open Console (Environment ColorChoice)

/-- The part of a command line that is being read. -/
inductive Scope
  /-- Before the command. -/
  | root
  | check
  | filter
  | explain
  deriving DecidableEq, Repr

namespace Scope

/-- The scope of a command. -/
def ofName? (name : Text) : Option Scope :=
  if name = "check".toList then some check
  else if name = "filter".toList then some filter
  else if name = "explain".toList then some explain
  else none

/-- The most positional arguments; `none` for any number. -/
def room : Scope → Option Nat
  | root => some 0
  | check => none
  | filter => none
  | explain => some 1

/-- The meaning of a long option. -/
def long? (scope : Scope) (name : Text) : Option (Flag ⊕ ValueOption) :=
  if name = "help".toList then some (.inl .help)
  else if name = "color".toList then some (.inr .color)
  else if name = "log-dir".toList then some (.inr .logDir)
  else match scope with
    | root => if name = "version".toList then some (.inl .version) else none
    | filter =>
      if name = "include".toList then some (.inr .includes)
      else if name = "exclude".toList then some (.inr .excludes)
      else if name = "rules".toList then some (.inr .rules)
      else none
    | _ => none

/-- The meaning of a short option. -/
def short? : Scope → Char → Option (Flag ⊕ ValueOption)
  | _, 'h' => some (.inl .help)
  | root, 'V' => some (.inl .version)
  | filter, 'i' => some (.inr .includes)
  | filter, 'e' => some (.inr .excludes)
  | filter, 'r' => some (.inr .rules)
  | _, _ => none

end Scope

/-- What has been read on one level. -/
structure Tally where
  includes : List Glob
  excludes : List Glob
  rules : Option Text
  color : Option ColorChoice
  logDir : Option Text
  positionals : List Text
  /-- An option that has not been taken over yet, with its value if that has come. -/
  pending : Option (ValueOption × Option Text)

namespace Tally

def empty : Tally where
  includes := []
  excludes := []
  rules := none
  color := none
  logDir := none
  positionals := []
  pending := none

/-- The choice that a value of `--color` names. -/
def readColor (value : Text) : Except Refusal ColorChoice :=
  match ColorChoice.ofName? value with
  | some choice => .ok choice
  | none => .error (if value.isEmpty then .missingValue .color else .notAllowed .color value)

/-- A path, which must not be empty. -/
def readPath (option : ValueOption) (value : Text) : Except Refusal Text :=
  if value.isEmpty then .error (.missingValue option) else .ok value

/-- The glob that a value is. -/
def readGlob (option : ValueOption) (value : Text) : Except Refusal Glob :=
  (Glob.ofText value).mapError (.notGlob option value)

/-- Takes over an option with its value. Only globs may be given repeatedly. -/
def take (t : Tally) (option : ValueOption) (value : Text) : Except Refusal Tally :=
  match option with
  | .includes =>
    (readGlob .includes value).map fun glob => { t with includes := t.includes ++ [glob] }
  | .excludes =>
    (readGlob .excludes value).map fun glob => { t with excludes := t.excludes ++ [glob] }
  | .rules =>
    if t.rules.isSome then .error (.repeated .rules)
    else (readPath .rules value).map fun path => { t with rules := some path }
  | .color =>
    if t.color.isSome then .error (.repeated .color)
    else (readColor value).map fun choice => { t with color := some choice }
  | .logDir =>
    if t.logDir.isSome then .error (.repeated .logDir)
    else (readPath .logDir value).map fun path => { t with logDir := some path }

/-- Takes over the pending option. -/
def settle (t : Tally) : Except Refusal Tally :=
  match t.pending with
  | none => .ok t
  | some (option, none) => .error (.missingValue option)
  | some (option, some value) => { t with pending := none }.take option value

/-- Whether an option waits for its value. -/
def waits (t : Tally) : Bool :=
  match t.pending with
  | some (_, none) => true
  | _ => false

/-- Gives a value to the option that waits for it. -/
def supply (t : Tally) (value : Text) : Tally :=
  { t with pending := t.pending.map fun (option, _) => (option, some value) }

/-- Reads an option: with a value it is taken over at once, otherwise it is pending. -/
def option (t : Tally) (option : ValueOption) (value : Option Text) : Except Refusal Tally := do
  let t ← t.settle
  match value with
  | some value => t.take option value
  | none => return { t with pending := some (option, none) }

/-- Reads a flag, which ends the reading. -/
def flag (t : Tally) (flag : Flag) : Except Refusal Tally := do
  let _ ← t.settle
  match flag with
  | .help => throw .help
  | .version => throw .version

/-- Reads a long option after its hyphens. -/
def long (t : Tally) (scope : Scope) (arg : Text) : Except Refusal Tally :=
  let name := arg.takeWhile (· != '=')
  let value := match arg.drop name.length with
    | '=' :: value => some value
    | _ => none
  match scope.long? name, value with
  | some (.inr option), value => t.option option value
  | some (.inl flag), none => t.flag flag
  | some (.inl flag), some value => .error (.valueForFlag flag value)
  | none, _ => .error (.unknownArgument ("--".toList ++ name))

/-- Reads a group of short options after its hyphen. -/
def short (t : Tally) (scope : Scope) : Text → Except Refusal Tally
  | [] => .ok t
  | c :: rest =>
    match scope.short? c with
    | some (.inr option) =>
      let value := match rest with
        | [] => none
        | '=' :: value => some value
        | value => some value
      t.option option value
    | some (.inl flag) => do
      let t ← t.flag flag
      t.short scope rest
    | none => .error (.unknownArgument ['-', c])

/-- Reads a positional argument. -/
def positional (t : Tally) (scope : Scope) (arg : Text) (afterDashes : Bool) :
    Except Refusal Tally :=
  if scope.room.all (t.positionals.length < ·) then
    t.settle.map fun t => { t with positionals := t.positionals ++ [arg] }
  else if scope = .root then
    .error (if afterDashes && ((Scope.ofName? arg).isSome || arg = "help".toList) then
      .unknownArgument arg else .unknownCommand arg)
  else .error (.unknownArgument arg)

end Tally

/-- Whether an argument is written like a group of short options. -/
def isShort : Text → Bool
  | '-' :: c :: _ => c != '-'
  | _ => false

/-- What a request for help about a command comes to. -/
def helpAbout (path : List Text) : Refusal :=
  match path with
  | [] => .help
  | name :: more =>
    if (Scope.ofName? name).isSome || name = "help".toList then
      match more with
      | [] => .help
      | extra :: _ => .unknownCommand extra
    else .unknownCommand name

/-- Reads the arguments of one level: what it holds, and, at the end of the first level, the
command with the arguments after it. -/
def readLevel (scope : Scope) (afterDashes : Bool) (t : Tally) :
    List Text → Except Refusal (Tally × Option (Scope × List Text))
  | [] => .ok (t, none)
  | arg :: rest =>
    let next (result : Except Refusal Tally) :=
      match result with
      | .error refusal => .error refusal
      | .ok t => readLevel scope afterDashes t rest
    if afterDashes then next (t.positional scope arg true)
    else if scope = .root && !t.waits && arg = "help".toList then .error (helpAbout rest)
    else
      match if scope = .root && !t.waits then Scope.ofName? arg else none with
      | some command => .ok (t, some (command, rest))
      | none =>
        if arg = "--".toList then readLevel scope true t rest
        else if "--".toList.isPrefixOf arg then next (t.long scope (arg.drop 2))
        else if isShort arg then next (t.short scope (arg.drop 1))
        else if t.waits then readLevel scope false (t.supply arg) rest
        else next (t.positional scope arg false)

/-- The value of an option from the environment, read only if the level does not have the option
itself. -/
def standIn {α : Type} (own : Option α) (env : Environment) (name : String)
    (read : Text → Except Refusal α) : Except Refusal (Option α) :=
  match own, env.get? name with
  | none, some value => (read value).map some
  | _, _ => .ok none

/-- What the environment adds to a level. -/
structure Ambient where
  rules : Option Text
  color : Option ColorChoice
  logDir : Option Text

/-- Ends a level: takes over the pending option and looks up the environment. -/
def endLevel (scope : Scope) (env : Environment) (t : Tally) :
    Except Refusal (Tally × Ambient) := do
  let t ← t.settle
  let rules ←
    if scope = .filter then standIn t.rules env "GLOBBER_RULES" (Tally.readPath .rules)
    else .ok none
  let color ← standIn t.color env "GLOBBER_COLOR" Tally.readColor
  let logDir ← standIn t.logDir env "GLOBBER_LOG_DIR" (Tally.readPath .logDir)
  return (t, { rules, color, logDir })

/-- The command of a level, if it has the positional arguments that it needs. -/
def commandOf (scope : Scope) (t : Tally) (ambient : Ambient) : Option Command :=
  match scope, t.positionals with
  | .check, pattern :: candidate :: more => some (.check pattern (candidate :: more))
  | .explain, [pattern] => some (.explain pattern)
  | .filter, candidates =>
    some (.filter t.includes t.excludes (t.rules <|> ambient.rules) candidates)
  | _, _ => none

/-- Reads a command line. An option after the command wins over the same one before it, and both
win over the environment. -/
def read (env : Environment) (args : List Text) : Except Refusal Invocation := do
  let (outer, command) ← readLevel .root false .empty args
  match command with
  | none =>
    let (outer, ambient) ← endLevel .root env outer
    let given := outer.color.isSome || outer.logDir.isSome || ambient.color.isSome ||
      ambient.logDir.isSome
    throw (if given then .missingCommand else .nothingGiven)
  | some (scope, rest) =>
    let (inner, _) ← readLevel scope false .empty rest
    let (inner, ambient) ← endLevel scope env inner
    let command ← match commandOf scope inner ambient with
      | some command => .ok command
      | none => .error .missingArguments
    let (outer, around) ← endLevel .root env outer
    return {
      command
      color := (inner.color <|> outer.color <|> ambient.color <|> around.color).getD .auto
      logDir := inner.logDir <|> outer.logDir <|> ambient.logDir <|> around.logDir }

end PathGlob.Arguments
