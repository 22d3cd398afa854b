import PathGlob.Arguments.Reader
import PathGlob.Arguments.Writing
import PathGlob.Proofs.Glob.Matching

/-!
# PathGlob.Proofs.Arguments.Reading

**What a command line asks for** (`read_commandLine`). A command that is written with long options
is read back, whatever its arguments look like; of the settings those after the command come first,
then those in front of it, and then the environment, which also stands in for the rules file.
-/

namespace PathGlob.Arguments

open Console (Environment ColorChoice)

variable {t t' : Tally} {scope : Scope}

/-! ### One argument -/

theorem settle_of_idle (idle : t.pending = none) : t.settle = .ok t := by
  rw [Tally.settle, idle]

theorem waits_of_idle (idle : t.pending = none) : t.waits = false := by
  rw [Tally.waits, idle]

/-- What starts with a hyphen is not the name of a command. -/
theorem ofName?_hyphen {rest : Text} : Scope.ofName? ('-' :: rest) = none := by
  simp [Scope.ofName?]

theorem longOption_eq {name : String} {value : Text} :
    longOption name value = '-' :: '-' :: (name.toList ++ '=' :: value) :=
  rfl

theorem long_eq {name : String} {option : ValueOption} {value : Text}
    (long : scope.long? name.toList = some (.inr option)) (noEquals : '=' ∉ name.toList)
    (idle : t.pending = none) :
    t.long scope (name.toList ++ '=' :: value) = t.take option value := by
  have name_eq : (name.toList ++ '=' :: value).takeWhile (· != '=') = name.toList := by
    rw [List.takeWhile_append_of_pos fun c mem => by simpa using ne_of_mem_of_not_mem mem noEquals]
    simp
  rw [Tally.long, name_eq, List.drop_left, long]
  simp only [Tally.option, settle_of_idle idle]
  rfl

/-- A long option with a value is taken over at once. -/
theorem readLevel_longOption {name : String} {option : ValueOption} {value : Text}
    {rest : List Text} (long : scope.long? name.toList = some (.inr option))
    (noEquals : '=' ∉ name.toList) (idle : t.pending = none) (took : t.take option value = .ok t') :
    readLevel scope false t (longOption name value :: rest) = readLevel scope false t' rest := by
  have more : name.toList ++ '=' :: value ≠ [] := by simp
  rw [longOption_eq, readLevel]
  simp [ofName?_hyphen, List.isPrefixOf, long_eq long noEquals idle, took]

/-- The name of a command ends the first level. -/
theorem readLevel_command {name : Text} {command : Scope} {rest : List Text}
    (named : Scope.ofName? name = some command) (idle : t.pending = none) :
    readLevel .root false t (name :: rest) = .ok (t, some (command, rest)) := by
  have noHelp : name ≠ "help".toList := by
    rintro rfl
    cases named
  rw [readLevel, waits_of_idle idle, named]
  simp only [Bool.not_false, Bool.and_true, decide_true, Bool.true_and, noHelp, decide_false,
    Bool.false_eq_true, if_false, if_true]

/-- After two hyphens everything is positional. -/
theorem readLevel_dashes {rest : List Text} :
    readLevel scope false t ("--".toList :: rest) = readLevel scope true t rest := by
  have noName : Scope.ofName? "--".toList = none := by decide
  have noHelp : "--".toList ≠ "help".toList := by decide
  rw [readLevel, noName, ite_self]
  simp only [noHelp, decide_false, Bool.and_false, Bool.false_eq_true, if_false, if_true]

theorem readLevel_positionals {args : List Text} (idle : t.pending = none)
    (room : ∀ limit, scope.room = some limit → t.positionals.length + args.length ≤ limit) :
    readLevel scope true t args =
      .ok ({ t with positionals := t.positionals ++ args }, none) := by
  induction args generalizing t with
  | nil => simp [readLevel]
  | cons arg rest ih =>
    have fits : scope.room.all (t.positionals.length < ·) = true := by
      cases limited : scope.room with
      | none => rfl
      | some limit =>
        have := room limit limited
        simp only [List.length_cons] at this
        simp only [Option.all_some, decide_eq_true_eq]
        omega
    have took : t.positional scope arg true =
        .ok { t with positionals := t.positionals ++ [arg] } := by
      rw [Tally.positional, if_pos fits, settle_of_idle idle]
      rfl
    have others := @ih { t with positionals := t.positionals ++ [arg] } idle fun limit limited => by
      have := room limit limited
      simp only [List.length_append, List.length_cons, List.length_nil] at this ⊢
      omega
    rw [readLevel, if_pos rfl, took]
    simpa using others

/-! ### Several options -/

/-- Reading the words takes a level from one state to another, whatever comes after them. -/
def Reads (scope : Scope) (words : List Text) (t t' : Tally) : Prop :=
  ∀ rest, readLevel scope false t (words ++ rest) = readLevel scope false t' rest

theorem Reads.nil : Reads scope [] t t :=
  fun _ => rfl

theorem Reads.append {words words' : List Text} {t'' : Tally} (h : Reads scope words t t')
    (h' : Reads scope words' t' t'') : Reads scope (words ++ words') t t'' := by
  intro rest
  rw [List.append_assoc, h, h']

theorem Reads.option {name : String} {option : ValueOption} {value : Text}
    (long : scope.long? name.toList = some (.inr option)) (noEquals : '=' ∉ name.toList)
    (idle : t.pending = none) (took : t.take option value = .ok t') :
    Reads scope [longOption name value] t t' :=
  fun _ => readLevel_longOption long noEquals idle took

/-- An option that may be absent. -/
theorem Reads.optional {name : String} {option : ValueOption} {value : Option Text}
    (long : scope.long? name.toList = some (.inr option)) (noEquals : '=' ∉ name.toList)
    (idle : t.pending = none) (absent : value = none → t' = t)
    (given : ∀ v, value = some v → t.take option v = .ok t') :
    Reads scope (optional name value) t t' := by
  cases value with
  | none =>
    rw [absent rfl]
    exact .nil
  | some v => exact .option long noEquals idle (given v rfl)

theorem readPath_of_ne_nil {option : ValueOption} {path : Text} (ne : path ≠ []) :
    Tally.readPath option path = .ok path := by
  simp [Tally.readPath, ne]

theorem reads_color {color : Option ColorChoice} (idle : t.pending = none)
    (unset : t.color = none) :
    Reads scope (optional "color" (color.map ColorChoice.name)) t { t with color } := by
  have long : scope.long? "color".toList = some (.inr .color) := by cases scope <;> decide
  refine .optional long (by decide) idle (fun absent => ?_) fun v given => ?_
  · rw [Option.map_eq_none_iff.1 absent, ← unset]
  · obtain ⟨choice, rfl, rfl⟩ := Option.map_eq_some_iff.1 given
    have known : ColorChoice.ofName? choice.name = some choice := by cases choice <;> decide
    simp [Tally.take, unset, Tally.readColor, known, Except.map]

theorem reads_logDir {logDir : Option Text} (idle : t.pending = none) (unset : t.logDir = none)
    (path : logDir ≠ some []) :
    Reads scope (optional "log-dir" logDir) t { t with logDir } := by
  have long : scope.long? "log-dir".toList = some (.inr .logDir) := by cases scope <;> decide
  refine .optional long (by decide) idle (fun absent => ?_) fun v given => ?_
  · rw [absent, ← unset]
  · have ne : v ≠ [] := fun empty => path (given.trans (congrArg some empty))
    simp [Tally.take, unset, readPath_of_ne_nil ne, Except.map, given]

/-- The settings of a level are taken over. -/
theorem reads_settings {s : Settings} (idle : t.pending = none) (color : t.color = none)
    (logDir : t.logDir = none) (path : s.logDir ≠ some []) :
    Reads scope s.words t { t with color := s.color, logDir := s.logDir } :=
  (reads_color idle color).append (reads_logDir idle logDir path)

theorem reads_rules {rules : Option Text} (idle : t.pending = none) (unset : t.rules = none)
    (path : rules ≠ some []) :
    Reads .filter (optional "rules" rules) t { t with rules } := by
  refine .optional rfl (by decide) idle (fun absent => ?_) fun v given => ?_
  · rw [absent, ← unset]
  · have ne : v ≠ [] := fun empty => path (given.trans (congrArg some empty))
    simp [Tally.take, unset, readPath_of_ne_nil ne, Except.map, given]

/-- Globs are taken over in their order, without regard to the kind of the list they belong to. -/
theorem reads_globs {name : String} {option : ValueOption} {add : List Glob → Tally}
    (long : Scope.filter.long? name.toList = some (.inr option)) (noEquals : '=' ∉ name.toList)
    (idle : ∀ globs, (add globs).pending = none)
    (took : ∀ globs glob, (add globs).take option glob.text = .ok (add (globs ++ [glob])))
    (before globs : List Glob) :
    Reads .filter (globs.map fun glob => longOption name glob.text) (add before)
      (add (before ++ globs)) := by
  induction globs generalizing before with
  | nil =>
    rw [List.append_nil]
    exact .nil
  | cons glob more ih =>
    have first := Reads.option long noEquals (idle before) (took before glob)
    have others := first.append (ih (before ++ [glob]))
    rwa [List.append_assoc] at others

theorem readGlob_text (option : ValueOption) (glob : Glob) :
    Tally.readGlob option glob.text = .ok glob := by
  rw [Tally.readGlob, Glob.ofText_eq_ok_iff.2 rfl]
  rfl

/-! ### A level -/

/-- The part of a command line that belongs to a command. -/
def scopeOf : Command → Scope
  | .check _ _ => .check
  | .filter _ _ _ _ => .filter
  | .explain _ => .explain

/-- A level that has settings only. -/
def tallyOf (settings : Settings) : Tally :=
  { Tally.empty with color := settings.color, logDir := settings.logDir }

/-- The level of a command in front of its positional arguments. -/
def optionsTally (settings : Settings) : Command → Tally
  | .filter includes excludes rules _ => { tallyOf settings with includes, excludes, rules }
  | .check _ _ | .explain _ => tallyOf settings

/-- The level of a command. -/
def commandTally (settings : Settings) (command : Command) : Tally :=
  { optionsTally settings command with positionals := positionalsOf command }

@[simp] theorem optionsTally_pending (settings : Settings) (command : Command) :
    (optionsTally settings command).pending = none := by
  cases command <;> rfl

@[simp] theorem optionsTally_positionals (settings : Settings) (command : Command) :
    (optionsTally settings command).positionals = [] := by
  cases command <;> rfl

@[simp] theorem commandTally_color (settings : Settings) (command : Command) :
    (commandTally settings command).color = settings.color := by
  cases command <;> rfl

@[simp] theorem commandTally_logDir (settings : Settings) (command : Command) :
    (commandTally settings command).logDir = settings.logDir := by
  cases command <;> rfl

/-- Whether a command has the arguments that it needs, and no path is empty. -/
def Complete : Command → Prop
  | .check _ candidates => candidates ≠ []
  | .filter _ _ rules _ => rules ≠ some []
  | .explain _ => True

theorem reads_command {settings : Settings} {command : Command} (path : settings.logDir ≠ some [])
    (complete : Complete command) :
    Reads (scopeOf command) (settings.words ++ optionsOf command) .empty
      (optionsTally settings command) := by
  have first (scope : Scope) : Reads scope settings.words .empty (tallyOf settings) :=
    reads_settings rfl rfl rfl path
  cases command with
  | check pattern candidates => exact (first _).append .nil
  | explain pattern => exact (first _).append .nil
  | filter includes excludes rules candidates =>
    -- Each kind of option starts from the level that the kinds in front of it have left
    have withIncludes := @reads_globs "include" .includes
      (fun globs => { tallyOf settings with includes := globs })
      rfl (by decide) (fun _ => rfl) (fun _ _ => by rw [Tally.take, readGlob_text]; rfl) [] includes
    have withExcludes := @reads_globs "exclude" .excludes
      (fun globs => { tallyOf settings with includes, excludes := globs })
      rfl (by decide) (fun _ => rfl) (fun _ _ => by rw [Tally.take, readGlob_text]; rfl) [] excludes
    have withRules : Reads .filter (optional "rules" rules)
        { tallyOf settings with includes, excludes }
        { tallyOf settings with includes, excludes, rules } := reads_rules rfl rfl complete
    exact (first _).append ((withIncludes.append withExcludes).append withRules)

/-- The settings and the rules file that the environment has, if their variables are set. -/
structure Holds (env : Environment) (settings : Settings) (file : Option Text) : Prop where
  color : env.get? "GLOBBER_COLOR" = settings.color.map ColorChoice.name
  logDir : env.get? "GLOBBER_LOG_DIR" = settings.logDir
  rules : env.get? "GLOBBER_RULES" = file
  logDir_ne : settings.logDir ≠ some []
  rules_ne : file ≠ some []

theorem standIn_eq {α : Type} {own value : Option α} {shown : α → Text} {env : Environment}
    {name : String} {read : Text → Except Refusal α} (held : env.get? name = value.map shown)
    (readable : ∀ v, value = some v → read (shown v) = .ok v) :
    standIn own env name read = .ok (if own.isSome then none else value) := by
  unfold standIn
  rw [held]
  cases own with
  | some _ => rfl
  | none =>
    cases value with
    | none => rfl
    | some v =>
      simp only [Option.map_some, readable v rfl]
      rfl

theorem standIn_path {own value : Option Text} {option : ValueOption} {env : Environment}
    {name : String} (held : env.get? name = value) (path : value ≠ some []) :
    standIn own env name (Tally.readPath option) = .ok (if own.isSome then none else value) :=
  standIn_eq (held.trans Option.map_id'.symm) fun _ given =>
    readPath_of_ne_nil fun empty => path (given.trans (congrArg some empty))

theorem standIn_color {own value : Option ColorChoice} {env : Environment} {name : String}
    (held : env.get? name = value.map ColorChoice.name) :
    standIn own env name Tally.readColor = .ok (if own.isSome then none else value) :=
  standIn_eq held fun choice _ => by cases choice <;> rfl

/-- At its end a level gets from the environment what it does not have itself. -/
theorem endLevel_eq {env : Environment} {ambient : Settings} {file : Option Text}
    (held : Holds env ambient file) (idle : t.pending = none) :
    endLevel scope env t = .ok (t, {
      rules := if scope = .filter then (if t.rules.isSome then none else file) else none
      color := if t.color.isSome then none else ambient.color
      logDir := if t.logDir.isSome then none else ambient.logDir }) := by
  simp only [endLevel, settle_of_idle idle, standIn_color held.color,
    standIn_path held.logDir held.logDir_ne, standIn_path held.rules held.rules_ne]
  split <;> rfl

/-! ### A command line -/

theorem readLevel_outer {outer : Settings} {command : Command} {rest : List Text}
    (path : outer.logDir ≠ some []) :
    readLevel .root false .empty (outer.words ++ nameOf command :: rest) =
      .ok (tallyOf outer, some (scopeOf command, rest)) := by
  have settings : Reads .root outer.words .empty (tallyOf outer) := reads_settings rfl rfl rfl path
  have named : Scope.ofName? (nameOf command) = some (scopeOf command) := by
    cases command <;> rfl
  rw [settings, readLevel_command named rfl]

theorem readLevel_inner {inner : Settings} {command : Command} (path : inner.logDir ≠ some [])
    (complete : Complete command) :
    readLevel (scopeOf command) false .empty
        (inner.words ++ optionsOf command ++ "--".toList :: positionalsOf command) =
      .ok (commandTally inner command, none) := by
  have room (limit : Nat) (limited : (scopeOf command).room = some limit) :
      (positionalsOf command).length ≤ limit := by
    cases command with
    | check => cases limited
    | filter => cases limited
    | explain pattern =>
      cases limited
      exact Nat.le_refl 1
  rw [reads_command path complete, readLevel_dashes,
    readLevel_positionals (optionsTally_pending inner command) fun limit limited => by
      simpa using room limit limited]
  simp [commandTally]

/-- A level with the arguments of a command has this command, perhaps with rules from outside. -/
theorem commandOf_commandTally {inner : Settings} {command : Command} {file : Option Text}
    {color : Option ColorChoice} {logDir : Option Text} (complete : Complete command) :
    commandOf (scopeOf command) (commandTally inner command) {
      rules := if scopeOf command = .filter then
        (if (commandTally inner command).rules.isSome then none else file) else none
      color, logDir } = some (withRules file command) := by
  cases command with
  | check pattern candidates =>
    obtain ⟨candidate, more, rfl⟩ := List.exists_cons_of_ne_nil complete
    rfl
  | filter includes excludes rules candidates => cases rules <;> rfl
  | explain => rfl

theorem orElse_standIn {α : Type} (inner outer ambient : Option α) :
    (inner <|> outer <|> (if inner.isSome then none else ambient) <|>
      if outer.isSome then none else ambient) = (inner <|> outer <|> ambient) := by
  cases inner <;> cases outer <;> cases ambient <;> rfl

/-- **What a command line asks for.** A command written with long options is read back with all its
arguments. Settings after the command count before those in front of it, and both before the
environment, which also gives a rules file to a filter that has none. -/
theorem read_commandLine {env : Environment} {ambient outer inner : Settings} {file : Option Text}
    {command : Command} (held : Holds env ambient file) (complete : Complete command)
    (outerPath : outer.logDir ≠ some []) (innerPath : inner.logDir ≠ some []) :
    read env (commandLine outer inner command) = .ok {
      command := withRules file command
      color := (inner.color <|> outer.color <|> ambient.color).getD .auto
      logDir := inner.logDir <|> outer.logDir <|> ambient.logDir } := by
  have idle : (commandTally inner command).pending = none := optionsTally_pending inner command
  have outerIdle : (tallyOf outer).pending = none := rfl
  simp only [read, commandLine, readLevel_outer outerPath, readLevel_inner innerPath complete,
    endLevel_eq held idle, endLevel_eq held outerIdle, bind, Except.bind,
    commandOf_commandTally complete]
  rw [commandTally_color, commandTally_logDir]
  exact congrArg₂
    (fun color logDir =>
      Except.ok (Invocation.mk (withRules file command) (color.getD .auto) logDir))
    (orElse_standIn inner.color outer.color ambient.color)
    (orElse_standIn inner.logDir outer.logDir ambient.logDir)

end PathGlob.Arguments
