import PathGlob.Toml.Basic

/-!
# PathGlob.Toml.Fault

Why a text is not a TOML document. A fault of the syntax names the construct that is broken and
what could have stood at the place; some have a cause of another kind, such as a number that is
too large or a key that is there already.
-/

namespace PathGlob.Toml

/-- A reason that lies in the meaning of what was read. -/
inductive Cause
  /-- A key that is there already, with the path of the table if it is known. -/
  | duplicateKey (key : Text) (table : Option (List Text))
  /-- A path that leads through something else than a table. -/
  | notTable (path : List Text) (kind : String)
  | outOfRange
  | tooLarge
  | tooSmall
  | tooDeep
  deriving DecidableEq, Repr

/-- The names of a path with points between them. -/
def dottedPath (path : List Text) : Text :=
  ['.'].intercalate path

def Cause.message : Cause → Text
  | duplicateKey key table =>
    "duplicate key `".toList ++ key ++ ['\x60'] ++
      match table with
      | none => []
      | some [] => " in document root".toList
      | some path => " in table `".toList ++ dottedPath path ++ ['\x60']
  | notTable path kind =>
    "dotted key `".toList ++ dottedPath path ++ "` attempted to extend non-table type (".toList ++
      kind.toList ++ [')']
  | outOfRange => "value is out of range".toList
  | tooLarge => "number too large to fit in target type".toList
  | tooSmall => "number too small to fit in target type".toList
  | tooDeep => "recursion limit exceeded".toList

/-- A place where a text cannot be read. -/
structure Fault where
  /-- What is left of the text at the place. -/
  rest : Text
  /-- The broken construct. -/
  construct : Option String
  /-- What could have stood there. -/
  expected : List String
  cause : Option Cause
  /-- Whether the fault cannot be mended by reading the text in another way. -/
  final : Bool
  deriving DecidableEq, Repr

namespace Fault

/-- A fault about which nothing is known but the place. -/
def here (rest : Text) : Fault where
  rest
  construct := none
  expected := []
  cause := none
  final := false

/-- Names the broken construct, unless a smaller one is named already. -/
def inside (fault : Fault) (construct : String) : Fault :=
  { fault with construct := fault.construct <|> some construct }

/-- Adds to what could have stood at the place. -/
def orExpected (fault : Fault) (expected : List String) : Fault :=
  { fault with expected := fault.expected ++ expected }

def because (fault : Fault) (cause : Cause) : Fault :=
  { fault with cause := some cause }

def definite (fault : Fault) : Fault :=
  { fault with final := true }

def message (fault : Fault) : Text :=
  let construct := fault.construct.toList.map fun construct => "invalid ".toList ++ construct.toList
  let expected :=
    if fault.expected.isEmpty then []
    else ["expected ".toList ++ ", ".toList.intercalate (fault.expected.map String.toList)]
  let cause := fault.cause.toList.map Cause.message
  ['\n'].intercalate (construct ++ expected ++ cause)

end Fault

/-- The outcome of reading the start of a text: what was read and what is left. -/
abbrev Result (α : Type) := Except Fault (α × Text)

/-- Tries another way to read the text after a fault that is not final. -/
def orElse {α : Type} (first : Result α) (second : Unit → Result α) : Result α :=
  match first with
  | .ok result => .ok result
  | .error fault => if fault.final then .error fault else second ()

/-- Names the construct that a fault is in. -/
def within {α : Type} (construct : String) (result : Result α) : Result α :=
  result.mapError (·.inside construct)

end PathGlob.Toml
