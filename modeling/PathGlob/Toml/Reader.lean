import PathGlob.Toml.Number
import PathGlob.Toml.String

/-!
# PathGlob.Toml.Reader

Keys and values. Where an item of an array or an entry of an inline table cannot be read at all the
closing bracket is what is missed; a fault inside an item that has been recognised counts.
-/

namespace PathGlob.Toml

/-- The greatest number of arrays and inline tables around each other, and of parts of a key. -/
def depthLimit : Nat := 79

/-! ### Keys -/

/-- A character of a key without quotes. -/
def isBareKeyChar (c : Char) : Bool :=
  c.isAlphanum || c = '-' || c = '_'

/-- Reads one part of a key. -/
def simpleKey (s : Text) : Result Key :=
  let outcome : Result Text :=
    match s with
    | '"' :: rest => basicString rest
    | '\'' :: rest => literalString rest
    | s =>
      let name := s.takeWhile isBareKeyChar
      if name.isEmpty then .error (.here s) else .ok (name, s.drop name.length)
  match outcome with
  | .error fault => .error (fault.inside "key")
  | .ok (name, rest) => .ok ({ name, span := .between s rest }, rest)

/-- Reads the parts of a key after the first; `before` holds the earlier ones, the latest first.
A point that no part follows does not belong to the key. -/
def moreKeys (fuel : Nat) (before : List Key) (s : Text) : Result (List Key) :=
  match fuel, skipBlanks s with
  | fuel + 1, '.' :: rest =>
    match simpleKey (skipBlanks rest) with
    | .ok (part, rest) => moreKeys fuel (part :: before) rest
    | .error fault => if fault.final then .error fault else .ok (before.reverse, skipBlanks s)
  | _, rest => .ok (before.reverse, rest)

/-- Reads a key with all its parts and the blanks around them. -/
def key (s : Text) : Result (List Key) :=
  match simpleKey (skipBlanks s) with
  | .error fault => .error fault
  | .ok (first, rest) =>
    match moreKeys s.length [first] rest with
    | .error fault => .error fault
    | .ok (parts, rest) =>
      if parts.length ≤ depthLimit then .ok (parts, rest)
      else .error ((Fault.here s).because .tooDeep)

/-- Skips the sign between a key and its value. -/
def skipEquals (s : Text) : Except Fault Text :=
  (skipChar '=' s).mapError (·.orExpected ["\x60.\x60", "\x60=\x60"])

/-! ### Tables between braces -/

/-- A table that is there because of a path. -/
def passage (inline dotted : Bool) : TableInfo where
  span := none
  inline := inline
  implicit := true
  dotted := dotted

/-- Changes the entry of a name, or adds one at the end. -/
def putEntry (key : Key) (value : Value) : Entries → Entries
  | [] => [(key, value)]
  | (k, v) :: more =>
    if k.name = key.name then (k, value) :: more else (k, v) :: putEntry key value more

/-- The entry of a name. -/
def valueOf? (name : Text) (entries : Entries) : Option Value :=
  (entries.find? (·.1.name = name)).map (·.2)

/-- Puts an entry into an inline table at the end of a dotted key. Tables on the way are made, but
only those that dotted keys have made may be extended. -/
def putInline (info : TableInfo) (entries : Entries) (walked : List Text) (path : List Key)
    (last : Key) (value : Value) : Except Cause Entries :=
  match path with
  | [] =>
    if info.dotted = walked.isEmpty || (valueOf? last.name entries).isSome then
      .error (.duplicateKey last.name none)
    else .ok (entries ++ [(last, value)])
  | key :: more =>
    let walked := walked ++ [key.name]
    match valueOf? key.name entries with
    | none =>
      let info := passage true true
      (putInline info [] walked more last value).map fun inner =>
        entries ++ [(key, .table info inner)]
    | some (.table info inner) =>
      if info.implicit then
        (putInline info inner walked more last value).map fun inner =>
          putEntry key (.table info inner) entries
      else .error (.duplicateKey key.name none)
    | some other => .error (.notTable walked other.kind)

/-- The entries of an inline table, from its keys and values in order. -/
def inlineEntries (info : TableInfo) (entries : Entries) :
    List (List Key × Value) → Except Cause Entries
  | [] => .ok entries
  | (path, value) :: more =>
    match path.getLast? with
    | none => inlineEntries info entries more
    | some last =>
      match putInline info entries [] path.dropLast last value with
      | .error cause => .error cause
      | .ok entries => inlineEntries info entries more

/-! ### Values -/

/-- Looks for the bracket that closes an array or an inline table. -/
def skipCloser (closer : Char) (construct shown : String) (s : Text) : Except Fault Text :=
  (skipChar closer s).mapError fun fault => ((fault.inside construct).orExpected [shown]).definite

/-- A fault of a place where no value starts. -/
def noValue (s : Text) : Fault :=
  ((Fault.here s).inside "string").orExpected ["\x60\"\x60", "\x60'\x60"]

/-- Reads a value that is no array and no inline table. -/
def scalar (s : Text) : Result Value :=
  let spanned {α : Type} (make : Span → α → Value) (outcome : Result α) : Result Value :=
    outcome.map fun (x, rest) => (make (.between s rest) x, rest)
  let word (w : String) (value : Span → Value) (final : Bool) : Result Value :=
    if w.toList.isPrefixOf s then
      let rest := s.drop w.length
      .ok (value (.between s rest), rest)
    else .error { noValue s with final }
  match s with
  | [] => .error (.here [])
  | c :: _ =>
    if c = '"' || c = '\'' then spanned .string (string s)
    else if c = '+' || c = '-' || c.isDigit then
      orElse (spanned (fun span _ => .dateTime span) (dateTime s)) fun _ =>
      orElse (spanned .float (float s)) fun _ =>
      spanned .integer (integer s)
    else if c = '_' then
      (spanned .integer (integer s)).mapError (·.orExpected ["leading digit"])
    else if c = '.' then
      (spanned .float (float s)).mapError (·.orExpected ["leading digit"])
    else if c = 't' then word "true" (.boolean · true) true
    else if c = 'f' then word "false" (.boolean · false) true
    else if c = 'i' then word "inf" (.float · (1.0 / 0.0)) false
    else if c = 'n' then word "nan" (.float · (0.0 / 0.0)) false
    else .error (noValue s)

mutual

/-- Reads a value with at most `depth` arrays and inline tables around each other. -/
def value (depth : Nat) (s : Text) : Result Value :=
  match s with
  | '[' :: rest =>
    match depth with
    | 0 => .error ((Fault.here s).because .tooDeep).definite
    | depth + 1 =>
      match items depth (s.length + 1) [] rest with
      | .error fault => .error fault.definite
      | .ok (found, rest) =>
        match skipCloser ']' "array" "\x60]\x60" rest with
        | .error fault => .error fault
        | .ok rest => .ok (.array (.between s rest) found, rest)
  | '{' :: rest =>
    match depth with
    | 0 => .error ((Fault.here s).because .tooDeep).definite
    | depth + 1 =>
      match pairs depth (s.length + 1) [] rest with
      | .error fault => .error fault.definite
      | .ok (found, after) =>
        let info : TableInfo := { span := none, inline := true, implicit := false, dotted := false }
        match inlineEntries info [] found with
        | .error cause => .error ((Fault.here rest).because cause).definite
        | .ok entries =>
          match skipCloser '}' "inline table" "\x60\x7D\x60" after with
          | .error fault => .error fault
          | .ok after =>
            .ok (.table { info with span := some (.between s after) } entries, after)
  | s => scalar s
termination_by (depth, 0)

/-- Reads the items of an array and everything up to its closing bracket; `before` holds the
earlier items, the latest first. -/
def items (depth fuel : Nat) (before : List Value) (s : Text) : Result (List Value) :=
  let stop : Result (List Value) := (skipBlankLines s).map fun rest => (before.reverse, rest)
  match fuel with
  | 0 => stop
  | fuel + 1 =>
    let item : Result Value :=
      match skipBlankLines s with
      | .error fault => .error fault
      | .ok start =>
        match value depth start with
        | .error fault => .error fault
        | .ok (v, rest) => (skipBlankLines rest).map fun rest => (v, rest)
    match item with
    | .error fault => if fault.final then .error fault else stop
    | .ok (v, ',' :: rest) => items depth fuel (v :: before) rest
    | .ok (v, rest) => .ok ((v :: before).reverse, rest)
termination_by (depth, fuel)

/-- Reads the keys and values of an inline table and the blanks after them; `before` holds the
earlier ones, the latest first. -/
def pairs (depth fuel : Nat) (before : List (List Key × Value)) (s : Text) :
    Result (List (List Key × Value)) :=
  match fuel with
  | 0 => .ok (before.reverse, skipBlanks s)
  | fuel + 1 =>
    match key s with
    | .error fault => if fault.final then .error fault else .ok (before.reverse, skipBlanks s)
    | .ok (path, rest) =>
      match skipEquals rest with
      | .error fault => .error fault.definite
      | .ok rest =>
        match value depth (skipBlanks rest) with
        | .error fault => .error fault.definite
        | .ok (v, rest) =>
          match skipBlanks rest with
          | ',' :: more =>
            match key more with
            | .error fault =>
              if fault.final then .error fault else .ok (((path, v) :: before).reverse, ',' :: more)
            | .ok _ => pairs depth fuel ((path, v) :: before) more
          | rest => .ok (((path, v) :: before).reverse, rest)
termination_by (depth, fuel)

end

end PathGlob.Toml
