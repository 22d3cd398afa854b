import PathGlob.Toml.Reader

/-!
# PathGlob.Toml.Document

Whole documents: lines with keys and values, collected into tables by the headers above them. The
table of the last header is **open** and stands apart from the others until the next header or the
end; its place grows with every value in it.
-/

namespace PathGlob.Toml

/-- A document of which a part has been read. -/
structure State where
  /-- The closed tables. -/
  root : Entries
  /-- The path of the open table; empty before the first header. -/
  path : List Key
  /-- Whether the header of the open table is in double brackets. -/
  collected : Bool
  info : TableInfo
  entries : Entries

namespace State

/-- A table that a header starts. -/
def headed (span : Option Span) : TableInfo where
  span := span
  inline := false
  implicit := false
  dotted := false

/-- The state before the first line. -/
def initial : State where
  root := []
  path := []
  collected := false
  info := headed none
  entries := []

/-- Changes the table at the end of a path, which starts at the given table. Missing tables are
made on the way. A path through collected tables leads into the last of them. With `dotted`, the
path belongs to a dotted key and may only lead through tables that are there because of paths. -/
def changeAt (dotted : Bool) (change : TableInfo → Entries → Except Cause Entries)
    (info : TableInfo) (entries : Entries) (walked : List Text) :
    List Key → Except Cause Entries
  | [] => change info entries
  | key :: more =>
    let walked := walked ++ [key.name]
    match valueOf? key.name entries with
    | none =>
      let info := passage false dotted
      (changeAt dotted change info [] walked more).map fun inner =>
        entries ++ [(key, .table info inner)]
    | some (.table info inner) =>
      if info.inline then .error (.notTable walked "inline table")
      else if dotted && !info.implicit then .error (.duplicateKey key.name none)
      else
        (changeAt dotted change info inner walked more).map fun inner =>
          putEntry key (.table info inner) entries
    | some (.tables elements) =>
      match elements.getLast? with
      | some (.table info inner) =>
        (changeAt dotted change info inner walked more).map fun inner =>
          putEntry key (.tables (elements.dropLast ++ [.table info inner])) entries
      | _ => .error (.notTable walked "array of tables")
    | some other => .error (.notTable walked other.kind)

/-- A key that is there already in the table where a path leads. -/
def duplicate (path : List Key) : Cause :=
  .duplicateKey ((path.getLast?.map Key.name).getD []) (some (path.dropLast.map Key.name))

/-- Puts the open table into its place among the closed ones. -/
def close (s : State) : Except Cause Entries :=
  match s.path.getLast? with
  | none => .ok s.entries
  | some last =>
    let table := Value.table s.info s.entries
    let put := fun (_ : TableInfo) (entries : Entries) =>
      match valueOf? last.name entries with
      | none => .ok (entries ++ [(last, if s.collected then .tables [table] else table)])
      | some (.tables elements) =>
        if s.collected then .ok (putEntry last (.tables (elements ++ [table])) entries)
        else .error (duplicate s.path)
      | some _ => .error (duplicate s.path)
    changeAt false put (headed none) s.root [] s.path.dropLast

/-- Starts a table with a header in single brackets. A table that is there because of a longer
path is opened again; any other one must not be there already. -/
def openTable (s : State) (path : List Key) (span : Span) : Except Cause State := do
  let root ← s.close
  let name := (path.getLast?.map Key.name).getD []
  let find := fun (_ : TableInfo) (entries : Entries) =>
    match valueOf? name entries with
    | none => .ok entries
    | some (.table info _) =>
      if info.implicit && !info.dotted && !info.inline then .ok entries
      else .error (duplicate path)
    | some _ => .error (duplicate path)
  let root ← changeAt false find (headed none) root [] path.dropLast
  let remove := fun (_ : TableInfo) (entries : Entries) =>
    .ok (entries.filter (·.1.name ≠ name))
  let rest ← changeAt false remove (headed none) root [] path.dropLast
  return { root := rest, path, collected := false, info := headed (some span),
           entries := inside root path }
where
  /-- The entries of the table at a path, if there is one. -/
  inside (entries : Entries) : List Key → Entries
    | [] => entries
    | key :: more =>
      match valueOf? key.name entries with
      | some (.table _ inner) => inside inner more
      | some (.tables elements) =>
        match elements.getLast? with
        | some (.table _ inner) => inside inner more
        | _ => []
      | _ => []

/-- Starts a table with a header in double brackets. -/
def openCollected (s : State) (path : List Key) (span : Span) : Except Cause State := do
  let root ← s.close
  let name := (path.getLast?.map Key.name).getD []
  let check := fun (_ : TableInfo) (entries : Entries) =>
    match valueOf? name entries, path.getLast? with
    | none, some last => .ok (entries ++ [(last, .tables [])])
    | some (.tables _), _ => .ok entries
    | _, _ => .error (duplicate path)
  let root ← changeAt false check (headed none) root [] path.dropLast
  return { root, path, collected := true, info := headed (some span), entries := [] }

/-- The place after which the open table ends once it holds a value. -/
def grow (info : TableInfo) (value : Value) : TableInfo :=
  let span := match value with
    | .string span _ | .integer span _ | .float span _ | .boolean span _ | .dateTime span
    | .array span _ => some span
    | .table info _ => info.span
    | .tables _ => none
  match info.span, span with
  | some own, some last => { info with span := some { own with after := last.after } }
  | _, _ => info

/-- Puts a value into the open table. -/
def put (s : State) (path : List Key) (value : Value) : Except Cause State := do
  match path.getLast? with
  | none => return s
  | some last =>
    let before := path.dropLast
    let put := fun (info : TableInfo) (entries : Entries) =>
      if info.dotted = before.isEmpty then .error (.duplicateKey last.name none)
      else if (valueOf? last.name entries).isSome then
        .error (.duplicateKey last.name (some (s.path.map Key.name)))
      else .ok (entries ++ [(last, value)])
    let info := grow s.info value
    let entries ← changeAt true put info s.entries [] before
    return { s with info, entries }

end State

/-! ### Lines -/

/-- Reads a line with a key and a value. -/
def keyLine (state : State) (s : Text) : Except Fault (State × Text) :=
  match key s with
  | .error fault => .error fault
  | .ok (path, rest) =>
    match skipEquals rest with
    | .error fault => .error fault
    | .ok rest =>
      match value depthLimit (skipBlanks rest) with
      | .error fault => .error fault
      | .ok (v, rest) =>
        match lineEnd rest with
        | .error fault => .error (fault.orExpected ["newline", "\x60#\x60"])
        | .ok rest =>
          match state.put path v with
          | .error cause => .error ((Fault.here s).because cause)
          | .ok state => .ok (state, rest)

/-- Reads a header, whose brackets are single or double. -/
def headerLine (state : State) (s : Text) : Except Fault (State × Text) :=
  let double := s.tail.head? = some '['
  let brackets := if double then 2 else 1
  let outcome : Except Fault (State × Text) :=
    match s with
    | ['['] => .error (.here s)
    | _ =>
      match key (s.drop brackets) with
      | .error fault => .error fault
      | .ok (path, rest) =>
        if ! (List.replicate brackets ']').isPrefixOf rest then
          .error ((Fault.here rest).orExpected
            ["\x60.\x60", if double then "\x60]]\x60" else "\x60]\x60"])
        else
          let after := rest.drop brackets
          match lineEnd after with
          | .error fault => .error (fault.orExpected ["newline", "\x60#\x60"])
          | .ok rest =>
            let span := Span.between s after
            let opened := if double then state.openCollected path span
              else state.openTable path span
            match opened with
            | .error cause => .error ((Fault.here s).because cause)
            | .ok state => .ok (state, rest)
  outcome.mapError (·.inside "table header")

/-- Reads the lines of a document. -/
def lines (fuel : Nat) (state : State) (s : Text) : Except Fault State :=
  match fuel, skipBlanks s with
  | _, [] => .ok state
  | 0, rest => .error (.here rest)
  | fuel + 1, c :: rest =>
    if c = '#' || c = '\n' || c = '\r' then
      match lineEnd (c :: rest) with
      | .error fault => .error fault
      | .ok rest => lines fuel state rest
    else
      match if c = '[' then headerLine state (c :: rest) else keyLine state (c :: rest) with
      | .error fault => .error fault
      | .ok (state, rest) => lines fuel state rest

/-- Reads a document. A byte order mark in front is ignored. -/
def document (text : Text) : Except Fault Entries :=
  let body := if text.head? = some '\uFEFF' then text.tail else text
  match lines (body.length + 1) .initial body with
  | .error fault => .error fault
  | .ok state => state.close.mapError (Fault.here []).because

end PathGlob.Toml
