import PathGlob.Console.Color
import PathGlob.Log.Event
import PathGlob.Text.Alphanumeric
import PathGlob.Text.Pieces

/-!
# PathGlob.Log.Filter

Which events the console shows. A filter is written as **directives** between commas, each a
level, a target, or `target=level`; `[span{field}]` after the target restricts a directive to
spans or to events with the named fields. A directive with a target covers the targets that start
with it. Of the directives that cover an event the most specific one decides: the one with the
longest target, then the one with the most fields.
-/

namespace PathGlob.Log

/-- A rule for the events with certain targets and fields. -/
structure Directive where
  target : Option Text
  /-- The span in which events have to be; the program has no spans. -/
  span : Option Text
  /-- The names of the fields that events must have, with the texts after `=`, if any. -/
  fields : List (Text × Option Text)
  /-- The rank of the least important level that passes; 0 lets nothing pass. -/
  rank : Nat
  deriving DecidableEq, Repr

namespace Directive

/-- The rank that a text names: a number up to 5 or the name of a level in any case. -/
def rank? (t : Text) : Option Nat :=
  match (Console.unsigned? t).filter (· ≤ 5) with
  | some n => some n
  | none =>
    if t.isEmpty then some 1
    else ["off", "error", "warn", "info", "debug", "trace"].findIdx?
      (·.toList = t.map Char.toLower)

/-- The rank after `=`, where nothing stands for everything. -/
def givenRank? (t : Text) : Option Nat :=
  if t.isEmpty then some 5 else rank? t

/-- A field with its value, if one is given. -/
def field (t : Text) : Text × Option Text :=
  match t.dropWhile (· != '=') with
  | '=' :: value => (t.takeWhile (· != '='), some value)
  | _ => (t, none)

/-- Reads what follows a `]`: a level or nothing. -/
def closeSpan? (d : Directive) : Text → Option Directive
  | '=' :: level => (givenRank? level).map fun rank => { d with rank }
  | rest => if rest.all Char.isWhitespace then some d else none

/-- Reads the part of a directive after `[`. -/
def readSpan? (d : Directive) (s : Text) : Option Directive :=
  let span := s.takeWhile fun c => c != ']' && c != '{'
  match s.drop span.length with
  | ']' :: rest => closeSpan? { d with span := some span } rest
  | '{' :: rest =>
    let body := rest.takeWhile (· != '}')
    let names := Text.pieces ',' body
    match rest.drop body.length with
    | '}' :: ']' :: rest =>
      if names.any (·.isEmpty) then none
      else
        closeSpan? { d with span := if span.isEmpty then none else some span,
                            fields := names.map field } rest
    | _ => none
  | _ => none

/-- Reads a directive. Without a level it lets everything pass. Blanks around a name are part of
it, so such a name is that of no level, and blanks in front of `name=level` are refused. -/
def read? (s : Text) : Option Directive :=
  let all : Directive := { target := none, span := none, fields := [], rank := 5 }
  match s.dropWhile Char.isWhitespace with
  | '[' :: rest => readSpan? all rest
  | c :: _ =>
    if c = '-' || c = ':' || c = '_' || Text.isAlphanumeric c then
      let name := s.takeWhile fun c => c != '=' && c != '['
      match s.drop name.length with
      | '=' :: level =>
        if name.head? = some c then
          (givenRank? level).map fun rank => { all with target := some name, rank }
        else none
      | '[' :: rest => readSpan? { all with target := some name } rest
      | _ =>
        match rank? name with
        | some rank => some { all with rank }
        | none => some { all with target := some name }
    else none
  | [] => none

/-- Whether the directive speaks about events at all, and not only about what is inside a span or
has a field of a certain value. -/
def isStatic (d : Directive) : Bool :=
  d.span.isNone && d.fields.all (·.2.isNone)

/-- Whether the directive covers an event. -/
def covers (d : Directive) (event : Event) : Bool :=
  d.target.all (·.isPrefixOf event.target.toList) &&
    d.fields.all fun field =>
      event.fields.any (·.1.toList = field.1) ||
        (event.message.isSome && field.1 = "message".toList)

/-- How much of the target of an event a directive asks for. -/
def reach (d : Directive) : Nat :=
  match d.target with
  | none => 0
  | some target => target.byteLength + 1

/-- Whether one directive is more specific than another. -/
def moreSpecific (d e : Directive) : Bool :=
  e.reach < d.reach || (d.reach = e.reach && e.fields.length < d.fields.length)

/-- Whether two directives cover the same events by the same words. -/
def sameScope (d e : Directive) : Bool :=
  d.target = e.target && d.fields = e.fields

/-- Puts a directive in front of the first less specific one, in the place of one of the same
scope. -/
def insertInto (d : Directive) : List Directive → List Directive
  | [] => [d]
  | e :: more =>
    if sameScope d e then d :: more
    else if moreSpecific d e then d :: e :: more
    else e :: insertInto d more

end Directive

/-- The directives of a filter, the most specific first. -/
abbrev Filter := List Directive

namespace Filter

/-- The filter that lets levels up to the given rank pass. -/
def upTo (rank : Nat) : Filter :=
  [{ target := none, span := none, fields := [], rank }]

/-- Reads a filter. Without directives only errors pass. -/
def read? (s : Text) : Option Filter := do
  let directives ← ((Text.pieces ',' s).filter (!·.isEmpty)).mapM Directive.read?
  if directives.isEmpty then some (upTo Level.error.rank)
  else some ((directives.filter Directive.isStatic).foldl (fun all d => d.insertInto all) [])

/-- The filter that a setting asks for: without one, or if it cannot be read, warnings and errors
pass. -/
def ofSetting (setting : Option Text) : Filter :=
  (setting.bind read?).getD (upTo Level.warn.rank)

/-- Whether the filter lets an event pass. -/
def passes (filter : Filter) (event : Event) : Bool :=
  match filter.find? (·.covers event) with
  | some directive => event.level.rank ≤ directive.rank
  | none => false

end Filter

end PathGlob.Log
