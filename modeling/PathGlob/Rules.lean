import PathGlob.Decimal.Notation
import PathGlob.Failure
import PathGlob.GlobSet.Basic
import PathGlob.Log.Event
import PathGlob.Toml.Report

/-!
# PathGlob.Rules

Rules files: TOML documents with the optional lists `include` and `exclude` of patterns. Other
keys are ignored. The lists are read in the order in which the document has them, and the first
fault counts. A wrong value is marked at itself, a wrong pattern at the whole list.
-/

namespace PathGlob.Rules

open Toml (Value Entries Key Span Problem)

/-- Why a value is not what was expected, with its place if that is known. -/
structure Complaint where
  span : Option Span
  message : Text
  deriving DecidableEq, Repr

/-- The name of a value in a complaint about its kind. -/
def kindOf : Value → Text
  | .string _ text => "string ".toList ++ Text.quoted text
  | .integer _ n => "integer `".toList ++ (toString n).toList ++ ['\x60']
  | .float _ x => "floating point `".toList ++ Decimal.writeFloat .positional x ++ ['\x60']
  | .boolean _ b => "boolean `".toList ++ (if b then "true" else "false").toList ++ ['\x60']
  | .dateTime _ | .table _ _ => "map".toList
  | .array _ _ | .tables _ => "sequence".toList

/-- The place of a value. -/
def spanOf : Value → Option Span
  | .string span _ | .integer span _ | .float span _ | .boolean span _ | .dateTime span
  | .array span _ => some span
  | .table info _ => info.span
  | .tables _ => none

def wrongKind (found : Value) (expected : String) : Complaint where
  span := spanOf found
  message := "invalid type: ".toList ++ kindOf found ++ ", expected ".toList ++ expected.toList

/-- The outcome of reading patterns, together with the texts that were compiled. -/
structure Attempt (α : Type) where
  tried : List Text
  outcome : Except Complaint α

/-- Reads patterns from left to right. -/
def readItems : List Value → Attempt (List Glob)
  | [] => { tried := [], outcome := .ok [] }
  | .string _ text :: more =>
    match Glob.ofText text with
    | .error error =>
      { tried := [text], outcome := .error { span := none, message := error.message } }
    | .ok glob =>
      let others := readItems more
      { tried := text :: others.tried, outcome := others.outcome.map (glob :: ·) }
  | other :: _ => { tried := [], outcome := .error (wrongKind other "a string") }

/-- Reads a list of patterns. -/
def readList (key : Key) (value : Value) : Attempt (List Glob) :=
  let attempt := match value with
    | .array _ items => readItems items
    | .tables elements => readItems elements
    | other => { tried := [], outcome := .error (wrongKind other "a sequence") }
  let place := fun (complaint : Complaint) =>
    { complaint with span := complaint.span <|> spanOf value <|> some key.span }
  { attempt with outcome := attempt.outcome.mapError place }

/-- Reads the entries of a document after the rules already read. -/
def readEntries (set : GlobSet) : Entries → Attempt GlobSet
  | [] => { tried := [], outcome := .ok set }
  | (key, value) :: more =>
    let isInclude := key.name = "include".toList
    if isInclude || key.name = "exclude".toList then
      let list := readList key value
      match list.outcome with
      | .error complaint => { tried := list.tried, outcome := .error complaint }
      | .ok globs =>
        let set := if isInclude then { set with includes := globs }
          else { set with excludes := globs }
        let others := readEntries set more
        { others with tried := list.tried ++ others.tried }
    else readEntries set more

/-- Reads the rules of a document. The second part holds the texts that were compiled. -/
def ofDocument (document : Text) : Except Problem GlobSet × List Text :=
  match Toml.document document with
  | .error fault => (.error fault.problem, [])
  | .ok entries =>
    let attempt := readEntries .empty entries
    let problem := fun (complaint : Complaint) =>
      { span := complaint.span.getD { before := document.byteLength, after := 0 },
        message := complaint.message }
    (attempt.outcome.mapError problem, attempt.tried)

/-- Reads a rules file of which the given bytes, or the reason why there are none, are known. The
second part holds the events on the way. -/
def ofFile (path : Text) (contents : Except FileFault (List UInt8)) :
    Except Failure GlobSet × List Log.Event :=
  match contents with
  | .error fault => (.error (.unreadableRules path fault), [])
  | .ok bytes =>
    match Text.ofBytes? bytes with
    | none => (.error (.unreadableRules path .notText), [])
    | some document =>
      let (outcome, tried) := ofDocument document
      let events := tried.flatMap Log.eventsOfGlob
      match outcome with
      | .error problem => (.error (.invalidRules path (problem.report document)), events)
      | .ok set =>
        (.ok set, events ++ [.loadedRules path set.includes.length set.excludes.length])

end PathGlob.Rules
