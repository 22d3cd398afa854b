import PathGlob.GlobSet.Basic
import PathGlob.Json.Value

/-!
# PathGlob.Json.Decode

Globs and rule sets as JSON. A glob is the string of its pattern. A rule set is written as an
object with the lists `include` and `exclude`; it is also read from an array of the two. Absent
lists are empty and other keys of an object are ignored. Of several faults the first one counts,
where the keys of an object are visited in ascending order, so `exclude` comes before `include`.
-/

namespace PathGlob.Json

/-- What a value was expected to be. -/
inductive Expected
  | string
  | sequence
  | globSet
  deriving DecidableEq, Repr

def Expected.name : Expected → String
  | string => "a string"
  | sequence => "a sequence"
  | globSet => "struct GlobSet"

/-- Why a value is not a glob or a rule set. -/
inductive DecodeError
  | wrongKind (found : Value) (expected : Expected)
  | badGlob (error : Glob.Error)
  /-- An array with more items than a rule set has lists. -/
  | tooLong (length : Nat)

def DecodeError.message : DecodeError → Text
  | wrongKind found expected =>
    "invalid type: ".toList ++ found.kind ++ ", expected ".toList ++ expected.name.toList
  | badGlob error => error.message
  | tooLong length =>
    "invalid length ".toList ++ Text.ofNat length ++ ", expected fewer elements in array".toList

/-- Reads a glob. -/
def decodeGlob : Value → Except DecodeError Glob
  | .string text => (Glob.ofText text).mapError .badGlob
  | found => .error (.wrongKind found .string)

/-- Reads globs from left to right. -/
def decodeItems : List Value → Except DecodeError (List Glob)
  | [] => .ok []
  | item :: more =>
    match decodeGlob item with
    | .error error => .error error
    | .ok glob => (decodeItems more).map (glob :: ·)

/-- Reads a list of globs; an absent list is empty. -/
def decodeGlobs : Option Value → Except DecodeError (List Glob)
  | none => .ok []
  | some (.array items) => decodeItems items
  | some found => .error (.wrongKind found .sequence)

/-- Reads a rule set. -/
def decodeGlobSet : Value → Except DecodeError GlobSet
  | .object fields =>
    match decodeGlobs (fields.lookup "exclude".toList) with
    | .error error => .error error
    | .ok excludes =>
      (decodeGlobs (fields.lookup "include".toList)).map fun includes => { includes, excludes }
  | .array items =>
    match decodeGlobs items[0]? with
    | .error error => .error error
    | .ok includes =>
      match decodeGlobs items[1]? with
      | .error error => .error error
      | .ok excludes =>
        if items.length ≤ 2 then .ok { includes, excludes }
        else .error (.tooLong items.length)
  | found => .error (.wrongKind found .globSet)

/-- Writes a glob. -/
def encodeGlob (glob : Glob) : Value :=
  .string glob.text

/-- Writes a rule set, always as an object with both lists. -/
def encodeGlobSet (set : GlobSet) : Value :=
  .object [
    ("include".toList, .array (set.includes.map encodeGlob)),
    ("exclude".toList, .array (set.excludes.map encodeGlob))]

end PathGlob.Json
