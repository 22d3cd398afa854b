import PathGlob.Json.Decode
import PathGlob.Pattern.Stop
import PathGlob.Text.Escapes

/-!
# PathGlob.Json.Faults

Which JSON values are rule sets, and what is wrong first with one that is not, said by the shape of
the value; and which text tells it.
-/

namespace PathGlob.Json

/-- A list of globs, which may be absent. -/
def IsGlobList (value : Option Value) : Prop :=
  ∀ v, value = some v →
    ∃ texts : List Text, v = .array (texts.map .string) ∧ ∀ t ∈ texts, Glob.compiles t = true

/-- A rule set: an object, of which two keys matter, or an array of at most two lists. -/
def IsGlobSet : Value → Prop
  | .object fields =>
    IsGlobList (fields.lookup "include".toList) ∧ IsGlobList (fields.lookup "exclude".toList)
  | .array items => items.length ≤ 2 ∧ ∀ item ∈ items, IsGlobList (some item)
  | _ => False

/-- The first fault of a list of globs. The items in front of it are globs. -/
inductive ListFault : Value → DecodeError → Prop
  | notArray {v : Value} : (∀ items, v ≠ .array items) → ListFault v (.wrongKind v .sequence)
  | notString {before : List Text} {item : Value} {after : List Value} :
    (∀ t ∈ before, Glob.compiles t = true) → (∀ t, item ≠ .string t) →
    ListFault (.array (before.map .string ++ item :: after)) (.wrongKind item .string)
  | badGlob {before : List Text} {text : Text} {error : Glob.Error} {after : List Value} :
    (∀ t ∈ before, Glob.compiles t = true) → Glob.ofText text = .error error →
    ListFault (.array (before.map .string ++ .string text :: after)) (.badGlob error)

/-- The first fault of a rule set: excludes come before includes in an object and after them in an
array, whose length is looked at last. -/
inductive SetFault : Value → DecodeError → Prop
  | neither {v : Value} : (∀ fields, v ≠ .object fields) → (∀ items, v ≠ .array items) →
    SetFault v (.wrongKind v .globSet)
  | excludes {fields : List (Text × Value)} {v : Value} {error : DecodeError} :
    fields.lookup "exclude".toList = some v → ListFault v error → SetFault (.object fields) error
  | includes {fields : List (Text × Value)} {v : Value} {error : DecodeError} :
    IsGlobList (fields.lookup "exclude".toList) → fields.lookup "include".toList = some v →
    ListFault v error → SetFault (.object fields) error
  | firstItem {v : Value} {more : List Value} {error : DecodeError} :
    ListFault v error → SetFault (.array (v :: more)) error
  | secondItem {u v : Value} {more : List Value} {error : DecodeError} :
    IsGlobList (some u) → ListFault v error → SetFault (.array (u :: v :: more)) error
  | tooLong {u v w : Value} {more : List Value} : IsGlobList (some u) → IsGlobList (some v) →
    SetFault (.array (u :: v :: w :: more)) (.tooLong (more.length + 3))

/-- The words for a value that stands where another one was expected. Arrays and objects are only
named, everything else is shown. -/
inductive KindWords : Value → Text → Prop
  | null : KindWords .null "null".toList
  | yes : KindWords (.bool true) ("boolean `".toList ++ "true".toList ++ ['\x60'])
  | no : KindWords (.bool false) ("boolean `".toList ++ "false".toList ++ ['\x60'])
  | integer {n : Int} :
    KindWords (.integer n) ("integer `".toList ++ (toString n).toList ++ ['\x60'])
  | float {x : Float} : KindWords (.float x)
    ("floating point `".toList ++ Decimal.writeFloat numberFormat x ++ ['\x60'])
  | string {text shown : Text} : Text.IsQuoted text shown →
    KindWords (.string text) ("string ".toList ++ shown)
  | array {items : List Value} : KindWords (.array items) "sequence".toList
  | object {fields : List (Text × Value)} : KindWords (.object fields) "map".toList

/-- The text that tells a fault. A pattern is repeated with the place where it stops being one, or
with the expression of the segment that is too large. -/
inductive FaultText : DecodeError → Text → Prop
  | notGlobSet {v : Value} {words : Text} : KindWords v words →
    FaultText (.wrongKind v .globSet)
      ("invalid type: ".toList ++ words ++ ", expected ".toList ++ "struct GlobSet".toList)
  | notArray {v : Value} {words : Text} : KindWords v words →
    FaultText (.wrongKind v .sequence)
      ("invalid type: ".toList ++ words ++ ", expected ".toList ++ "a sequence".toList)
  | notString {v : Value} {words : Text} : KindWords v words →
    FaultText (.wrongKind v .string)
      ("invalid type: ".toList ++ words ++ ", expected ".toList ++ "a string".toList)
  | notPattern {text : Text} {fault : Pattern.Fault} {place : Pattern.Place} :
    Pattern.Located text fault place →
    FaultText (.badGlob (.parse fault))
      ("Invalid glob '".toList ++ text ++ "': ".toList ++ fault.reason.message.toList ++
        " at position ".toList ++ Nat.toDigits 10 fault.position)
  | tooLarge {fragments : List Fragment} :
    FaultText (.badGlob (.compile (Expression.ofFragments fragments) .tooLarge))
      ("Glob segment '".toList ++ Expression.ofFragments fragments ++
        "' could not be compiled: ".toList ++
        "Compiled regex exceeds size limit of 10485760 bytes.".toList)
  | tooLong {length : Nat} : FaultText (.tooLong length)
      ("invalid length ".toList ++ Nat.toDigits 10 length ++
        ", expected fewer elements in array".toList)

end PathGlob.Json
