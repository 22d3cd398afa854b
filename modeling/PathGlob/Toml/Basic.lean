import PathGlob.Text.Basic

/-!
# PathGlob.Toml.Basic

What a TOML document holds. Every value remembers where it stands, so that a later complaint about
it can point there. Places are counted in bytes from the end of the document, which is what a
reader that only sees the rest of the text knows about them.
-/

namespace PathGlob.Toml

/-- A part of a document, given by the bytes that are left before and after it. -/
structure Span where
  before : Nat
  after : Nat
  deriving DecidableEq, Repr

/-- The part of a document between two points, given by what is left at each of them. -/
def Span.between (rest restAfter : Text) : Span where
  before := rest.byteLength
  after := restAfter.byteLength

/-- A key with its place. -/
structure Key where
  name : Text
  span : Span
  deriving DecidableEq, Repr

/-- How a table came about. -/
structure TableInfo where
  /-- Its place, unless it is there only because a longer path leads through it. -/
  span : Option Span
  /-- Written between braces. -/
  inline : Bool
  /-- There only because a longer path leads through it. -/
  implicit : Bool
  /-- There because of a dotted key. -/
  dotted : Bool
  deriving DecidableEq, Repr

/-- A value of a document. -/
inductive Value
  | string (span : Span) (text : Text)
  | integer (span : Span) (n : Int)
  | float (span : Span) (x : Float)
  | boolean (span : Span) (b : Bool)
  | dateTime (span : Span)
  | array (span : Span) (items : List Value)
  /-- A table, its entries in order of appearance. -/
  | table (info : TableInfo) (entries : List (Key × Value))
  /-- The tables that headers in double brackets have collected under one name. -/
  | tables (elements : List Value)

/-- The entries of a table. -/
abbrev Entries := List (Key × Value)

/-- The name of the kind of a value in complaints about dotted keys. -/
def Value.kind : Value → String
  | string _ _ => "string"
  | integer _ _ => "integer"
  | float _ _ => "float"
  | boolean _ _ => "boolean"
  | dateTime _ => "datetime"
  | array _ _ => "array"
  | table info _ => if info.inline then "inline table" else "table"
  | tables _ => "array of tables"

end PathGlob.Toml
