import PathGlob.Decimal.Notation
import PathGlob.Text.Quoted

/-!
# PathGlob.Json.Value

JSON values, and how a value of the wrong kind is named in an error.
-/

namespace PathGlob.Json

/-- A JSON value. Numbers with a fraction, an exponent or no room in 64 bits are floating point
numbers. -/
inductive Value
  | null
  | bool (b : Bool)
  | integer (n : Int)
  | float (x : Float)
  | string (text : Text)
  | array (items : List Value)
  | object (fields : List (Text × Value))

/-- Numbers in error texts are written without an exponent while their point stands between
0.00001 and 10¹⁶. -/
def numberFormat : Decimal.Format := .scientificOutside (-4) 16

/-- The name of a value in an error about its kind. -/
def Value.kind : Value → Text
  | null => "null".toList
  | bool b => "boolean `".toList ++ (if b then "true" else "false").toList ++ ['\x60']
  | integer n => "integer `".toList ++ (toString n).toList ++ ['\x60']
  | float x => "floating point `".toList ++ Decimal.writeFloat numberFormat x ++ ['\x60']
  | string text => "string ".toList ++ Text.quoted text
  | array _ => "sequence".toList
  | object _ => "map".toList

end PathGlob.Json
