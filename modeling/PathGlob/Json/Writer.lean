import PathGlob.Json.Value

/-!
# PathGlob.Json.Writer

Writing JSON values on one line without blanks.
-/

namespace PathGlob.Json

/-- A character between the quotes of a string. -/
def writeChar (c : Char) : Text :=
  match c with
  | '"' => ['\\', '"']
  | '\\' => ['\\', '\\']
  | '\x08' => ['\\', 'b']
  | '\x0C' => ['\\', 'f']
  | '\n' => ['\\', 'n']
  | '\r' => ['\\', 'r']
  | '\t' => ['\\', 't']
  | c =>
    if c.toNat < 0x20 then "\\u".toList ++ Text.zeroPad 4 (Nat.toDigits 16 c.toNat) else [c]

def writeString (t : Text) : Text :=
  '"' :: t.flatMap writeChar ++ ['"']

mutual

def Value.write : Value → Text
  | null => "null".toList
  | bool b => (if b then "true" else "false").toList
  | integer n => (toString n).toList
  | float x => Decimal.writeFloat numberFormat x
  | string t => writeString t
  | array items => '[' :: writeItems items ++ [']']
  | object fields => '{' :: writeFields fields ++ ['}']

def Value.writeItems : List Value → Text
  | [] => []
  | [item] => item.write
  | item :: next :: more => item.write ++ ',' :: writeItems (next :: more)

def Value.writeFields : List (Text × Value) → Text
  | [] => []
  | [(key, value)] => writeString key ++ ':' :: value.write
  | (key, value) :: next :: more =>
    writeString key ++ ':' :: value.write ++ ',' :: writeFields (next :: more)

end

end PathGlob.Json
