import PathGlob.Text.Extending
import PathGlob.Text.Printable

/-!
# PathGlob.Text.Quoted

Texts between double quotes. Quotes, backslashes and a few control characters have a short
escape; what would not show, or would attach itself to the character before it, is written by its
code point. The quoted form of a text never holds a line break.
-/

namespace PathGlob.Text

/-- The character's code point in lower case hexadecimal digits between braces. -/
def unicodeEscape (c : Char) : Text :=
  ['\\', 'u', '{'] ++ Nat.toDigits 16 c.toNat ++ ['}']

/-- A character between quotes. -/
def quotedChar (c : Char) : Text :=
  match c with
  | '\x00' => ['\\', '0']
  | '\t' => ['\\', 't']
  | '\n' => ['\\', 'n']
  | '\r' => ['\\', 'r']
  | '"' => ['\\', '"']
  | '\\' => ['\\', '\\']
  | c => if isExtending c || !isPrintable c then unicodeEscape c else [c]

/-- A text in quotes. -/
def quoted (t : Text) : Text :=
  '"' :: t.flatMap quotedChar ++ ['"']

end PathGlob.Text
