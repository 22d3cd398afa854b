import PathGlob.Text.Alphanumeric

/-!
# PathGlob.Expression.Escape

Writing texts so that a regular expression takes every character for itself. Two contexts need two
rules: outside brackets a character must not act as an operator (`escape`), inside brackets it
must not start a range, a set operator, a nested class or the end of the class
(`escapeContents`).
-/

namespace PathGlob.Expression

/-- The characters that a pair of brackets around them would not protect. -/
def isBracketMeta (c : Char) : Bool :=
  c = '\\' || c = ']' || c = '[' || c = '^' || c = '-' || c = '&' || c = '~'

/-- The characters that have a meaning of their own somewhere in an expression. -/
def isMeta (c : Char) : Bool :=
  c = '\\' || c = '.' || c = '+' || c = '*' || c = '?' || c = '(' || c = ')' || c = '|' ||
    c = '[' || c = ']' || c = '{' || c = '}' || c = '^' || c = '$' || c = '#' || c = '&' ||
    c = '-' || c = '~'

/-- One character outside brackets: letters and digits stand for themselves, characters that
brackets would not protect get a backslash, and all others get brackets. -/
def escapeChar (c : Char) : Text :=
  if Text.isAlphanumeric c then [c]
  else if isBracketMeta c then ['\\', c]
  else ['[', c, ']']

/-- A text outside brackets, character by character. -/
def escape (t : Text) : Text :=
  t.flatMap escapeChar

/-- One character inside brackets. -/
def escapeMember (c : Char) : Text :=
  if isMeta c then ['\\', c] else [c]

/-- The contents of a class, every character a member of its own. -/
def escapeContents (t : Text) : Text :=
  t.flatMap escapeMember

end PathGlob.Expression
