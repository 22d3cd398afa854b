import PathGlob.Decimal.Reading
import PathGlob.Toml.Blank

/-!
# PathGlob.Toml.String

Strings: between double quotes with escapes, between single quotes without, and both kinds over
several lines between three quotes.
-/

namespace PathGlob.Toml

/-- A character that stands for itself in a string; the quote and, where there are escapes, the
backslash are dealt with before. -/
def isStringChar (c : Char) : Bool :=
  isCommentChar c

/-- Reads a code point of `count` hexadecimal digits. -/
def codePoint (count : Nat) (s : Text) : Result Char :=
  let digits := ((s.take count).takeWhile fun c => (Decimal.digit? 16 c).isSome).filterMap
    (Decimal.digit? 16)
  let construct := "unicode " ++ toString count ++ "-digit hex code"
  let fault := ((Fault.here s).inside construct).definite
  let n := Decimal.ofDigits 16 digits
  if digits.length < count then .error fault
  else if h : n.isValidChar then .ok (Char.ofNatAux n h, s.drop count)
  else .error (fault.because .outOfRange)

/-- Reads an escape after its backslash. A fault is placed after the character that is no escape
if that character takes a single byte, and at it otherwise. -/
def escape (s : Text) : Result Char :=
  match s with
  | 'b' :: rest => .ok ('\x08', rest)
  | 'f' :: rest => .ok ('\x0C', rest)
  | 'n' :: rest => .ok ('\n', rest)
  | 'r' :: rest => .ok ('\r', rest)
  | 't' :: rest => .ok ('\t', rest)
  | 'u' :: rest => codePoint 4 rest
  | 'U' :: rest => codePoint 8 rest
  | '\\' :: rest => .ok ('\\', rest)
  | '"' :: rest => .ok ('"', rest)
  | c :: rest =>
    let place := if c.utf8Size = 1 then rest else c :: rest
    .error (((Fault.here place).inside "escape sequence").orExpected
      ["\x60b\x60", "\x60f\x60", "\x60n\x60", "\x60r\x60", "\x60t\x60", "\x60u\x60", "\x60U\x60",
        "\x60\\\x60", "\x60\"\x60"]).definite
  | [] => .error (.here [])

/-- Reads the rest of a string between double quotes; `before` holds its characters so far, the
latest first. -/
def basicChars (fuel : Nat) (before s : Text) : Result Text :=
  let broken := Except.error ((Fault.here s).inside "basic string").definite
  match fuel, s with
  | 0, _ => broken
  | _, [] => broken
  | _, '"' :: rest => .ok (before.reverse, rest)
  | _, ['\\'] => broken
  | fuel + 1, '\\' :: rest =>
    match escape rest with
    | .error fault => .error fault
    | .ok (c, rest) => basicChars fuel (c :: before) rest
  | fuel + 1, c :: rest => if isStringChar c then basicChars fuel (c :: before) rest else broken

/-- Reads a string between double quotes after the opening one. -/
def basicString (s : Text) : Result Text :=
  basicChars (s.length + 1) [] s

/-- Reads a string between single quotes after the opening one. -/
def literalString (s : Text) : Result Text :=
  let body := s.takeWhile fun c => isStringChar c && c != '\''
  match s.drop body.length with
  | '\'' :: rest => .ok (body, rest)
  | rest => .error ((Fault.here rest).inside "literal string").definite

/-- The two kinds of strings over several lines. -/
structure MultilineKind where
  quote : Char
  /-- Whether a backslash starts an escape. -/
  escapes : Bool
  name : String

def basicMultiline : MultilineKind where
  quote := '"'
  escapes := true
  name := "multiline basic string"

def literalMultiline : MultilineKind where
  quote := '\''
  escapes := false
  name := "multiline literal string"

/-- Skips blanks and line ends. -/
def skipBlankRun (fuel : Nat) (s : Text) : Text :=
  match fuel, newline? (skipBlanks s) with
  | fuel + 1, some rest => skipBlankRun fuel rest
  | _, _ => skipBlanks s

/-- What is left after an escaped line end and the blanks and line ends that follow it. -/
def escapedNewline? (s : Text) : Option Text :=
  (newline? (skipBlanks s)).map fun rest => skipBlankRun rest.length rest

/-- Whether a text starts with something that belongs to the body of a string over several lines,
quotes apart. -/
def startsContent (kind : MultilineKind) (s : Text) : Bool :=
  match s with
  | [] => false
  | c :: rest =>
    if c = '\r' then rest.head? = some '\n'
    else if c = '\\' && kind.escapes then !rest.isEmpty
    else c = '\n' || (isStringChar c && c != kind.quote)

/-- Reads the rest of a string over several lines; `before` holds its characters so far, the
latest first. Up to two quotes may stand next to each other inside the string and at its end. -/
def multilineChars (kind : MultilineKind) (fuel : Nat) (before s : Text) : Result Text :=
  let broken := Except.error ((Fault.here s).inside kind.name).definite
  match fuel with
  | 0 => broken
  | fuel + 1 =>
    match s with
    | [] => broken
    | c :: rest =>
      if c = kind.quote then
        let quotes := s.takeWhile (· = kind.quote)
        let after := s.drop quotes.length
        if quotes.length < 3 then
          if startsContent kind after then multilineChars kind fuel (quotes ++ before) after
          else broken
        else
          let inside := min (quotes.length - 3) 2
          .ok ((quotes.take inside ++ before).reverse, s.drop (inside + 3))
      else if c = '\\' && kind.escapes then
        match escapedNewline? rest with
        | some rest => multilineChars kind fuel before rest
        | none =>
          if rest.isEmpty then broken
          else match escape rest with
            | .error fault => .error fault
            | .ok (c, rest) => multilineChars kind fuel (c :: before) rest
      else
        match newline? s with
        | some rest => multilineChars kind fuel ('\n' :: before) rest
        | none =>
          if isStringChar c then multilineChars kind fuel (c :: before) rest else broken

/-- Reads a string over several lines after the opening quotes. A line end right after them does
not count. -/
def multilineString (kind : MultilineKind) (s : Text) : Result Text :=
  let body := (newline? s).getD s
  multilineChars kind (body.length + 1) [] body

/-- Reads a string of any kind. -/
def string (s : Text) : Result Text :=
  match s with
  | '"' :: '"' :: '"' :: rest => multilineString basicMultiline rest
  | '"' :: rest => basicString rest
  | '\'' :: '\'' :: '\'' :: rest => multilineString literalMultiline rest
  | '\'' :: rest => literalString rest
  | s => .error (.here s)

end PathGlob.Toml
