import PathGlob.Text.Lines

/-!
# PathGlob.Console.Plain

Text without what would control a terminal: escape sequences and control characters are left out,
blanks and line ends are kept.
-/

namespace PathGlob.Console

/-- Where in an escape sequence a text is. -/
inductive SequencePart
  /-- In none. -/
  | outside
  /-- After the escape character. -/
  | introduced
  /-- In a sequence with parameters, which a letter ends. -/
  | parameters
  /-- In a string, which a bell or another escape sequence ends. -/
  | string
  deriving DecidableEq, Repr

/-- The part of an escape sequence after a character. -/
def SequencePart.next (part : SequencePart) (c : Char) : SequencePart :=
  if c = '\x1B' then introduced
  else match part with
    | outside => outside
    | introduced =>
      if c = '[' then parameters
      else if c = ']' || c = 'P' || c = 'X' || c = '^' || c = '_' then string
      else if ' ' ≤ c && c ≤ '/' then introduced
      else outside
    | parameters => if '@' ≤ c && c ≤ '~' then outside else parameters
    | string => if c = '\x07' then outside else string

/-- Whether a character outside escape sequences is kept. -/
def isKept (c : Char) : Bool :=
  (' ' ≤ c && c != '\x7F') || c = '\t' || c = '\n' || c = '\x0C' || c = '\r'

/-- The text without control characters and escape sequences, of which the given part comes
first. -/
def plainFrom (part : SequencePart) : Text → Text
  | [] => []
  | c :: rest =>
    if part = .outside && isKept c then c :: plainFrom part rest else plainFrom (part.next c) rest

/-- The text without control characters and escape sequences. -/
def plain (t : Text) : Text :=
  plainFrom .outside t

end PathGlob.Console
