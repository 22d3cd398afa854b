import PathGlob.Toml.Fault

/-!
# PathGlob.Toml.Blank

What stands between the parts of a document: blanks, line ends and comments.
-/

namespace PathGlob.Toml

/-- A space or a tab. -/
def isBlank (c : Char) : Bool :=
  c = ' ' || c = '\t'

/-- A character that a comment may hold; control characters other than the tab may not occur. -/
def isCommentChar (c : Char) : Bool :=
  c = '\t' || (' ' ≤ c && c != '\x7F')

def skipBlanks (s : Text) : Text :=
  s.dropWhile isBlank

/-- What is left after a line end: a line feed, perhaps after a carriage return. -/
def newline? : Text → Option Text
  | '\n' :: rest => some rest
  | '\r' :: '\n' :: rest => some rest
  | _ => none

/-- What is left after a comment, if there is one. -/
def skipComment : Text → Text
  | '#' :: rest => rest.dropWhile isCommentChar
  | s => s

/-- What is left after the end of a line: blanks, perhaps a comment, and a line end or the end of
the text. -/
def lineEnd (s : Text) : Except Fault Text :=
  match skipComment (skipBlanks s) with
  | [] => .ok []
  | rest =>
    match newline? rest with
    | some rest => .ok rest
    | none => .error (.here rest)

/-- Skips blanks, comments and line ends; a comment has to end with its line. -/
def skipLines (fuel : Nat) (s : Text) : Except Fault Text :=
  match fuel, skipBlanks s with
  | 0, rest => .ok rest
  | fuel + 1, rest =>
    match rest with
    | '#' :: _ | '\n' :: _ | '\r' :: _ =>
      match newline? (skipComment rest) with
      | some rest => skipLines fuel rest
      | none => .error (.here (skipComment rest))
    | _ => .ok rest

/-- Skips all blanks, comments and line ends. -/
def skipBlankLines (s : Text) : Except Fault Text :=
  skipLines (s.length + 1) s

end PathGlob.Toml
