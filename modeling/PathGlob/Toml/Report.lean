import PathGlob.Text.Pieces
import PathGlob.Toml.Document

/-!
# PathGlob.Toml.Report

Telling what is wrong with a document: line and column, the line itself with carets below the
place, and the problem.
-/

namespace PathGlob.Toml

/-- A problem with a part of a document. -/
structure Problem where
  span : Span
  message : Text
  deriving DecidableEq, Repr

/-- The problem that a fault is; it lies with the first character that was not read. -/
def Fault.problem (fault : Fault) : Problem where
  span := .between fault.rest fault.rest.tail
  message := fault.message

/-- The characters of the first `bytes` bytes of a text. -/
def firstBytes (bytes : Nat) : Text → Text
  | [] => []
  | c :: rest =>
    if c.utf8Size ≤ bytes then c :: firstBytes (bytes - c.utf8Size) rest else []

/-- Line and column of a place, both counted from zero. At the end of the document the place is
one to the right of the last character. In front of a character beyond ASCII the column counts
bytes instead of characters. -/
def lineAndColumn (document : Text) (bytes : Nat) : Nat × Nat :=
  let locate := fun (before : Text) =>
    let pieces := Text.pieces '\n' before
    (pieces.length - 1, pieces.getLast?.getD [])
  if document.isEmpty then (0, bytes)
  else
    let before := firstBytes bytes document
    match document.drop before.length with
    | [] =>
      let (line, start) := locate document.dropLast
      (line, start.length + 1)
    | c :: _ =>
      let (line, start) := locate before
      (line, if c.utf8Size = 1 then start.length else start.byteLength)

/-- The report of a problem. Carets mark the bytes of the part that lie on its first line, but at
least one. -/
def Problem.report (problem : Problem) (document : Text) : Text :=
  let start := document.byteLength - problem.span.before
  let (line, column) := lineAndColumn document start
  let content := ((Text.pieces '\n' document)[line]?).getD []
  let carets := min (problem.span.before - problem.span.after) (content.byteLength - column)
  let number := Text.ofNat (line + 1)
  let gutter := List.replicate number.length ' '
  "TOML parse error at line ".toList ++ number ++ ", column ".toList ++ Text.ofNat (column + 1) ++
    ['\n'] ++ gutter ++ " |\n".toList ++
    number ++ " | ".toList ++ content ++ ['\n'] ++
    gutter ++ " | ".toList ++ List.replicate column ' ' ++ List.replicate (max 1 carets) '^' ++
    ['\n'] ++ problem.message ++ ['\n']

end PathGlob.Toml
