import PathGlob.Expression.Reader
import PathGlob.Text.Lines
import PathGlob.Text.Pieces

/-!
# PathGlob.Expression.Report

Showing where an expression is faulty: the lines of the expression with carets below the fault. An
expression of one line is indented; the lines of a longer one are numbered and stand between two
rules.
-/

namespace PathGlob.Expression

/-- The lines of an expression with `carets` under the place in the given line and column, both
counted from zero. Lines get `margin` in front; the carets get as many blanks. -/
def notate (margin : Nat → Text) (line column carets : Nat) (lines : List Text) : Text :=
  lines.zipIdx.flatMap fun (text, i) =>
    margin i ++ text ++ ['\n'] ++
      if i = line then
        List.replicate ((margin i).length + column) ' ' ++ List.replicate carets '^' ++ ['\n']
      else []

/-- The report of a fault that lies between two places of one line of the expression. -/
def report (expression : Text) (start stop : Nat) (problem : Text) : Text :=
  let before := Text.pieces '\n' (expression.take start)
  let line := before.length - 1
  let column := (before.getLast?.getD []).length
  let notated := fun margin => notate margin line column (max 1 (stop - start)) expression.lines
  let excerpt :=
    if expression.contains '\n' then
      let count := expression.lines.length + if expression.getLast? = some '\n' then 1 else 0
      let width := if count ≤ 1 then 0 else (Text.ofNat count).length
      let margin := fun i =>
        if width = 0 then List.replicate 4 ' '
        else Text.padLeft width (Text.ofNat (i + 1)) ++ [':', ' ']
      let rule := List.replicate 79 '~' ++ ['\n']
      rule ++ notated margin ++ rule
    else notated fun _ => List.replicate 4 ' '
  "regex parse error:\n".toList ++ excerpt ++ "error: ".toList ++ problem

/-- The report of a fault of the given expression. -/
def Fault.message (expression : Text) : Fault → Text
  | unclosedClass start stop => report expression start stop "unclosed character class".toList
  | unsupported position =>
    report expression position (position + 1) "unsupported construct".toList

end PathGlob.Expression
