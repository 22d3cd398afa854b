import PathGlob.Expression.Report
import PathGlob.Expression.Size

/-!
# PathGlob.Expression.Compile

Compiling an expression: its text is read, and expressions whose matching automaton would be too
large are refused.
-/

namespace PathGlob

namespace Expression

/-- The most bytes that the automaton of one expression may take. -/
def sizeLimit : Nat := 10485760

/-- Why an expression cannot be compiled. -/
inductive CompileFault
  | malformed (fault : Fault)
  | tooLarge
  deriving DecidableEq, Repr

def CompileFault.message (expression : Text) : CompileFault → Text
  | malformed fault => fault.message expression
  | tooLarge =>
    "Compiled regex exceeds size limit of ".toList ++ Text.ofNat sizeLimit ++ " bytes.".toList

/-- Reads an expression and refuses it if its automaton is too large. -/
def compile (text : Text) : Except CompileFault Expr :=
  match Expr.parse text with
  | .error fault => .error (.malformed fault)
  | .ok e => if sizeLimit < size e then .error .tooLarge else .ok e

end Expression

end PathGlob
