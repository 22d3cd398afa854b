import PathGlob.Expression.Compile
import PathGlob.Expression.Matching
import PathGlob.Expression.Segment

/-!
# PathGlob.SegmentPattern

A compiled pattern for one segment: its fragments together with the expression that decides which
texts they match.
-/

namespace PathGlob

/-- Fragments whose expression compiles, with the compiled expression. -/
structure SegmentPattern where
  fragments : List Fragment
  expr : Expr
  compiles : Expression.compile (Expression.ofFragments fragments) = .ok expr

namespace SegmentPattern

/-- Compiles fragments. -/
def ofFragments (fragments : List Fragment) : Except Expression.CompileFault SegmentPattern :=
  match h : Expression.compile (Expression.ofFragments fragments) with
  | .error fault => .error fault
  | .ok expr => .ok { fragments, expr, compiles := h }

/-- Whether the fragments match the text, which may hold slashes. -/
def isMatch (p : SegmentPattern) (text : Text) : Bool :=
  p.expr.isMatch text

end SegmentPattern

end PathGlob
