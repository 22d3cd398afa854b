import PathGlob.Expression.CharClass

/-!
# PathGlob.Expression.Basic

Regular expressions as trees. Besides characters, sequences, choices and repetition there are the
two **anchors**, which take no character and hold only at the ends of the text.
-/

namespace PathGlob

/-- A regular expression. -/
inductive Expr
  /-- The empty text. -/
  | empty
  /-- Nothing, at the start of the text only. -/
  | start
  /-- Nothing, at the end of the text only. -/
  | finish
  /-- One character of a set. -/
  | one (set : Expression.CharClass)
  /-- The first, then the second. -/
  | seq (first second : Expr)
  /-- The left or the right. -/
  | either (left right : Expr)
  /-- Any number of times, zero included. -/
  | star (body : Expr)
  deriving DecidableEq, Repr

namespace Expr

/-- The sequence of a list of expressions that is given from the last to the first. -/
def ofReversed (items : List Expr) : Expr :=
  items.foldl (fun later item => seq item later) empty

/-- Whether the expression can go from a place with `s` left to a place with `t` left, where
`whole` is the text in which it is searched. -/
inductive Takes (whole : Text) : Expr → Text → Text → Prop
  | empty {s} : Takes whole empty s s
  | start : Takes whole start whole whole
  | finish : Takes whole finish [] []
  | one {set c s} : set.contains c = true → Takes whole (one set) (c :: s) s
  | seq {a b s t u} : Takes whole a s t → Takes whole b t u → Takes whole (seq a b) s u
  | left {a b s t} : Takes whole a s t → Takes whole (either a b) s t
  | right {a b s t} : Takes whole b s t → Takes whole (either a b) s t
  | starNil {a s} : Takes whole (star a) s s
  | starCons {a s t u} : Takes whole a s t → Takes whole (star a) t u → Takes whole (star a) s u

/-- The expression matches somewhere in the text. -/
def Matches (e : Expr) (text : Text) : Prop :=
  ∃ s t, s <:+ text ∧ Takes text e s t

end Expr

end PathGlob
