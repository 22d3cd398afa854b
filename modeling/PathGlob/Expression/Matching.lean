import PathGlob.Expression.Basic

/-!
# PathGlob.Expression.Matching

Deciding whether an expression matches, without backtracking. A place in the text is a **cursor**;
an expression maps the set of cursors where it may start to the set of cursors where it may stop
(`advance`). Sets are lists with strictly fewer characters left from each cursor to the next, so
they are never longer than the text.
-/

namespace PathGlob.Expression

/-- A place in a text, given by what is left of the text from there on. -/
structure Cursor where
  rest : Text
  /-- How many characters are left. -/
  left : Nat
  left_eq : left = rest.length := by simp

namespace Cursor

/-- The start of a text. -/
def ofText (t : Text) : Cursor where
  rest := t
  left := t.length

/-- The places after a character of the set: one or none. -/
def take (set : CharClass) (cursor : Cursor) : Option Cursor :=
  match h : cursor.rest with
  | [] => none
  | c :: rest =>
    if set.contains c then
      some { rest, left := cursor.left - 1, left_eq := by simp [cursor.left_eq, h] }
    else none

/-- All places of a text, the start first. -/
def all (t : Text) : List Cursor :=
  match t with
  | [] => [ofText []]
  | _ :: rest => ofText t :: all rest

/-- The union of two sets of cursors. -/
def merge : List Cursor → List Cursor → List Cursor
  | [], bs => bs
  | as, [] => as
  | a :: as, b :: bs =>
    if b.left < a.left then a :: merge as (b :: bs)
    else if a.left < b.left then b :: merge (a :: as) bs
    else a :: merge as bs
termination_by as bs => as.length + bs.length

/-- What any number of steps reaches from the pending cursors, none of which has more than `left`
characters left. A step that takes no character adds nothing. -/
def closure (step : Cursor → List Cursor) : (left : Nat) → List Cursor → List Cursor
  | 0, pending => pending
  | _, [] => []
  | left + 1, cursor :: more =>
    if cursor.left = left + 1 then
      cursor :: closure step left (merge more ((step cursor).filter (·.left < cursor.left)))
    else closure step left (cursor :: more)

end Cursor

end Expression

namespace Expr

open Expression

/-- The cursors where the expression may stop if it starts at one of the given cursors; the text
has `total` characters. -/
def advance (total : Nat) : Expr → List Cursor → List Cursor
  | empty, cursors => cursors
  | start, cursors => cursors.filter (·.left = total)
  | finish, cursors => cursors.filter (·.left = 0)
  | one set, cursors => cursors.filterMap (Cursor.take set)
  | seq first second, cursors => second.advance total (first.advance total cursors)
  | either left right, cursors =>
    Cursor.merge (left.advance total cursors) (right.advance total cursors)
  | star body, cursors => Cursor.closure (fun cursor => body.advance total [cursor]) total cursors

/-- Whether the expression matches somewhere in the text. -/
def isMatch (e : Expr) (text : Text) : Bool :=
  !(e.advance text.length (Cursor.all text)).isEmpty

end Expr

end PathGlob
