import PathGlob.Expression.Basic

/-!
# PathGlob.Expression.Reader

Reading the text of a regular expression. The dialect is the one that expressions for segments
need, with the usual meaning of every construct: plain characters, a backslash before a
punctuation character, `.`, `*`, `|`, the anchors `^` and `$`, groups `(?:…)` and `(?s:…)`, and
bracketed classes with negation, ranges, nesting, the set operators `&&`, `--` and `~~` and the
named sets `[:alpha:]` and so on. Everything else is refused as unsupported.

The reader is a machine (`Reading`) that looks at one character and what follows it at a time. Its
state is the groups and the brackets that are open. Inside brackets the rules differ:

* the first `]` of a class is a member of it, as are the hyphens in front;
* a hyphen between two members makes a range unless a `]` or another hyphen follows it;
* `[` opens a nested class unless a named set starts there;
* the set operators bind equally strongly and to the left.
-/

namespace PathGlob.Expression

/-- Why a text is not an expression; places count characters from the start of the text. -/
inductive Fault
  /-- A class that nothing closes. Its opening reaches from `start` to before `stop`. -/
  | unclosedClass (start stop : Nat)
  /-- A construct that does not belong to the dialect, or is incomplete. -/
  | unsupported (position : Nat)
  deriving DecidableEq, Repr

/-- The operators between sets. -/
inductive SetOperator
  | inter
  | diff
  | symmDiff
  deriving DecidableEq, Repr

def SetOperator.apply : SetOperator → CharClass → CharClass → CharClass
  | inter => .inter
  | diff => .diff
  | symmDiff => .symmDiff

/-- A bracketed class of which a part has been read. -/
structure Bracket where
  negated : Bool
  /-- Where the opening starts. -/
  start : Nat
  /-- Where the opening, with the members that it includes, ends. -/
  stop : Nat
  /-- The left operand of the operator in whose right operand the reader is. -/
  operand : Option (SetOperator × CharClass)
  /-- The members read since. -/
  members : CharClass
  deriving DecidableEq, Repr

namespace Bracket

/-- The members so far, with the operator in front applied. -/
def value (b : Bracket) : CharClass :=
  match b.operand with
  | none => b.members
  | some (operator, left) => operator.apply left b.members

/-- The class, if it ends here. -/
def close (b : Bracket) : CharClass :=
  if b.negated then .compl b.value else b.value

def add (b : Bracket) (set : CharClass) : Bracket :=
  { b with members := .union b.members set }

def operate (b : Bracket) (operator : SetOperator) : Bracket :=
  { b with operand := some (operator, b.value), members := .none }

end Bracket

/-- A group, or the whole expression, of which a part has been read. -/
structure Level where
  /-- Whether `.` takes line feeds. -/
  dotAll : Bool
  /-- The choices to the left of the last `|`. -/
  earlier : Option Expr
  /-- The items since, the latest first. -/
  items : List Expr
  deriving DecidableEq, Repr

namespace Level

/-- The expression, if it ends here. -/
def close (l : Level) : Expr :=
  match l.earlier with
  | none => .ofReversed l.items
  | some earlier => .either earlier (.ofReversed l.items)

def add (l : Level) (item : Expr) : Level :=
  { l with items := item :: l.items }

/-- Starts the next choice. -/
def choose (l : Level) : Level :=
  { l with earlier := some l.close, items := [] }

end Level

/-- The state of the reader. -/
structure Reading where
  /-- The innermost open group, or the whole expression. -/
  level : Level
  /-- What is around it, the innermost first. -/
  outer : List Level
  /-- The open brackets, the innermost first. -/
  brackets : List Bracket
  /-- How many characters have been read. -/
  position : Nat
  deriving DecidableEq, Repr

namespace Reading

/-- The state before the first character. -/
def initial : Reading where
  level := { dotAll := false, earlier := none, items := [] }
  outer := []
  brackets := []
  position := 0

/-- A character that a backslash turns into a plain one: ASCII punctuation and blanks, but not
`<` and `>`. -/
def isEscapable (c : Char) : Bool :=
  c.toNat < 0x80 && !c.isAlphanum && c != '<' && c != '>'

/-- The member of a class that starts at `c`: the character and how many characters of `rest` it
needs. -/
def member? (c : Char) (rest : Text) : Option (Char × Nat) :=
  if c = '\\' then
    match rest with
    | d :: _ => if isEscapable d then some (d, 1) else none
    | [] => none
  else some (c, 0)

/-- Opens a bracket at a `[`; the second part is how many characters of `rest` belong to the
opening. -/
def openBracket (position : Nat) (rest : Text) : Bracket × Nat :=
  let (negated, sign, body) := match rest with
    | '^' :: body => (true, 1, body)
    | body => (false, 0, body)
  let hyphens := (body.takeWhile (· = '-')).length
  let (used, members) :=
    if hyphens > 0 then (sign + hyphens, CharClass.single '-')
    else match body with
      | ']' :: _ => (sign + 1, CharClass.single ']')
      | _ => (sign, CharClass.none)
  ({ negated, start := position, stop := position + 1 + used, operand := none, members }, used)

/-- The named set after a `[`, written `:name:]` or `:^name:]`, and how many characters of `rest`
it needs. -/
def namedSet? (rest : Text) : Option (CharClass × Nat) :=
  match rest with
  | ':' :: '^' :: more => (named more).map fun (set, used) => (.compl set, used + 4)
  | ':' :: more => (named more).map fun (set, used) => (set, used + 3)
  | _ => none
where
  named (s : Text) : Option (CharClass × Nat) :=
    let name := s.takeWhile (· != ':')
    match s.drop name.length with
    | ':' :: ']' :: _ => (CharClass.named? name).map fun set => (set, name.length)
    | _ => none

/-- The operator that starts at `c`. -/
def operator? (c : Char) (rest : Text) : Option SetOperator :=
  if rest.head? = some c then
    if c = '&' then some .inter
    else if c = '-' then some .diff
    else if c = '~' then some .symmDiff
    else none
  else none

/-- A member, or the range that it starts; the second part is how many characters of `rest` it
needs. -/
def memberOrRange (position : Nat) (c : Char) (rest : Text) :
    Except Fault (CharClass × Nat) :=
  match member? c rest with
  | none => .error (.unsupported position)
  | some (first, used) =>
    match rest.drop used with
    | '-' :: d :: more =>
      if d = ']' || d = '-' then .ok (.single first, used)
      else match member? d more with
        | none => .error (.unsupported position)
        | some (last, usedLast) =>
          if first ≤ last then .ok (.range first last, used + 2 + usedLast)
          else .error (.unsupported position)
    | _ => .ok (.single first, used)

/-- Reads one character inside `bracket`, which stands in `around`. -/
def stepInside (r : Reading) (bracket : Bracket) (around : List Bracket) (c : Char)
    (rest : Text) : Except Fault (Reading × Nat) :=
  if c = '[' then
    match namedSet? rest with
    | some (set, used) => .ok ({ r with brackets := bracket.add set :: around }, used)
    | none =>
      let (inner, used) := openBracket r.position rest
      .ok ({ r with brackets := inner :: bracket :: around }, used)
  else if c = ']' then
    match around with
    | [] => .ok ({ r with brackets := [], level := r.level.add (.one bracket.close) }, 0)
    | next :: others => .ok ({ r with brackets := next.add bracket.close :: others }, 0)
  else
    match operator? c rest with
    | some operator => .ok ({ r with brackets := bracket.operate operator :: around }, 1)
    | none =>
      (memberOrRange r.position c rest).map fun (set, used) =>
        ({ r with brackets := bracket.add set :: around }, used)

/-- Reads one character outside brackets. -/
def stepOutside (r : Reading) (c : Char) (rest : Text) : Except Fault (Reading × Nat) :=
  match c with
  | '(' =>
    let group := fun dotAll =>
      { r with level := { dotAll, earlier := none, items := [] }, outer := r.level :: r.outer }
    match rest with
    | '?' :: ':' :: _ => .ok (group r.level.dotAll, 2)
    | '?' :: 's' :: ':' :: _ => .ok (group true, 3)
    | _ => .error (.unsupported r.position)
  | ')' =>
    match r.outer with
    | [] => .error (.unsupported r.position)
    | around :: outer => .ok ({ r with level := around.add r.level.close, outer }, 0)
  | '|' => .ok ({ r with level := r.level.choose }, 0)
  | '[' =>
    let (bracket, used) := openBracket r.position rest
    .ok ({ r with brackets := [bracket] }, used)
  | '*' =>
    match r.level.items with
    | [] => .error (.unsupported r.position)
    | item :: items => .ok ({ r with level := { r.level with items := .star item :: items } }, 0)
  | '?' | '+' | '{' => .error (.unsupported r.position)
  | '\\' =>
    match member? c rest with
    | none => .error (.unsupported r.position)
    | some (d, used) => .ok ({ r with level := r.level.add (.one (.single d)) }, used)
  | '.' =>
    let set := if r.level.dotAll then CharClass.any else .compl (.single '\n')
    .ok ({ r with level := r.level.add (.one set) }, 0)
  | '^' => .ok ({ r with level := r.level.add .start }, 0)
  | '$' => .ok ({ r with level := r.level.add .finish }, 0)
  | c => .ok ({ r with level := r.level.add (.one (.single c)) }, 0)

/-- Reads one character; the second part of the result is how many characters of `rest` were used
with it. -/
def step (r : Reading) (c : Char) (rest : Text) : Except Fault (Reading × Nat) :=
  match r.brackets with
  | [] => r.stepOutside c rest
  | bracket :: around => r.stepInside bracket around c rest

/-- The expression, if the text ends here. -/
def finish (r : Reading) : Except Fault Expr :=
  match r.brackets, r.outer with
  | bracket :: _, _ => .error (.unclosedClass bracket.start bracket.stop)
  | [], _ :: _ => .error (.unsupported r.position)
  | [], [] => .ok r.level.close

/-- Reads to the end of the text. -/
def run (r : Reading) : Text → Except Fault Expr
  | [] => r.finish
  | c :: rest =>
    match r.step c rest with
    | .error fault => .error fault
    | .ok (next, used) => { next with position := r.position + 1 + used }.run (rest.drop used)
termination_by s => s.length
decreasing_by simp only [List.length_drop, List.length_cons]; omega

end Reading

end Expression

/-- The expression that a text writes. -/
def Expr.parse (text : Text) : Except Expression.Fault Expr :=
  Expression.Reading.initial.run text

end PathGlob
