import PathGlob.Pattern.Parser

/-!
# PathGlob.Pattern.Grammar

The grammar of patterns as a relation between texts and what they mean, without a reading order.
Every rule says how one fragment is written in front of a rest that it does not touch; only the
rule for plain characters looks at the rest, which must not go on with another plain character.
-/

namespace PathGlob.Pattern

/-- The items of a group: at least one, none empty, all of item characters. -/
def IsGroup (items : List Text) : Prop :=
  items ≠ [] ∧ ∀ item ∈ items, item ≠ [] ∧ ∀ c ∈ item, isItemChar c = true

/-- The contents of a class: not empty, and with `]` only in front. -/
def IsContents : Text → Prop
  | [] => False
  | _ :: body => ']' ∉ body

/-- `Written s f rest`: the text `s` starts with the fragment `f`, and `rest` comes after it. -/
inductive Written : Text → Fragment → Text → Prop
  /-- A backslash takes any character for itself. -/
  | escaped (c : Char) (rest : Text) : Written ('\\' :: c :: rest) (.literal [c]) rest
  /-- A backslash that nothing follows is a backslash. -/
  | trailing : Written ['\\'] (.literal ['\\']) []
  | anyChar (rest : Text) : Written ('?' :: rest) .anyChar rest
  | anyText (rest : Text) : Written ('*' :: rest) .anyText rest
  | group (items : List Text) (rest : Text) : IsGroup items →
    Written ('{' :: Text.join ',' items ++ '}' :: rest) (.oneOf (.ofList items)) rest
  | negatedClass (contents rest : Text) : IsContents contents →
    Written ('[' :: '!' :: contents ++ ']' :: rest) (.charClass true contents) rest
  /-- Contents that start with an exclamation mark can only be written negated. -/
  | charClass (contents rest : Text) : IsContents contents → contents.head? ≠ some '!' →
    Written ('[' :: contents ++ ']' :: rest) (.charClass false contents) rest
  /-- Plain characters stand for themselves, as many as there are. -/
  | plain (text rest : Text) : text ≠ [] → (∀ c ∈ text, isPlain c = true) →
    (∀ c, rest.head? = some c → isPlain c = false) →
    Written (text ++ rest) (.literal text) rest

/-- `WrittenFirst s fragments rest`: the text `s` starts with the fragments, and `rest` comes after
them. -/
inductive WrittenFirst : Text → List Fragment → Text → Prop
  | nil (rest : Text) : WrittenFirst rest [] rest
  | cons {s t rest : Text} {f : Fragment} {more : List Fragment} :
    Written s f t → WrittenFirst t more rest → WrittenFirst s (f :: more) rest

/-- The fragments that a text is made of, with nothing left over. -/
inductive WrittenAll : Text → List Fragment → Prop
  | nil : WrittenAll [] []
  | cons {s rest : Text} {f : Fragment} {more : List Fragment} :
    Written s f rest → WrittenAll rest more → WrittenAll s (f :: more)

/-- The component that a piece between slashes writes. -/
inductive WrittenPiece : Text → Component (List Fragment) → Prop
  | doubleStar : WrittenPiece ['*', '*'] .doubleStar
  | segment {piece : Text} {fragments : List Fragment} : piece ≠ ['*', '*'] →
    WrittenAll piece fragments → WrittenPiece piece (.segment fragments)

/-- The components that pieces write, one for each. -/
inductive WrittenPieces : List Text → Pattern → Prop
  | nil : WrittenPieces [] []
  | cons {piece : Text} {pieces : List Text} {component : Component (List Fragment)}
    {pattern : Pattern} : WrittenPiece piece component → WrittenPieces pieces pattern →
    WrittenPieces (piece :: pieces) (component :: pattern)

/-- The pattern that a text writes: one component for each piece between slashes. -/
def WrittenPattern (text : Text) (pattern : Pattern) : Prop :=
  WrittenPieces (Text.pieces separator text) pattern

end PathGlob.Pattern
