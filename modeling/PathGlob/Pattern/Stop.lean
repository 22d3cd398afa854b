import PathGlob.Pattern.Grammar

/-!
# PathGlob.Pattern.Stop

Where a text stops being a pattern, and why, as relations beside the grammar. A text is no pattern
because one of its pieces cannot be read to its end: **fragments are written up to a character at
which none starts** (`Stuck`), and all pieces in front of that one are written (`Stops`).
-/

namespace PathGlob.Pattern

/-- The text without the given character in front, if it stands there. -/
def skip (c : Char) : Text → Text
  | [] => []
  | d :: rest => if d = c then rest else d :: rest

/-- `Stuck c rest reason`: no fragment starts at the character `c` with `rest` after it in its
piece. -/
inductive Stuck : Char → Text → Reason → Prop
  /-- A closing bracket starts nothing. -/
  | bracket (rest : Text) : Stuck ']' rest .unmatchedBracket
  /-- A closing brace starts nothing. -/
  | brace (rest : Text) : Stuck '}' rest .unmatchedBrace
  /-- After the sign of the class and a bracket in front of its contents, no bracket closes it. -/
  | unterminated {rest : Text} : ']' ∉ skip ']' (skip '!' rest) →
    Stuck '[' rest .unterminatedClass
  /-- What follows is not items and a closing brace. -/
  | malformed {rest : Text} :
    (∀ items after, IsGroup items → rest ≠ Text.join ',' items ++ '}' :: after) →
    Stuck '{' rest .malformedAlternatives

/-- A place in a text, at a character of one of its pieces. -/
structure Place where
  /-- The pieces in front of the one that holds the character. -/
  earlier : List Text
  /-- What stands in front of the character in its piece. -/
  front : Text
  char : Char
  /-- What comes after the character in its piece. -/
  rest : Text
  /-- The pieces after that one. -/
  later : List Text

namespace Place

/-- The pieces of the text. -/
def pieces (place : Place) : List Text :=
  place.earlier ++ (place.front ++ place.char :: place.rest) :: place.later

/-- The text in front of the character. -/
def before (place : Place) : Text :=
  Text.join separator (place.earlier ++ [place.front])

/-- The text after the character. -/
def after (place : Place) : Text :=
  Text.join separator (place.rest :: place.later)

/-- The same place with one more piece in front. -/
def behind (piece : Text) (place : Place) : Place :=
  { place with earlier := piece :: place.earlier }

end Place

/-- `Stops pieces place reason`: the pieces are written up to the place, where reading stops. -/
inductive Stops : List Text → Place → Reason → Prop
  /-- The first piece is the one that cannot be read to its end. -/
  | here {front rest : Text} {c : Char} {later : List Text} {fragments : List Fragment}
    {reason : Reason} : WrittenFirst (front ++ c :: rest) fragments (c :: rest) →
    Stuck c rest reason →
    Stops ((front ++ c :: rest) :: later) { earlier := [], front, char := c, rest, later } reason
  | behind {piece : Text} {component : Component (List Fragment)} {pieces : List Text}
    {place : Place} {reason : Reason} : WrittenPiece piece component →
    Stops pieces place reason → Stops (piece :: pieces) (place.behind piece) reason

/-- `Located text fault place`: the place in the text that a fault tells, and what is true of the
text around it. -/
structure Located (text : Text) (fault : Fault) (place : Place) : Prop where
  pattern : fault.pattern = text
  cut : Text.Cut separator text place.pieces
  split : text = place.before ++ place.char :: place.after
  /-- The position counts the bytes in front of the place. -/
  bytes : (Text.toBytes text).take fault.position = Text.toBytes place.before
  inside : fault.position < (Text.toBytes text).length
  /-- The character at the place tells the reason. -/
  stuck : Stuck place.char place.rest fault.reason
  known : fault.reason ≠ .unexpected
  /-- The text in front of the place is a pattern on its own. -/
  before : ∃ pattern, parse place.before = .ok pattern
  earlier : ∀ piece ∈ place.earlier, ∃ component, WrittenPiece piece component
  front : ∃ fragments, WrittenAll place.front fragments
  none : ∀ f rest, ¬ Written (place.char :: place.rest) f rest

end PathGlob.Pattern
