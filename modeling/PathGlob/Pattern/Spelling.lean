import PathGlob.Pattern.Fragment
import PathGlob.Pattern.Parser

/-!
# PathGlob.Pattern.Spelling

Writing patterns. A fragment has a **canonical spelling** in which every character of a literal
has a backslash in front; as the members of a set have no order, a set may be spelled by any list
of its members. A plain text is turned into a pattern for just that text by **quoting** it, which
puts backslashes only where they are needed.
-/

namespace PathGlob

/-- The characters of a text, each after a backslash. -/
def Pattern.spellLiteral (text : Text) : Text :=
  text.flatMap fun c => ['\\', c]

/-- The items of a group between commas and braces. -/
def Pattern.spellGroup (items : List Text) : Text :=
  '{' :: Text.join ',' items ++ ['}']

/-- The canonical spelling of a fragment, with the members of a set in ascending order. -/
def Fragment.spell : Fragment → Text
  | literal text => Pattern.spellLiteral text
  | oneOf alternatives => Pattern.spellGroup alternatives.members
  | charClass negated contents => '[' :: (if negated then ['!'] else []) ++ contents ++ [']']
  | anyChar => ['?']
  | anyText => ['*']

/-- The spellings of a fragment: sets may be spelled by any list of their members, in any order
and with repetitions. -/
inductive Fragment.Spelled : Fragment → Text → Prop
  | oneOf (items : List Text) : Spelled (oneOf (.ofList items)) (Pattern.spellGroup items)
  | canonical (f : Fragment) : Spelled f f.spell

/-- The spellings of a list of fragments. -/
inductive Fragment.SpelledAll : List Fragment → Text → Prop
  | nil : SpelledAll [] []
  | cons {f : Fragment} {fs : List Fragment} {s t : Text} :
    Spelled f s → SpelledAll fs t → SpelledAll (f :: fs) (s ++ t)

/-- The spellings of a component. -/
inductive Component.Spelled : Component (List Fragment) → Text → Prop
  | doubleStar : Spelled .doubleStar ['*', '*']
  | segment {fragments : List Fragment} {s : Text} :
    Fragment.SpelledAll fragments s → Spelled (.segment fragments) s

namespace Pattern

/-- The spellings of components, one for each. -/
inductive SpelledPieces : Pattern → List Text → Prop
  | nil : SpelledPieces [] []
  | cons {component : Component (List Fragment)} {pattern : Pattern} {s : Text}
    {pieces : List Text} : component.Spelled s → SpelledPieces pattern pieces →
    SpelledPieces (component :: pattern) (s :: pieces)

/-- A character in a quoted text: a backslash comes before those with a meaning of their own, a
slash is left alone. -/
def quoteChar (c : Char) : Text :=
  if (isSpecial c && c != separator) || c = '\\' then ['\\', c] else [c]

/-- The pattern for one text. -/
def quote (text : Text) : Text :=
  text.flatMap quoteChar

end Pattern

end PathGlob
