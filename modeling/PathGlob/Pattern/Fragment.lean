import PathGlob.Component
import PathGlob.Pattern.Alternatives

/-!
# PathGlob.Pattern.Fragment

What a pattern is made of. A pattern is a list of components, one for each piece between slashes;
a piece other than `**` is a list of **fragments**, read from left to right.

The type of fragments is larger than what patterns can spell: literals may be empty or hold
slashes, sets may have no member or an empty one, and classes may be empty.
-/

namespace PathGlob

/-- A part of a segment. -/
inductive Fragment
  /-- The text itself. -/
  | literal (text : Text)
  /-- Any member of the set. -/
  | oneOf (alternatives : Alternatives)
  /-- One character that is among the characters of `contents` or, negated, is not. -/
  | charClass (negated : Bool) (contents : Text)
  /-- One arbitrary character. -/
  | anyChar
  /-- An arbitrary text. -/
  | anyText
  deriving DecidableEq

/-- A parsed pattern: a component for each piece between slashes. -/
abbrev Pattern := List (Component (List Fragment))

end PathGlob
