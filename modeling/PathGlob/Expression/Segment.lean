import PathGlob.Expression.Escape
import PathGlob.Pattern.Fragment
import PathGlob.Text.Pieces

/-!
# PathGlob.Expression.Segment

The regular expression of a segment: the expressions of its fragments one after the other, in a
group where `.` takes line feeds too, anchored at both ends.
-/

namespace PathGlob

/-- The expression of one fragment. -/
def Fragment.expression : Fragment → Text
  | literal text => Expression.escape text
  | oneOf alternatives =>
    "(?:".toList ++ Text.join '|' (alternatives.members.map Expression.escape) ++ [')']
  | charClass negated contents =>
    '[' :: (if negated then ['^'] else []) ++ Expression.escapeContents contents ++ [']']
  | anyChar => ['.']
  | anyText => ['.', '*']

/-- The expression of a list of fragments, which has to match a whole text. -/
def Expression.ofFragments (fragments : List Fragment) : Text :=
  "^(?s:".toList ++ fragments.flatMap Fragment.expression ++ ")$".toList

end PathGlob
