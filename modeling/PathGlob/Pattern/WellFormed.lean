import PathGlob.Pattern.Parser

/-!
# PathGlob.Pattern.WellFormed

The fragments and components that patterns can spell. The type of fragments holds more: empty
literals, sets with an empty member, classes without contents and texts with slashes.
-/

namespace PathGlob

/-- What holds of every fragment that a pattern spells. -/
def Fragment.WellFormed : Fragment → Prop
  | literal text => text ≠ [] ∧ Pattern.separator ∉ text
  | oneOf alternatives =>
    alternatives.members ≠ [] ∧
      ∀ member ∈ alternatives.members, member ≠ [] ∧ ∀ c ∈ member, Pattern.isItemChar c = true
  | charClass negated contents =>
    contents ≠ [] ∧ Pattern.separator ∉ contents ∧ ']' ∉ contents.tail ∧
      (contents.head? = some '!' → negated = true)
  | anyChar => True
  | anyText => True

/-- What holds of every component that a pattern spells: two asterisks alone are no fragments but
a double star. -/
def Component.WellFormed : Component (List Fragment) → Prop
  | doubleStar => True
  | segment fragments =>
    (∀ fragment ∈ fragments, fragment.WellFormed) ∧ fragments ≠ [.anyText, .anyText]

end PathGlob
