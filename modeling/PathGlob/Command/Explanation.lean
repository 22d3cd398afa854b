import PathGlob.Pattern.Fragment
import PathGlob.Text.Escapes

/-!
# PathGlob.Command.Explanation

What the explanation of a pattern is, line by line, said by the components of the pattern.
-/

namespace PathGlob.Command

open Text (IsQuoted)

/-- The words for a fragment. -/
inductive FragmentWords : Fragment → Text → Prop
  | literal {text shown : Text} : IsQuoted text shown →
    FragmentWords (.literal text) ("literal ".toList ++ shown)
  | oneOf {alternatives : Alternatives} {shown : List Text} :
    List.Forall₂ IsQuoted alternatives.members shown →
    FragmentWords (.oneOf alternatives) ("one of ".toList ++ ", ".toList.intercalate shown)
  | charClass {contents shown : Text} : IsQuoted contents shown →
    FragmentWords (.charClass false contents) ("one character in ".toList ++ shown)
  | negatedClass {contents shown : Text} : IsQuoted contents shown →
    FragmentWords (.charClass true contents) ("one character not in ".toList ++ shown)
  | anyChar : FragmentWords .anyChar "any character".toList
  | anyText : FragmentWords .anyText "any characters".toList

/-- The words for a component. -/
inductive ComponentWords : Component (List Fragment) → Text → Prop
  | doubleStar : ComponentWords .doubleStar "zero or more segments".toList
  | empty : ComponentWords (.segment []) "empty segment".toList
  | segment {f : Fragment} {fs : List Fragment} {words : List Text} :
    List.Forall₂ FragmentWords (f :: fs) words →
    ComponentWords (.segment (f :: fs)) (", then ".toList.intercalate words)

/-- The lines of components that are counted from `index`: the number at the right of three
columns, a blank and the words. -/
inductive IsExplanation : Nat → Pattern → List Text → Prop
  | nil {index : Nat} : IsExplanation index [] []
  | cons {index : Nat} {component : Component (List Fragment)} {words : Text} {more : Pattern}
    {lines : List Text} : ComponentWords component words →
    IsExplanation (index + 1) more lines →
    IsExplanation index (component :: more)
      ((List.replicate (3 - (Nat.toDigits 10 index).length) ' ' ++ Nat.toDigits 10 index ++
        ' ' :: words) :: lines)

end PathGlob.Command
