import PathGlob.Command.Report
import PathGlob.Console.Style
import PathGlob.Text.Quoted

/-!
# PathGlob.Command.Explain

Describing a pattern: one numbered line for each component. Texts are quoted, so that a description
never holds a line break and different patterns have different descriptions.
-/

namespace PathGlob.Command

open Console (Style)

/-- The words for a fragment. -/
def describeFragment : Fragment → Text
  | .literal text => "literal ".toList ++ Text.quoted text
  | .oneOf alternatives =>
    "one of ".toList ++ ", ".toList.intercalate (alternatives.members.map Text.quoted)
  | .charClass negated contents =>
    "one character ".toList ++ (if negated then "not in ".toList else "in ".toList) ++
      Text.quoted contents
  | .anyChar => "any character".toList
  | .anyText => "any characters".toList

/-- The words for the fragments of a component. -/
def describeComponent : Component (List Fragment) → Text
  | .doubleStar => "zero or more segments".toList
  | .segment [] => "empty segment".toList
  | .segment fragments => ", then ".toList.intercalate (fragments.map describeFragment)

/-- The line of a component. -/
def explainLine (colored : Bool) (component : Component (List Fragment)) (index : Nat) : Text :=
  Style.dimmed.paint colored (Text.padLeft 3 (Text.ofNat index)) ++ ' ' ::
    describeComponent component ++ ['\n']

/-- The lines of a pattern. -/
def describePattern (colored : Bool) (pattern : Pattern) : Text :=
  pattern.zipIdx.flatMap fun (component, index) => explainLine colored component index

/-- Describes a pattern. -/
def explainReport (colored : Bool) (pattern : Text) : Report :=
  let events := Log.eventsOfGlob pattern
  match Glob.ofText pattern with
  | .error error => .failed (.ofGlobError error) events
  | .ok glob =>
    { stdout := describePattern colored (glob.components.map (·.map SegmentPattern.fragments))
      events
      ending := .ok .success }

end PathGlob.Command
