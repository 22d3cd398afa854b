import PathGlob.Console.Style
import PathGlob.Log.Event

/-!
# PathGlob.Log.Line

Events on the console, one line each: the level at the right of five columns, the message, and the
fields as `name=value`.
-/

namespace PathGlob.Log

open Console (Style)

def Level.style : Level → Style
  | error => .red
  | warn => .yellow
  | info => .green
  | debug => .blue
  | trace => .magenta

/-- The text in the style if `colored`; every style is ended by a full reset. -/
def emphasize (colored : Bool) (style : Style) (t : Text) : Text :=
  if colored then style.wrap 0 t else t

def FieldValue.shown : FieldValue → Text
  | plain text => text
  | quoted text => Text.quoted text
  | number n => Text.ofNat n
  | flag b => (if b then "true" else "false").toList

/-- The line of an event, with its line feed. -/
def Event.line (colored : Bool) (event : Event) : Text :=
  let level := Text.padLeft 5 event.level.name.toList
  let message := match event.message with
    | some message => [message.toList]
    | none => []
  let fields := event.fields.map fun (name, value) =>
    emphasize colored .italic name.toList ++ emphasize colored .dimmed ['='] ++ value.shown
  List.intercalate [' '] (emphasize colored event.level.style level :: (message ++ fields)) ++
    ['\n']

end PathGlob.Log
