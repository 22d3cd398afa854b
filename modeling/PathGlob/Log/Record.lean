import PathGlob.Json.Writer
import PathGlob.Log.Event

/-!
# PathGlob.Log.Record

Events as JSON objects: the level, the target, and the fields with the message among them.
-/

namespace PathGlob.Log

open Json (Value)

def FieldValue.json : FieldValue → Value
  | plain text => .string text
  | quoted text => .string text
  | number n => .integer n
  | flag b => .bool b

/-- The record of an event. -/
def Event.record (event : Event) : Value :=
  let message := event.message.toList.map fun message =>
    ("message".toList, Value.string message.toList)
  let fields := event.fields.map fun (name, value) => (name.toList, value.json)
  .object [
    ("level".toList, .string event.level.name.toList),
    ("fields".toList, .object (message ++ fields)),
    ("target".toList, .string event.target.toList)]

end PathGlob.Log
