import PathGlob.Text.Basic

/-!
# PathGlob.Pattern.Fault

Why a text is not a pattern: the reason and the byte offset of the place where reading stopped.
-/

namespace PathGlob.Pattern

/-- What is wrong at the place where reading stopped. -/
inductive Reason
  /-- A `]` that closes no class. -/
  | unmatchedBracket
  /-- A `}` that closes no group. -/
  | unmatchedBrace
  /-- A `[` that no `]` closes. -/
  | unterminatedClass
  /-- A `{` that starts no well-formed group. -/
  | malformedAlternatives
  /-- Any other character. -/
  | unexpected
  deriving DecidableEq, Repr

/-- The reason told by the first character that could not be read. -/
def Reason.ofLeftover : Text → Reason
  | ']' :: _ => unmatchedBracket
  | '}' :: _ => unmatchedBrace
  | '[' :: _ => unterminatedClass
  | '{' :: _ => malformedAlternatives
  | _ => unexpected

def Reason.message : Reason → String
  | unmatchedBracket => "unmatched ']'"
  | unmatchedBrace => "unmatched '\x7d'"
  | unterminatedClass => "unterminated character class"
  | malformedAlternatives => "malformed alternation group"
  | unexpected => "unexpected character"

/-- A text that is not a pattern, with the place and the reason of the first fault. -/
structure Fault where
  pattern : Text
  /-- Byte offset into `pattern` of the first character that could not be read. -/
  position : Nat
  reason : Reason
  deriving DecidableEq, Repr

def Fault.message (fault : Fault) : Text :=
  "Invalid glob '".toList ++ fault.pattern ++ "': ".toList ++ fault.reason.message.toList ++
    " at position ".toList ++ Text.ofNat fault.position

end PathGlob.Pattern
