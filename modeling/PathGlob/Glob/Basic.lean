import PathGlob.Pattern.Parser
import PathGlob.SegmentPattern
import PathGlob.Sequence.Search

/-!
# PathGlob.Glob.Basic

Compiled patterns. A text is parsed as a whole before any of its segments is compiled, so a fault
of the pattern is reported even if a segment in front of it is too large to compile.
-/

namespace PathGlob

/-- Why a text is no glob. -/
inductive Glob.Error
  /-- It is not a pattern. -/
  | parse (fault : Pattern.Fault)
  /-- The expression of one of its segments does not compile. -/
  | compile (expression : Text) (cause : Expression.CompileFault)
  deriving DecidableEq, Repr

def Glob.Error.message : Glob.Error → Text
  | parse fault => fault.message
  | compile expression cause =>
    "Glob segment '".toList ++ expression ++ "' could not be compiled: ".toList ++
      cause.message expression

/-- Compiles the fragments of one segment. -/
def SegmentPattern.compile (fragments : List Fragment) : Except Glob.Error SegmentPattern :=
  (ofFragments fragments).mapError (.compile (Expression.ofFragments fragments))

/-- Compiles the segments of a pattern from left to right. -/
def Pattern.compile : Pattern → Except Glob.Error (List (Component SegmentPattern))
  | [] => .ok []
  | component :: more =>
    match component.mapM SegmentPattern.compile with
    | .error error => .error error
    | .ok compiled => (compile more).map (compiled :: ·)

/-- The compiled components of a text. -/
def Glob.componentsOf (text : Text) : Except Glob.Error (List (Component SegmentPattern)) :=
  match Pattern.parse text with
  | .error fault => .error (.parse fault)
  | .ok pattern => pattern.compile

/-- A pattern with its compiled components. -/
structure Glob where
  /-- The text that was compiled. -/
  text : Text
  components : List (Component SegmentPattern)
  compiled : Glob.componentsOf text = .ok components

namespace Glob

/-- Compiles a text. -/
def ofText (text : Text) : Except Glob.Error Glob :=
  match h : componentsOf text with
  | .error error => .error error
  | .ok components => .ok { text, components, compiled := h }

/-- Whether a text is a glob. -/
def compiles (text : Text) : Bool :=
  (ofText text).isOk

/-- Compiles texts from left to right, up to the first that is no glob. -/
def ofTexts : List Text → Except Glob.Error (List Glob)
  | [] => .ok []
  | text :: more =>
    match ofText text with
    | .error error => .error error
    | .ok glob => (ofTexts more).map (glob :: ·)

/-- Whether the glob matches the candidate, which is cut at every slash. -/
def isMatch (glob : Glob) (candidate : Text) : Bool :=
  Sequence.matchSequence SegmentPattern.isMatch glob.components
    (Text.pieces Pattern.separator candidate)

end Glob

end PathGlob
