import PathGlob.FileTree
import PathGlob.Glob.Basic

/-!
# PathGlob.Failure

Why a command fails, and how that is told. A failure is either the user's to mend or not; the text
says which, names what caused it and gives advice.
-/

namespace PathGlob

/-- Why a command fails. -/
inductive Failure
  /-- The pattern given to a command is none. -/
  | badPattern (fault : Pattern.Fault)
  /-- A segment of the pattern does not compile. -/
  | notCompiled (expression : Text) (cause : Expression.CompileFault)
  /-- The rules file cannot be read as text. -/
  | unreadableRules (path : Text) (fault : FileFault)
  /-- The rules file does not hold rules; the problem is told as a text. -/
  | invalidRules (path problem : Text)
  /-- A line of the input is not valid UTF-8. -/
  | invalidInput
  deriving DecidableEq, Repr

namespace Failure

/-- The failure that an error of a glob is. -/
def ofGlobError : Glob.Error → Failure
  | .parse fault => badPattern fault
  | .compile expression cause => notCompiled expression cause

/-- Whether the user can mend it. -/
def isUsers : Failure → Bool
  | badPattern _ | unreadableRules _ _ | invalidRules _ _ => true
  | notCompiled _ _ | invalidInput => false

/-- What went wrong. -/
def description : Failure → Text
  | badPattern fault => fault.message
  | notCompiled _ _ => "Could not compile glob".toList
  | unreadableRules path fault =>
    "Could not read rules file ".toList ++ path ++ ": ".toList ++ fault.message
  | invalidRules path problem => "Invalid rules file ".toList ++ path ++ ": ".toList ++ problem
  | invalidInput => "I/O error: ".toList ++ FileFault.notText.message

/-- What caused it, each cause in front of its own. -/
def causes : Failure → List Text
  | notCompiled expression cause =>
    [(Glob.Error.compile expression cause).message, cause.message expression]
  | _ => []

/-- What one can do about it. -/
def advice : Failure → List Text
  | badPattern _ => ["Escape special characters with a backslash, e.g. '\\['".toList]
  | notCompiled _ _ => ["The pattern may be too large, try splitting it".toList]
  | unreadableRules _ _ => ["Please check the path passed with --rules".toList]
  | invalidRules _ _ =>
    ["Rules files hold optional `include` and `exclude` lists of glob patterns".toList]
  | invalidInput => []

/-- A heading with the items below it, or nothing if there are none. -/
def listing (heading : String) (items : List Text) : Text :=
  if items.isEmpty then []
  else "\n\n".toList ++ heading.toList ++ items.flatMap fun item => "\n - ".toList ++ item

/-- The whole text. -/
def message (failure : Failure) : Text :=
  (if failure.isUsers then "Oh no! ".toList ++ failure.description
    else "Whoops! ".toList ++ failure.description ++ " (This isn't your fault)".toList) ++
  listing "This was caused by:" failure.causes ++
  listing "To try and fix this, you can:" failure.advice

end Failure

end PathGlob
