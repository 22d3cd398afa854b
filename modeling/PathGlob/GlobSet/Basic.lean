import PathGlob.Glob.Basic

/-!
# PathGlob.GlobSet.Basic

Rule sets: globs that admit candidates and globs that reject them. A candidate is accepted if some
include glob matches it, or there is none, and no exclude glob matches it.
-/

namespace PathGlob

/-- Include and exclude globs, each in the order in which they were added. -/
structure GlobSet where
  includes : List Glob
  excludes : List Glob

namespace GlobSet

/-- The set without rules, which accepts everything. -/
def empty : GlobSet where
  includes := []
  excludes := []

def isEmpty (set : GlobSet) : Bool :=
  set.includes.isEmpty && set.excludes.isEmpty

/-- The set with the rules of another one after its own. -/
def extend (set other : GlobSet) : GlobSet where
  includes := set.includes ++ other.includes
  excludes := set.excludes ++ other.excludes

/-- Compiles a set from two lists of patterns, the includes first. -/
def ofTexts (includes excludes : List Text) : Except Glob.Error GlobSet :=
  match Glob.ofTexts includes with
  | .error error => .error error
  | .ok includes => (Glob.ofTexts excludes).map fun excludes => { includes, excludes }

/-- Whether the rules accept the candidate. -/
def accepts (set : GlobSet) (candidate : Text) : Bool :=
  (set.includes.isEmpty || set.includes.any (·.isMatch candidate)) &&
    !set.excludes.any (·.isMatch candidate)

end GlobSet

end PathGlob
