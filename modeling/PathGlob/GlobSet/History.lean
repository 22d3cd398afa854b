import PathGlob.GlobSet.Basic

/-!
# PathGlob.GlobSet.History

How a rule set comes about step by step. A step with a pattern that does not compile changes
nothing.
-/

namespace PathGlob.GlobSet

/-- A change of a rule set. -/
inductive Step
  | addInclude (pattern : Text)
  | addExclude (pattern : Text)
  /-- Extend with the set of the given patterns. -/
  | extend (includes excludes : List Text)
  /-- Extend with a copy of the set itself. -/
  | extendSelf
  /-- Start over with the empty set. -/
  | clear
  deriving DecidableEq, Repr

/-- The set after a step, or the fault of the first pattern that does not compile. -/
def apply (set : GlobSet) : Step → Except Glob.Error GlobSet
  | .addInclude pattern => (ofTexts [pattern] []).map set.extend
  | .addExclude pattern => (ofTexts [] [pattern]).map set.extend
  | .extend includes excludes => (ofTexts includes excludes).map set.extend
  | .extendSelf => .ok (set.extend set)
  | .clear => .ok empty

/-- The set after a step; a step that fails leaves the set as it was. -/
def after (set : GlobSet) (step : Step) : GlobSet :=
  match set.apply step with
  | .ok next => next
  | .error _ => set

/-- The set that a history of steps makes out of the empty set. -/
def ofHistory (steps : List Step) : GlobSet :=
  steps.foldl after empty

/-- The include and exclude patterns after a step, said about texts alone. -/
def recordStep (patterns : List Text × List Text) : Step → List Text × List Text
  | .addInclude pattern =>
    if Glob.compiles pattern then (patterns.1 ++ [pattern], patterns.2) else patterns
  | .addExclude pattern =>
    if Glob.compiles pattern then (patterns.1, patterns.2 ++ [pattern]) else patterns
  | .extend includes excludes =>
    if includes.all Glob.compiles && excludes.all Glob.compiles then
      (patterns.1 ++ includes, patterns.2 ++ excludes)
    else patterns
  | .extendSelf => (patterns.1 ++ patterns.1, patterns.2 ++ patterns.2)
  | .clear => ([], [])

/-- The include and exclude patterns that a history leaves. -/
def recordOf (steps : List Step) : List Text × List Text :=
  steps.foldl recordStep ([], [])

end PathGlob.GlobSet
