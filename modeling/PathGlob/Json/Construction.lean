import PathGlob.Json.Decode

/-!
# PathGlob.Json.Construction

How globs and rule sets come about: out of patterns, out of JSON, and out of one another. Beside
every way stand the patterns that go into it, in their order.
-/

namespace PathGlob.Json

/-- Where a glob comes from. -/
inductive GlobSource
  | pattern (text : Text)
  | json (value : Value)

namespace GlobSource

/-- The glob, or why there is none. -/
def build : GlobSource → Except DecodeError Glob
  | pattern text => (Glob.ofText text).mapError .badGlob
  | json value => decodeGlob value

/-- The pattern of the glob. -/
inductive Holds : GlobSource → Text → Prop
  | pattern (text : Text) : Holds (.pattern text) text
  | json (text : Text) : Holds (.json (.string text)) text

end GlobSource

/-- The patterns in a list of globs, which may be absent. -/
inductive HoldsList : Option Value → List Text → Prop
  | absent : HoldsList none []
  | array (texts : List Text) : HoldsList (some (.array (texts.map .string))) texts

/-- The include and exclude patterns in a rule set. -/
inductive HoldsSet : Value → List Text → List Text → Prop
  | object {fields : List (Text × Value)} {includes excludes : List Text} :
    HoldsList (fields.lookup "include".toList) includes →
    HoldsList (fields.lookup "exclude".toList) excludes →
    HoldsSet (.object fields) includes excludes
  | array {items : List Value} {includes excludes : List Text} : items.length ≤ 2 →
    HoldsList items[0]? includes → HoldsList items[1]? excludes →
    HoldsSet (.array items) includes excludes

/-- The rule set with the given patterns as it is written: two keys and no others. -/
def writtenSet (includes excludes : List Text) : Value :=
  .object [
    ("include".toList, .array (includes.map .string)),
    ("exclude".toList, .array (excludes.map .string))]

/-- How a rule set is put together. -/
inductive Construction
  | empty
  | json (value : Value)
  | addInclude (set : Construction) (glob : GlobSource)
  | addExclude (set : Construction) (glob : GlobSource)
  | extend (set other : Construction)

namespace Construction

/-- The rule set, or the first fault on the way. -/
def build : Construction → Except DecodeError GlobSet
  | empty => .ok .empty
  | json value => decodeGlobSet value
  | addInclude set glob => set.build.bind fun set =>
    glob.build.map fun glob => { set with includes := set.includes ++ [glob] }
  | addExclude set glob => set.build.bind fun set =>
    glob.build.map fun glob => { set with excludes := set.excludes ++ [glob] }
  | extend set other => set.build.bind fun set => other.build.map set.extend

/-- The include and exclude patterns that go into a rule set. -/
inductive Holds : Construction → List Text → List Text → Prop
  | empty : Holds .empty [] []
  | json {value : Value} {includes excludes : List Text} : HoldsSet value includes excludes →
    Holds (.json value) includes excludes
  | addInclude {set : Construction} {glob : GlobSource} {includes excludes : List Text}
    {text : Text} : Holds set includes excludes → glob.Holds text →
    Holds (.addInclude set glob) (includes ++ [text]) excludes
  | addExclude {set : Construction} {glob : GlobSource} {includes excludes : List Text}
    {text : Text} : Holds set includes excludes → glob.Holds text →
    Holds (.addExclude set glob) includes (excludes ++ [text])
  | extend {set other : Construction} {includes excludes moreIncludes moreExcludes : List Text} :
    Holds set includes excludes → Holds other moreIncludes moreExcludes →
    Holds (.extend set other) (includes ++ moreIncludes) (excludes ++ moreExcludes)

end Construction

end PathGlob.Json
