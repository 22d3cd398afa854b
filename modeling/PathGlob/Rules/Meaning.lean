import Mathlib.Data.List.Forall2
import PathGlob.Rules

/-!
# PathGlob.Rules.Meaning

Which rules a document has, and what is wrong first with one that has none, said by the entries of
the document.
-/

namespace PathGlob.Rules

open Toml (Value Entries Span Problem)

/-! ### Documents with rules -/

/-- The items of a list: those of an array, or the tables collected by headers in double
brackets. -/
inductive HasItems : Value → List Value → Prop
  | array {span : Span} {items : List Value} : HasItems (.array span items) items
  | tables {elements : List Value} : HasItems (.tables elements) elements

/-- A string that is the pattern of a glob. -/
inductive IsGlob : Value → Glob → Prop
  | string {span : Span} {text : Text} {glob : Glob} : Glob.ofText text = .ok glob →
    IsGlob (.string span text) glob

/-- A list of the patterns of globs. -/
def IsGlobs (value : Value) (globs : List Glob) : Prop :=
  ∃ items, HasItems value items ∧ List.Forall₂ IsGlob items globs

/-- The globs that entries have under a name. Where the name does not occur there are none. -/
inductive HasGlobs (entries : Entries) (name : Text) : List Glob → Prop
  | absent : (∀ entry ∈ entries, entry.1.name ≠ name) → HasGlobs entries name []
  | present {key : Toml.Key} {value : Value} {globs : List Glob} : (key, value) ∈ entries →
    key.name = name → IsGlobs value globs → HasGlobs entries name globs

/-- The rules that entries have. -/
structure HasRules (entries : Entries) (set : GlobSet) : Prop where
  includes : HasGlobs entries "include".toList set.includes
  excludes : HasGlobs entries "exclude".toList set.excludes

/-! ### Documents without rules -/

/-- What is wrong with an item that is not the pattern of a glob. The place of a string is not
told, but that of the list around it. -/
inductive ItemProblem (place : Span) : Value → Problem → Prop
  | notString {item : Value} : (∀ span text, item ≠ .string span text) →
    ItemProblem place item
      { span := (spanOf item).getD place
        message := "invalid type: ".toList ++ kindOf item ++ ", expected a string".toList }
  | badGlob {span : Span} {text : Text} {error : Glob.Error} : Glob.ofText text = .error error →
    ItemProblem place (.string span text) { span := place, message := error.message }

/-- What is wrong first with a value that is not a list of the patterns of globs. -/
inductive ListProblem (place : Span) : Value → Problem → Prop
  | notList {value : Value} : (∀ items, ¬ HasItems value items) →
    ListProblem place value
      { span := place
        message := "invalid type: ".toList ++ kindOf value ++ ", expected a sequence".toList }
  | item {value item : Value} {before after : List Value} {globs : List Glob}
    {problem : Problem} : HasItems value (before ++ item :: after) →
    List.Forall₂ IsGlob before globs → ItemProblem place item problem →
    ListProblem place value problem

/-- The names under which rules stand. -/
def names : List Text :=
  ["include".toList, "exclude".toList]

/-- What is wrong first with entries that do not have rules. -/
inductive EntriesProblem : Entries → Problem → Prop
  | intro {before after : Entries} {key : Toml.Key} {value : Value} {problem : Problem} :
    (∀ entry ∈ before, entry.1.name ∈ names → ∃ globs, IsGlobs entry.2 globs) →
    key.name ∈ names → ListProblem ((spanOf value).getD key.span) value problem →
    EntriesProblem (before ++ (key, value) :: after) problem

end PathGlob.Rules
