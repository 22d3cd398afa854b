import PathGlob.Proofs.Command.Filter
import PathGlob.Proofs.Glob.Matching

/-!
# PathGlob.Proofs.Command.Pipe

**Filters in a row.** What one filter prints can be the input of another one. If the input has no
carriage returns, the second filter reads the lines that the first one has printed, so that both
together print what both accept (`filter_pipe`). A carriage return at the end of a printed line
would be lost, as it is taken for a part of the line ending.

One filter with the rules of both prints the same if the second has no include globs. Otherwise it
may print more, as the include globs of either admit a candidate.
-/

namespace PathGlob.Command

/-- A filter of the input whose rules are in order, with the rule set that they come to. -/
structure InputFilter where
  includes : List Glob
  excludes : List Glob
  rules : Option Text
  colored : Bool
  readFile : Text → Except FileFault (List UInt8)
  set : GlobSet
  rulesOk : (rulesOf includes excludes rules readFile).1 = .ok set

namespace InputFilter

variable {t : Text}

/-- The filter whose rules are options. -/
def ofSet (set : GlobSet) : InputFilter where
  includes := set.includes
  excludes := set.excludes
  rules := none
  colored := false
  readFile := fun _ => .error .notFound
  set := set
  rulesOk := rfl

def run (filter : InputFilter) (stdin : List UInt8) : Report :=
  (Command.filter filter.includes filter.excludes filter.rules []).run filter.colored
    filter.readFile stdin

/-- Runs a filter on what another one prints. -/
def pipe (first second : InputFilter) (stdin : List UInt8) : Report :=
  second.run (first.run stdin).stdout.toBytes

theorem stdout_run (filter : InputFilter) (t : Text) :
    (filter.run t.toBytes).stdout = Text.unlines (t.lines.filter filter.set.accepts) := by
  rw [run, stdout_run_filter filter.rulesOk, candidatesOf_nil, validLines_toBytes]

theorem ending_run (filter : InputFilter) (t : Text) :
    (filter.run t.toBytes).ending = .ok .success := by
  rw [run, ending_run_filter filter.rulesOk, candidatesOf_nil, validLines_toBytes]
  rfl

/-- What a filter prints has the lines that it accepts. -/
theorem lines_stdout_run (filter : InputFilter) (noReturn : '\r' ∉ t) :
    (filter.run t.toBytes).stdout.lines = t.lines.filter filter.set.accepts := by
  rw [stdout_run, Text.lines_unlines]
  exact fun line mem => Text.isWhole_of_mem_lines noReturn line (List.mem_of_mem_filter mem)

theorem stdout_pipe (first second : InputFilter) (noReturn : '\r' ∉ t) :
    (first.pipe second t.toBytes).stdout =
      Text.unlines (t.lines.filter fun line =>
        first.set.accepts line && second.set.accepts line) := by
  rw [pipe, stdout_run, lines_stdout_run first noReturn, List.filter_filter]
  simp only [Bool.and_comm]

/-! ### Main result -/

/-- **Filters in a row** print the lines of the input that both accept, in order and as often as
they are there. So a filter behind itself changes nothing, two filters can change places, and a
filter with the rules of both prints the same if the second has no include globs. -/
theorem filter_pipe (first second : InputFilter) (noReturn : '\r' ∉ t) :
    (first.run t.toBytes).ending = .ok .success ∧
    (first.pipe second t.toBytes).ending = .ok .success ∧
    (first.pipe second t.toBytes).stdout =
      Text.unlines (t.lines.filter fun line =>
        first.set.accepts line && second.set.accepts line) ∧
    (second.set = first.set →
      (first.pipe second t.toBytes).stdout = (first.run t.toBytes).stdout) ∧
    (first.pipe second t.toBytes).stdout = (second.pipe first t.toBytes).stdout ∧
    (second.set.includes = [] → ∀ merged : InputFilter,
      merged.set = first.set.extend second.set →
        (first.pipe second t.toBytes).stdout = (merged.run t.toBytes).stdout) := by
  refine ⟨ending_run _ _, ending_run _ _, stdout_pipe _ _ noReturn, ?_, ?_, ?_⟩
  · intro same
    simp only [stdout_pipe _ _ noReturn, stdout_run, same, Bool.and_self]
  · rw [stdout_pipe _ _ noReturn, stdout_pipe _ _ noReturn]
    simp only [Bool.and_comm]
  · intro noIncludes merged rulesOfBoth
    rw [stdout_pipe _ _ noReturn, stdout_run, rulesOfBoth,
      GlobSet.accepts_extend_of_nil noIncludes]

/-- Include globs and then exclude globs, for an input with a line that is there twice, an empty
line and no line feed at its end. -/
theorem filter_pipe_includes_excludes :
    ∃ glob other, Glob.ofText "b*".toList = .ok glob ∧ Glob.ofText "?".toList = .ok other ∧
      let first := ofSet { includes := [glob], excludes := [] }
      let second := ofSet { includes := [], excludes := [other] }
      let t : Text := "bc\nb\n\nbc\na".toList
      '\r' ∉ t ∧
        (first.pipe second t.toBytes).stdout =
          Text.unlines (t.lines.filter fun line =>
            first.set.accepts line && second.set.accepts line) ∧
        (first.pipe first t.toBytes).stdout = (first.run t.toBytes).stdout ∧
        (first.pipe second t.toBytes).stdout =
          ((ofSet (first.set.extend second.set)).run t.toBytes).stdout := by
  obtain ⟨glob, compiled⟩ := Glob.exists_of_compiles
    (show Glob.compiles "b*".toList = true by decide +kernel)
  obtain ⟨other, compiledToo⟩ := Glob.exists_of_compiles
    (show Glob.compiles "?".toList = true by decide +kernel)
  refine ⟨glob, other, compiled, compiledToo, ?_⟩
  intro first second t
  have noReturn : '\r' ∉ t := by decide
  obtain ⟨-, -, both, -, -, merged⟩ := filter_pipe first second noReturn
  obtain ⟨-, -, -, again, -, -⟩ := filter_pipe first first noReturn
  exact ⟨noReturn, both, again rfl, merged rfl _ rfl⟩

end InputFilter

end PathGlob.Command
