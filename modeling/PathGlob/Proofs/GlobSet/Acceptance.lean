import PathGlob.GlobSet.Basic

/-!
# PathGlob.Proofs.GlobSet.Acceptance

**What a rule set accepts**, said by the globs in it (`accepts_iff`), and what it accepts when rules
come from two sources (`accepts_extend_iff`). A source without include globs accepts everything on
its own but adds nothing to another one; so only if the second source has none does the merged set
accept what both accept (`accepts_extend_of_nil`). In general it accepts at least that much
(`accepts_extend_of_both`), and nothing that neither accepts (`accepts_or_of_extend`).
-/

namespace PathGlob.GlobSet

variable {set first second : GlobSet} {candidate : Text}

/-- A candidate passes rules from two sources: it is matched by some include glob of the two, or
there is none in either, and by no exclude glob of the two. -/
def Passes (first second : GlobSet) (candidate : Text) : Prop :=
  ((∃ glob, (glob ∈ first.includes ∨ glob ∈ second.includes) ∧ glob.isMatch candidate = true) ∨
    first.includes = [] ∧ second.includes = []) ∧
  ¬ ∃ glob, (glob ∈ first.excludes ∨ glob ∈ second.excludes) ∧ glob.isMatch candidate = true

theorem accepts_iff :
    set.accepts candidate = true ↔
      ((∃ glob ∈ set.includes, glob.isMatch candidate = true) ∨ set.includes = []) ∧
        ¬ ∃ glob ∈ set.excludes, glob.isMatch candidate = true := by
  rw [accepts, Bool.and_eq_true, Bool.or_eq_true, List.isEmpty_iff, List.any_eq_true,
    Bool.not_eq_true', ← Bool.not_eq_true, List.any_eq_true, or_comm]

theorem accepts_extend_iff :
    (first.extend second).accepts candidate = true ↔ first.Passes second candidate := by
  simp only [accepts_iff, extend, List.mem_append, List.append_eq_nil_iff, Passes]

instance (first second : GlobSet) : DecidablePred (first.Passes second) :=
  fun _ => decidable_of_iff _ accepts_extend_iff

/-- Candidates pass a single exclude glob unless it matches them. -/
theorem passes_exclude_iff {glob : Glob} :
    Passes { includes := [], excludes := [glob] } { includes := [], excludes := [] } candidate ↔
      ¬ glob.isMatch candidate = true := by
  simp [Passes]

/-- The candidates that merged rules accept are those that pass the rules of both sources. -/
theorem filter_accepts_extend (candidates : List Text) :
    candidates.filter (first.extend second).accepts =
      candidates.filter (first.Passes second) := by
  refine List.filter_congr fun candidate _ => ?_
  rw [Bool.eq_iff_iff, decide_eq_true_iff, accepts_extend_iff]

/-! ### Merged rules beside the rules of each source -/

theorem extend_assoc (third : GlobSet) :
    (first.extend second).extend third = first.extend (second.extend third) := by
  simp only [extend, List.append_assoc]

/-- What both sources accept passes: an include glob of either admits it, unless there is none. -/
theorem accepts_extend_of_both (h : first.accepts candidate = true)
    (h' : second.accepts candidate = true) : (first.extend second).accepts candidate = true := by
  rw [accepts_iff] at h h'
  obtain ⟨admitted, notExcluded⟩ := h
  obtain ⟨admitted', notExcluded'⟩ := h'
  rw [accepts_extend_iff]
  constructor
  · rcases admitted with ⟨glob, mem, matched⟩ | none
    · exact .inl ⟨glob, .inl mem, matched⟩
    · rcases admitted' with ⟨glob, mem, matched⟩ | none'
      · exact .inl ⟨glob, .inr mem, matched⟩
      · exact .inr ⟨none, none'⟩
  · rintro ⟨glob, mem | mem, matched⟩
    · exact notExcluded ⟨glob, mem, matched⟩
    · exact notExcluded' ⟨glob, mem, matched⟩

/-- What passes is accepted by the source whose include glob admits it. -/
theorem accepts_or_of_extend (h : (first.extend second).accepts candidate = true) :
    first.accepts candidate = true ∨ second.accepts candidate = true := by
  rw [accepts_extend_iff] at h
  obtain ⟨admitted, notExcluded⟩ := h
  have here : ¬ ∃ glob ∈ first.excludes, glob.isMatch candidate = true :=
    fun ⟨glob, mem, matched⟩ => notExcluded ⟨glob, .inl mem, matched⟩
  have there : ¬ ∃ glob ∈ second.excludes, glob.isMatch candidate = true :=
    fun ⟨glob, mem, matched⟩ => notExcluded ⟨glob, .inr mem, matched⟩
  rw [accepts_iff, accepts_iff]
  rcases admitted with ⟨glob, mem | mem, matched⟩ | ⟨none, -⟩
  · exact .inl ⟨.inl ⟨glob, mem, matched⟩, here⟩
  · exact .inr ⟨.inl ⟨glob, mem, matched⟩, there⟩
  · exact .inl ⟨.inr none, here⟩

theorem accepts_extend_comm :
    (first.extend second).accepts candidate = (second.extend first).accepts candidate := by
  rw [Bool.eq_iff_iff, accepts_extend_iff, accepts_extend_iff]
  simp only [Passes, or_comm, and_comm]

/-- Rules without include globs only take away. -/
theorem accepts_extend_of_nil (h : second.includes = []) :
    (first.extend second).accepts =
      fun candidate => first.accepts candidate && second.accepts candidate := by
  funext candidate
  simp [accepts, extend, h, Bool.and_assoc]

end PathGlob.GlobSet
