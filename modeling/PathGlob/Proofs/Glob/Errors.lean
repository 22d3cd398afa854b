import PathGlob.Proofs.Glob.Matching
import PathGlob.Proofs.Pattern.Stop

/-!
# PathGlob.Proofs.Glob.Errors

**Why a text is no glob.** There are two causes only: the text is not a pattern, and then the error
tells a place up to which it is one (`Glob.parse_error_located`), or the expression of a segment is
too large. An expression is never malformed, as the fragments that a pattern spells are well formed
(`Glob.ofText_cases`).

Compiling starts when the whole text has been parsed, so errors of the first kind are reported
whatever else is wrong with the text.
-/

namespace PathGlob

variable {text : Text}

/-! ### Errors of the compiler -/

/-- An expression that can be read fails to compile for its size only. -/
theorem Expression.tooLarge_of_parse {e : Expr} {cause : CompileFault}
    (parsed : Expr.parse text = .ok e) (h : compile text = .error cause) : cause = .tooLarge := by
  rw [compile, parsed] at h
  simp only at h
  split at h
  · exact (Except.error.inj h).symm
  · cases h

/-- Well-formed fragments have an expression that can be read. -/
theorem Fragment.exists_parse {fragments : List Fragment} (h : ∀ f ∈ fragments, f.WellFormed) :
    ∃ e, Expr.parse (Expression.ofFragments fragments) = .ok e := by
  have noEmptyClass : ∀ negated, Fragment.charClass negated [] ∉ fragments :=
    fun negated mem => (h _ mem).ne_emptyClass negated rfl
  obtain ⟨e, parsed, -⟩ := (Fragment.readsAs_expressions noEmptyClass).parse
  exact ⟨e, parsed⟩

theorem SegmentPattern.compile_eq_error {fragments : List Fragment} {error : Glob.Error}
    (h : compile fragments = .error error) :
    ∃ cause, Expression.compile (Expression.ofFragments fragments) = .error cause ∧
      error = .compile (Expression.ofFragments fragments) cause := by
  unfold compile ofFragments at h
  split at h
  · next cause refused =>
    cases h
    exact ⟨cause, refused, rfl⟩
  · cases h

/-- A pattern is refused for one of its segments. -/
theorem Pattern.compile_eq_error {pattern : Pattern} {error : Glob.Error}
    (h : pattern.compile = .error error) :
    ∃ fragments cause, .segment fragments ∈ pattern ∧
      Expression.compile (Expression.ofFragments fragments) = .error cause ∧
      error = .compile (Expression.ofFragments fragments) cause := by
  induction pattern with
  | nil => cases h
  | cons component more ih =>
    rw [compile] at h
    split at h
    · next refused =>
      cases h
      cases component with
      | doubleStar => cases refused
      | segment fragments =>
        obtain ⟨cause, failed, rfl⟩ :=
          SegmentPattern.compile_eq_error (map_eq_error_iff.1 refused)
        exact ⟨fragments, cause, List.mem_cons_self, failed, rfl⟩
    · obtain ⟨fragments, cause, mem, failed⟩ := ih (map_eq_error_iff.1 h)
      exact ⟨fragments, cause, List.mem_cons_of_mem _ mem, failed⟩

namespace Glob

/-! ### Errors of a text -/

theorem ofText_eq_error_iff {error : Error} :
    ofText text = .error error ↔ componentsOf text = .error error := by
  unfold ofText
  split
  · next refused => rw [refused, Except.error.injEq, Except.error.injEq]
  · next compiled => simp [compiled]

/-- The fault of the parser is the error, whatever the segments would be compiled to. -/
theorem ofText_eq_parse_error_iff {fault : Pattern.Fault} :
    ofText text = .error (.parse fault) ↔ Pattern.parse text = .error fault := by
  rw [ofText_eq_error_iff, componentsOf]
  cases Pattern.parse text with
  | error other => simp
  | ok pattern =>
    simp only [reduceCtorEq, iff_false]
    intro refused
    obtain ⟨fragments, cause, -, -, other⟩ := Pattern.compile_eq_error refused
    cases other

/-- A pattern is refused for a segment that is too large. -/
theorem exists_tooLarge {pattern : Pattern} {error : Error}
    (parsed : Pattern.parse text = .ok pattern) (refused : ofText text = .error error) :
    ∃ fragments, .segment fragments ∈ pattern ∧
      Expression.compile (Expression.ofFragments fragments) = .error .tooLarge ∧
      error = .compile (Expression.ofFragments fragments) .tooLarge := by
  rw [ofText_eq_error_iff, componentsOf, parsed] at refused
  obtain ⟨fragments, cause, mem, failed, rfl⟩ := Pattern.compile_eq_error refused
  have wellFormed := (Pattern.parse_eq_ok_iff.1 parsed).wellFormed _ mem
  obtain ⟨e, readable⟩ := Fragment.exists_parse wellFormed.1
  obtain rfl := Expression.tooLarge_of_parse readable failed
  exact ⟨fragments, mem, failed, rfl⟩

/-- A pattern is compiled unless one of its segments is too large. -/
theorem ofText_of_parse {pattern : Pattern} (h : Pattern.parse text = .ok pattern) :
    (∃ glob, ofText text = .ok glob) ∨
      ∃ fragments, .segment fragments ∈ pattern ∧
        ofText text = .error (.compile (Expression.ofFragments fragments) .tooLarge) := by
  cases outcome : ofText text with
  | ok glob => exact .inl ⟨glob, rfl⟩
  | error error =>
    obtain ⟨fragments, mem, -, rfl⟩ := exists_tooLarge h outcome
    exact .inr ⟨fragments, mem, rfl⟩

/-- The segments of a glob are not too large. -/
theorem ne_tooLarge_of_ofText {pattern : Pattern} {glob : Glob} (compiled : ofText text = .ok glob)
    (parsed : Pattern.parse text = .ok pattern) {fragments : List Fragment}
    (mem : .segment fragments ∈ pattern) :
    Expression.compile (Expression.ofFragments fragments) ≠ .error .tooLarge := by
  obtain rfl := pattern_of_ofText compiled parsed
  obtain ⟨component, -, same⟩ := List.mem_map.1 mem
  cases component with
  | doubleStar => cases same
  | segment p =>
    obtain rfl : p.fragments = fragments := Component.segment.inj same
    simp [p.compiles]

/-- The errors of the compiler are those of patterns with a segment that is too large. -/
theorem exists_compile_error_iff :
    (∃ expression cause, ofText text = .error (.compile expression cause)) ↔
      ∃ pattern fragments, Pattern.parse text = .ok pattern ∧ .segment fragments ∈ pattern ∧
        Expression.compile (Expression.ofFragments fragments) = .error .tooLarge := by
  constructor
  · rintro ⟨expression, cause, refused⟩
    cases parsed : Pattern.parse text with
    | error fault =>
      rw [ofText_eq_parse_error_iff.2 parsed] at refused
      cases refused
    | ok pattern =>
      obtain ⟨fragments, mem, failed, -⟩ := exists_tooLarge parsed refused
      exact ⟨pattern, fragments, rfl, mem, failed⟩
  · rintro ⟨pattern, fragments, parsed, mem, failed⟩
    rcases ofText_of_parse parsed with ⟨glob, compiled⟩ | ⟨others, -, refused⟩
    · exact absurd failed (ne_tooLarge_of_ofText compiled parsed mem)
    · exact ⟨_, _, refused⟩

/-! ### Main results -/

/-- **Faults tell where and why.** The error of a text that is not a pattern is the fault of the
parser, with a place in the text: in front of it stands a pattern, at it none of the fragments
starts, and the character there is the reason. -/
theorem parse_error_located (text : Text) (fault : Pattern.Fault) :
    (Pattern.parse text = .error fault ↔ ofText text = .error (.parse fault)) ∧
      (ofText text = .error (.parse fault) → ∃ place, Pattern.Located text fault place) :=
  ⟨ofText_eq_parse_error_iff.symm, fun h =>
    Pattern.exists_located (ofText_eq_parse_error_iff.1 h)⟩

/-- The place is counted in bytes over all pieces, and a bracket in front of the contents does not
close a class. -/
theorem parse_error_located_unterminated :
    ofText "é/ü\\[[!]x/]".toList =
        .error (.parse ⟨"é/ü\\[[!]x/]".toList, 7, .unterminatedClass⟩) ∧
      ∃ place, Pattern.Located "é/ü\\[[!]x/]".toList
        ⟨"é/ü\\[[!]x/]".toList, 7, .unterminatedClass⟩ place := by
  have refused : ofText "é/ü\\[[!]x/]".toList =
      .error (.parse ⟨"é/ü\\[[!]x/]".toList, 7, .unterminatedClass⟩) :=
    ofText_eq_parse_error_iff.2 (by decide +kernel)
  exact ⟨refused, (parse_error_located _ _).2 refused⟩

/-- **What becomes of a text.** A text that is not a pattern is refused with its fault. The
fragments of a pattern are well formed and the expression of every segment can be read, so the text
is compiled unless one of its segments is too large. -/
theorem ofText_cases (text : Text) :
    (∃ fault, Pattern.parse text = .error fault ∧ ofText text = .error (.parse fault)) ∨
      ∃ pattern, Pattern.parse text = .ok pattern ∧
        (∀ component ∈ pattern, component.WellFormed) ∧
        (∀ fragments, .segment fragments ∈ pattern →
          ∃ e, Expr.parse (Expression.ofFragments fragments) = .ok e) ∧
        ((∃ glob, ofText text = .ok glob) ∨
          ∃ fragments, .segment fragments ∈ pattern ∧
            ofText text = .error (.compile (Expression.ofFragments fragments) .tooLarge)) := by
  cases parsed : Pattern.parse text with
  | error fault => exact .inl ⟨fault, rfl, ofText_eq_parse_error_iff.2 parsed⟩
  | ok pattern =>
    have wellFormed := (Pattern.parse_eq_ok_iff.1 parsed).wellFormed
    exact .inr ⟨pattern, rfl, wellFormed,
      fun _ mem => Fragment.exists_parse (wellFormed _ mem).1, ofText_of_parse parsed⟩

end Glob

end PathGlob
