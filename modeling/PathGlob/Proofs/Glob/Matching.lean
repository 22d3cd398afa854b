import Mathlib.Data.Set.List
import PathGlob.Glob.Basic
import PathGlob.Proofs.Except
import PathGlob.Proofs.Expression.Segment
import PathGlob.Proofs.Pattern.Meaning
import PathGlob.Proofs.Pattern.WellFormed
import PathGlob.Proofs.Sequence.Search

/-!
# PathGlob.Proofs.Glob.Matching

**A compiled pattern matches the candidates that its text accepts** (`Glob.isMatch_iff_accepts`).

A glob keeps nothing of the pattern but the fragments of every segment with their expression, so
everything about it goes through `Glob.pattern`, the pattern that its text writes. Below that, the
compiled test of a segment decides what the fragments accept, and above it the search decides the
alignment.
-/

namespace PathGlob

/-! ### Compiling -/

theorem Expression.parse_of_compile {text : Text} {e : Expr} (h : compile text = .ok e) :
    Expr.parse text = .ok e := by
  unfold compile at h
  split at h
  · exact absurd h (by simp)
  · next read parsed =>
    split at h
    · exact absurd h (by simp)
    · rw [parsed, Except.ok.inj h]

namespace SegmentPattern

theorem ofFragments_eq_ok_iff {fragments : List Fragment} {p : SegmentPattern} :
    ofFragments fragments = .ok p ↔ p.fragments = fragments := by
  constructor
  · intro h
    unfold ofFragments at h
    split at h
    · exact absurd h (by simp)
    · cases h
      rfl
  · intro same
    obtain rfl := same
    unfold ofFragments
    split
    · next refused => exact absurd (p.compiles.symm.trans refused) (by simp)
    · next e compiled =>
      cases p with
      | mk fragments expr compiles =>
        cases compiles.symm.trans compiled
        rfl

theorem compile_eq_ok_iff {fragments : List Fragment} {p : SegmentPattern} :
    compile fragments = .ok p ↔ p.fragments = fragments := by
  rw [← ofFragments_eq_ok_iff, compile, mapError_eq_ok_iff]

/-- The compiled test of fragments decides which texts they accept. -/
theorem isMatch_iff_allAccept (p : SegmentPattern)
    (h : ∀ negated, Fragment.charClass negated [] ∉ p.fragments) (t : Text) :
    p.isMatch t = true ↔ Fragment.AllAccept p.fragments t := by
  obtain ⟨e, read, means⟩ := (Fragment.readsAs_expressions h).parse
  have same : e = p.expr :=
    Except.ok.inj (read.symm.trans (Expression.parse_of_compile p.compiles))
  rw [isMatch, Expr.isMatch_iff_matches, ← same, means]

end SegmentPattern

theorem Component.mapM_compile_eq_ok_iff {component : Component (List Fragment)}
    {compiled : Component SegmentPattern} :
    component.mapM SegmentPattern.compile = .ok compiled ↔
      compiled.map SegmentPattern.fragments = component := by
  cases component with
  | doubleStar => cases compiled <;> simp [mapM]
  | segment fragments =>
    cases compiled with
    | doubleStar => cases h : SegmentPattern.compile fragments <;> simp [mapM, h, Except.map]
    | segment p =>
      rw [map_segment, Component.segment.injEq, ← SegmentPattern.compile_eq_ok_iff, mapM]
      cases SegmentPattern.compile fragments <;> simp [Except.map]

theorem Pattern.compile_cons_eq_ok_iff {component : Component (List Fragment)} {more : Pattern}
    {components : List (Component SegmentPattern)} :
    compile (component :: more) = .ok components ↔
      ∃ compiled rest, components = compiled :: rest ∧
        component.mapM SegmentPattern.compile = .ok compiled ∧ more.compile = .ok rest := by
  rw [compile]
  cases component.mapM SegmentPattern.compile with
  | error error => simp
  | ok compiled =>
    cases more.compile with
    | error error => simp [Except.map]
    | ok rest => simp [Except.map, eq_comm]

/-- Compiling keeps the fragments, and what it adds to them is determined by them. -/
theorem Pattern.compile_eq_ok_iff {pattern : Pattern}
    {components : List (Component SegmentPattern)} :
    pattern.compile = .ok components ↔
      components.map (Component.map SegmentPattern.fragments) = pattern := by
  induction pattern generalizing components with
  | nil => rw [compile, Except.ok.injEq, List.map_eq_nil_iff, eq_comm]
  | cons component more ih =>
    rw [compile_cons_eq_ok_iff, List.map_eq_cons_iff]
    simp only [Component.mapM_compile_eq_ok_iff, ih]

namespace Glob

/-- The pattern that was compiled. -/
def pattern (glob : Glob) : Pattern :=
  glob.components.map (Component.map SegmentPattern.fragments)

theorem ofText_eq_ok_iff {text : Text} {glob : Glob} :
    ofText text = .ok glob ↔ glob.text = text := by
  constructor
  · intro h
    unfold ofText at h
    split at h
    · exact absurd h (by simp)
    · cases h
      rfl
  · intro same
    obtain rfl := same
    unfold ofText
    split
    · next refused => exact absurd (glob.compiled.symm.trans refused) (by simp)
    · next components compiled =>
      cases glob with
      | mk text components compiled' =>
        cases compiled'.symm.trans compiled
        rfl

theorem exists_of_compiles {text : Text} (h : compiles text = true) :
    ∃ glob, ofText text = .ok glob :=
  exists_eq_ok_of_isOk h

theorem compiles_iff {text : Text} : compiles text = true ↔ ∃ glob : Glob, glob.text = text := by
  simp only [← ofText_eq_ok_iff, compiles]
  cases ofText text <;> simp [Except.isOk, Except.toBool]

/-- Texts that compile are the texts of globs. -/
theorem exists_map_text_iff {texts : List Text} :
    (∃ globs : List Glob, globs.map Glob.text = texts) ↔
      ∀ text ∈ texts, compiles text = true := by
  simp only [compiles_iff]
  exact Set.ext_iff.1 (Set.range_list_map Glob.text) texts

/-- The text of a glob writes its pattern. -/
theorem written (glob : Glob) : Pattern.WrittenPattern glob.text glob.pattern := by
  have compiled := glob.compiled
  unfold componentsOf at compiled
  split at compiled
  · exact absurd compiled (by simp)
  · next parts parsed =>
    rw [pattern, Pattern.compile_eq_ok_iff.1 compiled]
    exact Pattern.parse_eq_ok_iff.1 parsed

/-- The text of a glob is read as its pattern. -/
theorem parse_text (glob : Glob) : Pattern.parse glob.text = .ok glob.pattern :=
  Pattern.parse_eq_ok_iff.2 glob.written

/-- What a text is compiled from is what it is read as. -/
theorem pattern_of_ofText {text : Text} {glob : Glob} {pattern : Pattern}
    (compiled : ofText text = .ok glob) (parsed : Pattern.parse text = .ok pattern) :
    glob.pattern = pattern := by
  obtain rfl := ofText_eq_ok_iff.1 compiled
  exact Except.ok.inj (glob.parse_text.symm.trans parsed)

/-! ### Matching -/

/-- The compiled components of a glob test what the components of its pattern accept. -/
theorem corresponds (glob : Glob) :
    List.Forall₂
      (Sequence.Corresponds fun p fragments =>
        ∀ t, p.isMatch t = true ↔ Fragment.AllAccept fragments t)
      glob.components glob.pattern := by
  have wellFormed := glob.written.wellFormed
  rw [pattern, List.forall_mem_map] at wellFormed
  rw [pattern, List.forall₂_map_right_iff, List.forall₂_same]
  intro component mem
  cases component with
  | doubleStar => exact .doubleStar
  | segment p =>
    have each := (wellFormed _ mem).1
    exact .segment (p.isMatch_iff_allAccept fun negated emptyClass =>
      (each _ emptyClass).ne_emptyClass negated rfl)

/-- A glob matches the candidates whose pieces can be divided among the components of its pattern,
unless these end in a double star. -/
theorem isMatch_iff_aligned (glob : Glob) (candidate : Text) :
    glob.isMatch candidate = true ↔
      glob.pattern.getLast? ≠ some .doubleStar ∧
        Sequence.Aligned Fragment.AllAccept glob.pattern
          (Text.pieces Pattern.separator candidate) := by
  have shapes := glob.corresponds
  have alike : Sequence.Aligned (fun p t => SegmentPattern.isMatch p t = true) glob.components
      (Text.pieces Pattern.separator candidate) ↔
      Sequence.Aligned Fragment.AllAccept glob.pattern
        (Text.pieces Pattern.separator candidate) :=
    Sequence.aligned_congr (fun _ _ same => same) shapes
  rw [isMatch, Sequence.matchSequence_eq_true_iff, alike, ne_eq,
    Sequence.getLast?_eq_doubleStar_congr shapes]

/-- A glob of one segment matches a candidate of one piece if its fragments accept it. -/
theorem isMatch_iff_of_segment {glob : Glob} {fragments : List Fragment} {candidate : Text}
    (pattern : glob.pattern = [.segment fragments])
    (piece : Text.pieces Pattern.separator candidate = [candidate]) :
    glob.isMatch candidate = true ↔ Fragment.AllAccept fragments candidate := by
  rw [isMatch_iff_aligned, pattern, piece]
  constructor
  · rintro ⟨-, aligned⟩
    cases aligned with
    | segment accepts => exact accepts
  · exact fun accepts => ⟨by simp, .segment accepts .nil⟩

/-- **What globs match.** The glob of a text matches a candidate if and only if the spelling of the
text accepts it. -/
theorem isMatch_iff_accepts {text : Text} {glob : Glob} (h : ofText text = .ok glob)
    (candidate : Text) : glob.isMatch candidate = true ↔ Pattern.Accepts text candidate := by
  obtain rfl := ofText_eq_ok_iff.1 h
  rw [isMatch_iff_aligned, Pattern.accepts_iff_aligned glob.written]

/-- A double star takes an empty piece with others, and `b` is none of the characters of `a-c`. -/
theorem isMatch_doubleStar_class :
    ∃ glob, ofText "**/[!a-c]?\\**".toList = .ok glob ∧
      glob.isMatch "a//b\n*!".toList = true := by
  obtain ⟨glob, h⟩ := exists_of_compiles
    (show compiles "**/[!a-c]?\\**".toList = true by decide +kernel)
  have stars : Pattern.PieceAccepts "\\**".toList "*!".toList :=
    .escaped '*' (.anyText ['!'] .nil)
  have isContents : Pattern.IsContents ['a', '-', 'c'] := by simp [Pattern.IsContents]
  have segment : Pattern.PieceAccepts "[!a-c]?\\**".toList "b\n*!".toList :=
    .negatedClass isContents (by decide) (.anyChar '\n' stars)
  have accepts : Pattern.Accepts "**/[!a-c]?\\**".toList "a//b\n*!".toList :=
    ⟨by decide, .doubleStar [['a'], []] (.segment segment .nil)⟩
  exact ⟨glob, h, (isMatch_iff_accepts h _).2 accepts⟩

end Glob

end PathGlob
