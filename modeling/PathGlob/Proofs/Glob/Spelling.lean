import PathGlob.Proofs.Expression.Escape
import PathGlob.Proofs.Glob.Matching
import PathGlob.Proofs.Pattern.Spelling

/-!
# PathGlob.Proofs.Glob.Spelling

**Spelling a pattern keeps its meaning** (`Glob.spelling_undone`). A pattern that is spelled
anew is read back with its literals split into single characters. Expressions are written
character by character, so splitting cannot be seen in them (`Expression.ofFragments_split`). The
new text is therefore compiled if the old one is, and to the same tests.
-/

namespace PathGlob

/-! ### Expressions of split literals -/

theorem Fragment.flatMap_expression_split (f : Fragment) :
    f.split.flatMap Fragment.expression = f.expression := by
  cases f with
  | literal text =>
    have singles : (literal text).split = (text.map fun c => [c]).map literal :=
      List.map_map.symm
    rw [singles, flatMap_expression_literals, ← List.flatMap_def, List.flatMap_singleton']
    rfl
  | _ => exact List.flatMap_singleton Fragment.expression _

theorem Expression.ofFragments_split (fragments : List Fragment) :
    ofFragments (fragments.flatMap Fragment.split) = ofFragments fragments := by
  have body : (fragments.flatMap Fragment.split).flatMap Fragment.expression =
      fragments.flatMap Fragment.expression := by
    rw [List.flatMap_assoc]
    exact List.flatMap_congr fun f _ => f.flatMap_expression_split
  exact congrArg (fun body => "^(?s:".toList ++ body ++ ")$".toList) body

/-- Splitting the literals of a pattern changes none of its expressions. -/
theorem Pattern.map_ofFragments_split (pattern : Pattern) :
    pattern.split.map (Component.map Expression.ofFragments) =
      pattern.map (Component.map Expression.ofFragments) := by
  have each (component : Component (List Fragment)) :
      component.split.map Expression.ofFragments = component.map Expression.ofFragments := by
    cases component with
    | doubleStar => rfl
    | segment fragments =>
      rw [Component.split, Component.map_segment, Component.map_segment, Component.map_segment,
        Expression.ofFragments_split]
  rw [split, List.map_map]
  exact List.map_congr_left fun component _ => each component

/-! ### Globs with split literals -/

/-- A segment with its literals split, which has the same compiled expression. -/
def SegmentPattern.split (p : SegmentPattern) : SegmentPattern where
  fragments := p.fragments.flatMap Fragment.split
  expr := p.expr
  compiles := by
    rw [Expression.ofFragments_split]
    exact p.compiles

namespace Glob

variable {pieces : List Text}

/-- The glob of another spelling of the pattern. -/
def respelled (glob : Glob) (spelled : Pattern.SpelledPieces glob.pattern pieces) : Glob where
  text := Text.join Pattern.separator pieces
  components := glob.components.map (Component.map SegmentPattern.split)
  compiled := by
    have each (component : Component SegmentPattern) :
        (component.map SegmentPattern.split).map SegmentPattern.fragments =
          (component.map SegmentPattern.fragments).split := by
      cases component <;> rfl
    have written := glob.written
    rw [componentsOf, Pattern.parse_join_spelled written.ne_nil written.wellFormed spelled]
    refine Pattern.compile_eq_ok_iff.2 ?_
    rw [Pattern.split, pattern, List.map_map, List.map_map]
    exact List.map_congr_left fun component _ => each component

theorem respelled_isMatch (glob : Glob) (spelled : Pattern.SpelledPieces glob.pattern pieces)
    (candidate : Text) : (glob.respelled spelled).isMatch candidate = glob.isMatch candidate :=
  Sequence.matchSequence_map SegmentPattern.split glob.components _

/-! ### Main result -/

/-- **Spelling is undone.** Well-formed components with literals of one character are read back
from every spelling. A spelling of the components that some text is read as is a pattern with the
same expressions as the text; if the text is compiled then so is the spelling, and both match the
same candidates. -/
theorem spelling_undone {pattern : Pattern} (spelled : Pattern.SpelledPieces pattern pieces) :
    (pattern ≠ [] → (∀ component ∈ pattern, component.WellFormed) →
      (∀ fragments text, .segment fragments ∈ pattern → .literal text ∈ fragments →
        text.length = 1) →
      Pattern.parse (Text.join Pattern.separator pieces) = .ok pattern) ∧
    ∀ text, Pattern.parse text = .ok pattern →
      ∃ respelled, Pattern.parse (Text.join Pattern.separator pieces) = .ok respelled ∧
        respelled.map (Component.map Expression.ofFragments) =
          pattern.map (Component.map Expression.ofFragments) ∧
        ∀ glob, ofText text = .ok glob →
          ∃ other, ofText (Text.join Pattern.separator pieces) = .ok other ∧
            ∀ candidate, other.isMatch candidate = glob.isMatch candidate := by
  constructor
  · intro ne wellFormed single
    rw [Pattern.parse_join_spelled ne wellFormed spelled, Pattern.split_of_single single]
  · intro text parsed
    have written := Pattern.parse_eq_ok_iff.1 parsed
    have reread := Pattern.parse_join_spelled written.ne_nil written.wellFormed spelled
    refine ⟨pattern.split, reread, pattern.map_ofFragments_split, fun glob compiled => ?_⟩
    obtain rfl := pattern_of_ofText compiled parsed
    exact ⟨glob.respelled spelled, ofText_eq_ok_iff.2 rfl, glob.respelled_isMatch spelled⟩

/-- A group out of order beside asterisks and a class that starts with a bracket, and a literal of
two characters. -/
theorem spelling_undone_group :
    Pattern.parse "\x7bb,a,b\x7d**[!]x]/**/\\é".toList =
        .ok [.segment [.oneOf (.ofList [['a'], ['b']]), .anyText, .anyText,
          .charClass true "]x".toList], .doubleStar, .segment [.literal ['é']]] ∧
      ∃ glob other, ofText "**/ab\x7bc,d\x7d".toList = .ok glob ∧
        ofText "**/\\a\\b\x7bd,c,d\x7d".toList = .ok other ∧
        ∀ candidate, other.isMatch candidate = glob.isMatch candidate := by
  constructor
  · have parsed : Pattern.parse "\x7ba,b\x7d**[!]x]/**/é".toList =
        .ok [.segment [.oneOf (.ofList [['a'], ['b']]), .anyText, .anyText,
          .charClass true "]x".toList], .doubleStar, .segment [.literal ['é']]] := by
      decide +kernel
    have segment : Fragment.SpelledAll [.oneOf (.ofList [['a'], ['b']]), .anyText, .anyText,
        .charClass true "]x".toList] "\x7bb,a,b\x7d**[!]x]".toList :=
      .cons (.oneOf [['b'], ['a'], ['b']]) (.cons (.canonical .anyText)
        (.cons (.canonical .anyText) (.cons (.canonical (.charClass true "]x".toList)) .nil)))
    have literal : Fragment.SpelledAll [.literal ['é']] "\\é".toList :=
      .cons (.canonical (.literal ['é'])) .nil
    refine (spelling_undone (.cons (.segment segment) (.cons .doubleStar
      (.cons (.segment literal) .nil)))).1 (List.cons_ne_nil _ _) ?_ ?_
    · exact (Pattern.parse_eq_ok_iff.1 parsed).wellFormed
    · intro fragments text mem
      simp only [List.mem_cons, Component.segment.injEq, reduceCtorEq, List.not_mem_nil, false_or,
        or_false] at mem
      rcases mem with rfl | rfl <;> simp +contextual
  · have parsed : Pattern.parse "**/ab\x7bc,d\x7d".toList =
        .ok [.doubleStar, .segment [.literal ['a', 'b'], .oneOf (.ofList [['c'], ['d']])]] := by
      decide +kernel
    have segment : Fragment.SpelledAll [.literal ['a', 'b'], .oneOf (.ofList [['c'], ['d']])]
        "\\a\\b\x7bd,c,d\x7d".toList :=
      .cons (.canonical (.literal ['a', 'b'])) (.cons (.oneOf [['d'], ['c'], ['d']]) .nil)
    obtain ⟨glob, compiled⟩ := exists_of_compiles
      (show compiles "**/ab\x7bc,d\x7d".toList = true by decide +kernel)
    obtain ⟨-, -, -, every⟩ :=
      (spelling_undone (.cons .doubleStar (.cons (.segment segment) .nil))).2 _ parsed
    obtain ⟨other, recompiled, same⟩ := every glob compiled
    exact ⟨glob, other, compiled, recompiled, same⟩

end Glob

end PathGlob
