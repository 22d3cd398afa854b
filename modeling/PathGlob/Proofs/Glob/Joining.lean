import PathGlob.Proofs.Glob.Matching

/-!
# PathGlob.Proofs.Glob.Joining

**Globs can be joined at a slash**: the texts of two globs with a slash between them are a glob, and
if the first does not end in `**` it matches the candidates that can be cut at a slash into one that
the first matches and one that the second matches (`Glob.ofText_slash`).

A cut of the candidate is a division of its pieces into two lists that are not empty. An alignment
with the components of both globs gives such a division (`Sequence.aligned_append_iff`): behind
components that do not end in a double star something has been taken, and a glob that ends in one
matches nothing at all. With `**` at the end of the first glob there would be alignments that take
nothing for it, and the glob alone would match nothing.
-/

namespace PathGlob.Glob

variable {first second : Glob}

/-- The glob whose text has a slash between the texts of two globs. -/
def join (first second : Glob) : Glob where
  text := first.text ++ Pattern.separator :: second.text
  components := first.components ++ second.components
  compiled := by
    have parsed := Pattern.parse_eq_ok_iff.2 (first.written.slash second.written)
    rw [componentsOf, parsed]
    exact Pattern.compile_eq_ok_iff.2 List.map_append

theorem pattern_join : (first.join second).pattern = first.pattern ++ second.pattern :=
  List.map_append

/-- Components that do not end in a double star have to take something. -/
theorem ne_nil_of_aligned {test : List Fragment → Text → Prop} {segments : List Text} (glob : Glob)
    (last : glob.pattern.getLast? ≠ some .doubleStar)
    (aligned : Sequence.Aligned test glob.pattern segments) : segments ≠ [] := by
  rintro rfl
  exact last (Sequence.getLast?_of_aligned_nil aligned glob.written.ne_nil)

/-- Joined globs match what the two match side by side. -/
theorem join_isMatch_iff (last : first.pattern.getLast? ≠ some .doubleStar) (candidate : Text) :
    (first.join second).isMatch candidate = true ↔
      ∃ before after, candidate = before ++ Pattern.separator :: after ∧
        first.isMatch before = true ∧ second.isMatch after = true := by
  have lastJoined : (first.join second).pattern.getLast? = second.pattern.getLast? := by
    rw [pattern_join, List.getLast?_append_of_ne_nil _ second.written.ne_nil]
  simp only [isMatch_iff_aligned, lastJoined]
  rw [pattern_join, Sequence.aligned_append_iff]
  constructor
  · rintro ⟨lastSecond, front, back, cut, alignedFront, alignedBack⟩
    have neFront := first.ne_nil_of_aligned last alignedFront
    have neBack := second.ne_nil_of_aligned lastSecond alignedBack
    obtain ⟨before, after, rfl, rfl, rfl⟩ := (Text.pieces_eq_append_iff neFront neBack).1 cut
    exact ⟨before, after, rfl, ⟨last, alignedFront⟩, lastSecond, alignedBack⟩
  · rintro ⟨before, after, rfl, ⟨-, alignedFront⟩, lastSecond, alignedBack⟩
    exact ⟨lastSecond, _, _, Text.pieces_append_cons _ before after, alignedFront, alignedBack⟩

/-! ### Main result -/

/-- **Globs side by side.** Two globs with a slash between them are a glob. Unless the last piece of
the first is `**`, it matches a candidate if and only if the candidate can be cut at one of its
slashes so that the first glob matches what is in front of it and the second what is behind it. -/
theorem ofText_slash {s t : Text} (compiled : ofText s = .ok first)
    (compiledToo : ofText t = .ok second)
    (last : (Text.pieces Pattern.separator s).getLast? ≠ some ['*', '*']) :
    ∃ glob, ofText (s ++ Pattern.separator :: t) = .ok glob ∧
      ∀ candidate, glob.isMatch candidate = true ↔
        ∃ before after, candidate = before ++ Pattern.separator :: after ∧
          first.isMatch before = true ∧ second.isMatch after = true := by
  obtain rfl := ofText_eq_ok_iff.1 compiled
  obtain rfl := ofText_eq_ok_iff.1 compiledToo
  rw [ne_eq, first.written.getLast?_eq_doubleStar] at last
  exact ⟨first.join second, ofText_eq_ok_iff.2 rfl, join_isMatch_iff last⟩

/-- Empty pieces on both sides of the slash, and a double star behind it. -/
theorem ofText_slash_doubleStar :
    ∃ first second, ofText "**/a/".toList = .ok first ∧ ofText "/**/b".toList = .ok second ∧
      (Text.pieces Pattern.separator "**/a/".toList).getLast? ≠ some ['*', '*'] ∧
      ∃ glob, ofText "**/a///**/b".toList = .ok glob ∧
        ∀ candidate, glob.isMatch candidate = true ↔
          ∃ before after, candidate = before ++ Pattern.separator :: after ∧
            first.isMatch before = true ∧ second.isMatch after = true := by
  obtain ⟨first, compiled⟩ := exists_of_compiles
    (show compiles "**/a/".toList = true by decide +kernel)
  obtain ⟨second, compiledToo⟩ := exists_of_compiles
    (show compiles "/**/b".toList = true by decide +kernel)
  have last : (Text.pieces Pattern.separator "**/a/".toList).getLast? ≠ some ['*', '*'] := by
    decide
  exact ⟨first, second, compiled, compiledToo, last, ofText_slash compiled compiledToo last⟩

end PathGlob.Glob
