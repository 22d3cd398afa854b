import PathGlob.Proofs.Sequence.Search

/-!
# PathGlob.Proofs.Sequence.DoubleStar

**One more double star.** Put in front of some component it can only add matches, beside another
double star it changes nothing, and at the end it leaves no match at all
(`matchSequence_insertIdx_doubleStar`).

With one more component the search takes other ways and remembers other places, so the two searches
are not compared step by step. Both decide an alignment, and there the new double star takes an
empty run, two runs side by side are one run, and the last component stays the last one unless the
new one is put behind it.
-/

namespace PathGlob.Sequence

variable {π σ : Type} {test : π → σ → Bool} {components before after : List (Component π)}
  {segments : List σ}

/-- In front of some component a double star takes no match away. -/
theorem matchSequence_insert_doubleStar (ne : after ≠ [])
    (h : matchSequence test (before ++ after) segments = true) :
    matchSequence test (before ++ .doubleStar :: after) segments = true := by
  rw [matchSequence_eq_true_iff, List.getLast?_append_of_ne_nil _ ne] at h
  rw [matchSequence_eq_true_iff, List.getLast?_append_of_ne_nil _ (by simp),
    List.getLast?_cons_of_ne_nil ne]
  exact ⟨h.1, h.2.insert_doubleStar⟩

/-- Two double stars side by side match what one of them does. -/
theorem matchSequence_doubleStar_twice :
    matchSequence test (before ++ .doubleStar :: .doubleStar :: after) segments =
      matchSequence test (before ++ .doubleStar :: after) segments := by
  rw [Bool.eq_iff_iff]
  simp only [matchSequence_eq_true_iff, aligned_append_iff, aligned_doubleStar_twice]
  simp

/-- A run of double stars matches what one of them does. -/
theorem matchSequence_replicate_doubleStar (n : Nat) :
    matchSequence test (before ++ List.replicate (n + 1) .doubleStar ++ after) segments =
      matchSequence test (before ++ .doubleStar :: after) segments := by
  induction n with
  | zero => simp
  | succ n ih =>
    rw [← ih]
    simp [List.replicate_succ, matchSequence_doubleStar_twice]

/-- Behind all components a double star leaves no match. -/
theorem matchSequence_concat_doubleStar :
    matchSequence test (components ++ [.doubleStar]) segments = false := by
  simp [← Bool.not_eq_true, matchSequence_eq_true_iff]

/-- Something put into a list at a place has what is in front of the place before it, and the rest
after it. -/
theorem insertIdx_append {α : Type} (front back : List α) (x : α) :
    (front ++ back).insertIdx front.length x = front ++ x :: back := by
  induction front with
  | nil => rfl
  | cons head front ih => simp [ih]

/-- Beside a double star another one changes nothing. -/
theorem matchSequence_insert_beside_doubleStar
    (beside : before.getLast? = some .doubleStar ∨ after.head? = some .doubleStar) :
    matchSequence test (before ++ .doubleStar :: after) segments =
      matchSequence test (before ++ after) segments := by
  rcases beside with last | head
  · obtain ⟨front, rfl⟩ := List.getLast?_eq_some_iff.1 last
    simp [matchSequence_doubleStar_twice]
  · obtain ⟨back, rfl⟩ := List.head?_eq_some_iff.1 head
    exact matchSequence_doubleStar_twice

/-! ### Main result -/

/-- **Inserting a double star.** In front of some component it takes no match away; just behind or
just in front of another double star it changes nothing, so that a run of double stars is as good as
one; and behind all components it leaves no match. -/
theorem matchSequence_insertIdx_doubleStar (test : π → σ → Bool) (components : List (Component π))
    (segments : List σ) :
    (∀ i < components.length, matchSequence test components segments = true →
      matchSequence test (components.insertIdx i .doubleStar) segments = true) ∧
    (∀ i ≤ components.length,
      0 < i ∧ components[i - 1]? = some .doubleStar ∨ components[i]? = some .doubleStar →
      matchSequence test (components.insertIdx i .doubleStar) segments =
        matchSequence test components segments) ∧
    (∀ before after n,
      matchSequence test (before ++ List.replicate (n + 1) .doubleStar ++ after) segments =
        matchSequence test (before ++ .doubleStar :: after) segments) ∧
    matchSequence test (components.insertIdx components.length .doubleStar) segments = false := by
  -- A place in the components cuts them into what is in front of it and what is behind it.
  have cut : ∀ i ≤ components.length, ∃ before after, components = before ++ after ∧
      i = before.length := fun i inside =>
    ⟨components.take i, components.drop i, by simp, by simp [inside]⟩
  refine ⟨fun i inside matched => ?_, fun i inside beside => ?_,
    fun _ _ => matchSequence_replicate_doubleStar, ?_⟩
  · obtain ⟨before, after, rfl, rfl⟩ := cut i (Nat.le_of_lt inside)
    have ne : after ≠ [] := by
      intro empty
      simp [empty] at inside
    rw [insertIdx_append]
    exact matchSequence_insert_doubleStar ne matched
  · obtain ⟨before, after, rfl, rfl⟩ := cut i inside
    rw [insertIdx_append]
    refine matchSequence_insert_beside_doubleStar ?_
    rcases beside with ⟨pos, front⟩ | behind
    · rw [List.getElem?_append_left (by omega)] at front
      exact .inl (by rw [List.getLast?_eq_getElem?, front])
    · rw [List.getElem?_append_right (Nat.le_refl _), Nat.sub_self] at behind
      exact .inr (by rw [List.head?_eq_getElem?, behind])
  · rw [List.insertIdx_length_self]
    exact matchSequence_concat_doubleStar

/-- A double star in front of everything, and a second one behind the first. -/
theorem matchSequence_insertIdx_doubleStar_between :
    (matchSequence (· == ·) [.segment 'a', .doubleStar, .segment 'z'] ['a', 'x', 'z'] = true ∧
      matchSequence (· == ·) [.doubleStar, .segment 'a', .doubleStar, .segment 'z']
        ['a', 'x', 'z'] = true) ∧
    ([.segment 'a', .doubleStar, .segment 'z'][1]? = some (.doubleStar : Component Char) ∧
      matchSequence (· == ·) [.segment 'a', .doubleStar, .doubleStar, .segment 'z'] ['a', 'x'] =
        matchSequence (· == ·) [.segment 'a', .doubleStar, .segment 'z'] ['a', 'x']) := by
  have aligned : Aligned (fun a b : Char => (a == b) = true)
      [.segment 'a', .doubleStar, .segment 'z'] ['a', 'x', 'z'] :=
    .segment rfl (.doubleStar ['x'] (.segment rfl .nil))
  have matched := matchSequence_eq_true_iff.2 ⟨by decide, aligned⟩
  exact ⟨⟨matched, (matchSequence_insertIdx_doubleStar _ _ _).1 0 (by decide) matched⟩, rfl,
    (matchSequence_insertIdx_doubleStar _ [.segment 'a', .doubleStar, .segment 'z'] _).2.1 2
      (by decide) (.inl ⟨by decide, rfl⟩)⟩

end PathGlob.Sequence
