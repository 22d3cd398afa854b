import Mathlib.Data.List.Perm.Subperm
import Mathlib.Data.List.ProdSigma
import PathGlob.Proofs.Sequence.Alignment
import PathGlob.Sequence.Search

/-!
# PathGlob.Proofs.Sequence.Search

**Remembering failed places changes nothing but the number of tests.** The search with a memory
gives the answer of the plain recursion, and its tests are those of the plain recursion at their
first occurrence, in the same order.

The invariant is `Memo.Sound`. A remembered place is a true failure all of whose tests have been
made, so that skipping it leaves out nothing but repeats. For a test to be new it must also be
known that a tested place is either remembered or **open**, which means that the search of the
place is still going on; open places lie strictly before the current one. After a success nothing
is remembered any more, but then the whole search is over: only a failed search owes the
invariant to its caller (`Answers`).
-/

namespace PathGlob.Sequence

variable {π σ : Type}

/-! ### Lists without repeats -/

/-- The tests made, the latest first, after places have been visited in order. A place that was
tested before is not tested again. -/
def remember (tested places : List (Nat × Nat)) : List (Nat × Nat) :=
  places.foldl (fun tested place => tested.insert place) tested

@[simp] theorem remember_nil (tested : List (Nat × Nat)) : remember tested [] = tested := rfl

@[simp] theorem remember_cons (tested places : List (Nat × Nat)) (place : Nat × Nat) :
    remember tested (place :: places) = remember (tested.insert place) places := rfl

theorem remember_append (tested first second : List (Nat × Nat)) :
    remember tested (first ++ second) = remember (remember tested first) second :=
  List.foldl_append

theorem mem_remember {tested places : List (Nat × Nat)} {place : Nat × Nat} :
    place ∈ remember tested places ↔ place ∈ tested ∨ place ∈ places := by
  induction places generalizing tested with
  | nil => simp
  | cons head places ih =>
    rw [remember_cons, ih, List.mem_insert_iff, List.mem_cons, or_comm (a := place = head),
      or_assoc]

theorem remember_of_subset {tested places : List (Nat × Nat)}
    (h : ∀ place ∈ places, place ∈ tested) : remember tested places = tested := by
  induction places with
  | nil => rfl
  | cons head places ih =>
    rw [remember_cons, List.insert_of_mem (h head (by simp))]
    exact ih fun place mem => h place (List.mem_cons_of_mem head mem)

theorem mem_firstOccurrences {α : Type} [DecidableEq α] {x : α} {xs : List α} :
    x ∈ firstOccurrences xs ↔ x ∈ xs := by
  induction xs with
  | nil => rfl
  | cons head xs ih =>
    simp only [firstOccurrences, List.mem_cons, List.mem_filter, ih, decide_eq_true_eq]
    by_cases h : x = head <;> simp [h]

theorem nodup_firstOccurrences {α : Type} [DecidableEq α] (xs : List α) :
    (firstOccurrences xs).Nodup := by
  induction xs with
  | nil => exact List.nodup_nil
  | cons head xs ih =>
    rw [firstOccurrences, List.nodup_cons]
    exact ⟨by simp, ih.filter _⟩

/-- Read from the earliest on, the new tests are the first occurrences of untested places. -/
theorem reverse_remember (tested places : List (Nat × Nat)) :
    (remember tested places).reverse =
      tested.reverse ++ (firstOccurrences places).filter (· ∉ tested) := by
  induction places generalizing tested with
  | nil => simp [firstOccurrences]
  | cons head places ih =>
    rw [remember_cons, ih, firstOccurrences]
    by_cases h : head ∈ tested
    · rw [List.insert_of_mem h, List.filter_cons_of_neg (by simpa using h), List.filter_filter]
      congr 1
      refine List.filter_congr fun place _ => ?_
      by_cases same : place = head <;> simp [same, h]
    · rw [List.insert_of_not_mem h, List.filter_cons_of_pos (by simpa using h),
        List.filter_filter, List.reverse_cons, List.append_assoc, List.singleton_append]
      congr 2
      refine List.filter_congr fun place _ => ?_
      simp only [List.mem_cons, not_or, decide_not, Bool.decide_and, ne_eq, Bool.and_comm]

/-! ### The places of the plain recursion -/

/-- The plain recursion tests only places inside its lists. -/
theorem mem_plainTests_bounds {test : π → σ → Bool} {i j : Nat} {components : List (Component π)}
    {segments : List σ} {place : Nat × Nat}
    (h : place ∈ plainTests test i j components segments) :
    place.1 < i + components.length ∧ place.2 < j + segments.length := by
  fun_induction plainTests test i j components segments with
  | case1 => cases h
  | case2 => cases h
  | case3 i j components segment segments ihAbsorb ihSkip =>
    rcases List.mem_append.1 h with h | h
    · have inside := ihAbsorb h
      simp only [List.length_cons] at inside ⊢
      omega
    · split at h
      · cases h
      · have inside := ihSkip h
        simp only [List.length_cons] at inside ⊢
        omega
  | case4 i j item components segment segments ih =>
    rcases List.mem_cons.1 h with rfl | h
    · simp
    · split at h
      · have inside := ih h
        simp only [List.length_cons] at inside ⊢
        omega
      · cases h

/-! ### The invariant -/

variable {test : π → σ → Bool} {components : List (Component π)} {segments : List σ}
  {opened : Nat × Nat → Prop} {i j : Nat} {memo : Memo}

/-- What the memory of a search says about its lists. `opened` are the places whose search is still
going on. -/
structure Memo.Sound (test : π → σ → Bool) (components : List (Component π)) (segments : List σ)
    (opened : Nat × Nat → Prop) (memo : Memo) : Prop where
  /-- There is no match from a remembered place. -/
  noMatch : ∀ i j, (i, j) ∈ memo.failed →
    plainMatch test (components.drop i) (segments.drop j) = false
  /-- All that would be tested from a remembered place has been tested. -/
  tried : ∀ i j, (i, j) ∈ memo.failed →
    ∀ place ∈ plainTests test i j (components.drop i) (segments.drop j), place ∈ memo.tested
  /-- A tested place is remembered unless its search is still going on. -/
  settled : ∀ place ∈ memo.tested, place ∈ memo.failed ∨ opened place

namespace Memo.Sound

theorem empty : Memo.empty.Sound test components segments opened where
  noMatch _ _ h := absurd h Std.HashSet.not_mem_empty
  tried _ _ h := absurd h Std.HashSet.not_mem_empty
  settled _ h := absurd h List.not_mem_nil

theorem mono {opened' : Nat × Nat → Prop} (sound : memo.Sound test components segments opened)
    (h : ∀ place, opened place → opened' place) :
    memo.Sound test components segments opened' where
  noMatch := sound.noMatch
  tried := sound.tried
  settled place mem := (sound.settled place mem).imp id (h place)

/-- A test may be made at a place that is open. -/
theorem afterTest {place : Nat × Nat} (sound : memo.Sound test components segments opened)
    (h : opened place) : (memo.test place).Sound test components segments opened where
  noMatch := sound.noMatch
  tried i j mem place' mem' := List.mem_cons_of_mem _ (sound.tried i j mem place' mem')
  settled place' mem := by
    rcases List.mem_cons.1 mem with rfl | mem
    · exact Or.inr h
    · exact sound.settled place' mem

/-- A place is remembered, and so no longer open, when it has no match and all its tests have been
made. -/
theorem afterFail (sound : memo.Sound test components segments fun p => opened p ∨ p = (i, j))
    (noMatch : plainMatch test (components.drop i) (segments.drop j) = false)
    (tried : ∀ place ∈ plainTests test i j (components.drop i) (segments.drop j),
      place ∈ memo.tested) :
    (memo.fail (i, j)).Sound test components segments opened where
  noMatch i' j' mem := by
    rcases Std.HashSet.mem_insert.1 mem with same | mem
    · obtain ⟨rfl, rfl⟩ := Prod.mk.inj (eq_of_beq same)
      exact noMatch
    · exact sound.noMatch i' j' mem
  tried i' j' mem := by
    rcases Std.HashSet.mem_insert.1 mem with same | mem
    · obtain ⟨rfl, rfl⟩ := Prod.mk.inj (eq_of_beq same)
      exact tried
    · exact sound.tried i' j' mem
  settled place mem := by
    rcases sound.settled place mem with failed | opened | rfl
    · exact Or.inl (Std.HashSet.mem_insert.2 (Or.inr failed))
    · exact Or.inr opened
    · exact Or.inl (Std.HashSet.mem_insert.2 (Or.inl (beq_self_eq_true _)))

end Memo.Sound

/-- What a search from component `i` and segment `j` owes to its caller: the answer and the tests of
the plain recursion and, if it failed, a memory that is still sound. -/
structure Answers (test : π → σ → Bool) (components : List (Component π)) (segments : List σ)
    (opened : Nat × Nat → Prop) (i j : Nat) (memo : Memo) (outcome : Bool × Memo) : Prop where
  matched : outcome.1 = plainMatch test (components.drop i) (segments.drop j)
  tested : outcome.2.tested =
    remember memo.tested (plainTests test i j (components.drop i) (segments.drop j))
  sound : outcome.1 = false → outcome.2.Sound test components segments opened

/-! ### One step of the search -/

theorem drop_succ_of_drop {α : Type} {xs rest : List α} {x : α} {n : Nat}
    (h : xs.drop n = x :: rest) : xs.drop (n + 1) = rest := by
  rw [← List.tail_drop, h, List.tail_cons]

/-- What the search does at a place that is not remembered, before the outcome is recorded. -/
def explore (test : π → σ → Bool) (i j : Nat) (components : List (Component π))
    (segments : List σ) (memo : Memo) : Bool × Memo :=
  match components, segments with
  | [], [] => (true, memo)
  | [], _ :: _ => (false, memo)
  | _ :: _, [] => (false, memo)
  | .doubleStar :: components', segment :: segments' =>
    match search test i (j + 1) (.doubleStar :: components') segments' memo with
    | (true, memo) => (true, memo)
    | (false, memo) => search test (i + 1) j components' (segment :: segments') memo
  | .segment item :: components', segment :: segments' =>
    if test item segment then
      search test (i + 1) (j + 1) components' segments' (memo.test (i, j))
    else (false, memo.test (i, j))

/-- Remembers the place of a failure. -/
def record (place : Nat × Nat) : Bool × Memo → Bool × Memo
  | (true, memo) => (true, memo)
  | (false, memo) => (false, memo.fail place)

theorem search_of_mem (h : (i, j) ∈ memo.failed) :
    search test i j components segments memo = (false, memo) := by
  rw [search.eq_def, if_pos (Std.HashSet.contains_iff_mem.2 h)]

theorem search_of_not_mem (h : (i, j) ∉ memo.failed) :
    search test i j components segments memo =
      record (i, j) (explore test i j components segments memo) := by
  rw [search.eq_def, if_neg (mt Std.HashSet.contains_iff_mem.1 h)]
  rfl

/-- Recording a failure closes its place. -/
theorem Answers.record {outcome : Bool × Memo}
    (h : Answers test components segments (fun p => opened p ∨ p = (i, j)) i j memo outcome) :
    Answers test components segments opened i j memo (record (i, j) outcome) := by
  obtain ⟨matched, after⟩ := outcome
  have tested : after.tested = _ := h.tested
  cases matched with
  | true =>
    -- A success is not recorded, and it owes no sound memory.
    exact ⟨h.matched, tested, fun failed => absurd failed (by simp [Sequence.record])⟩
  | false =>
    refine ⟨h.matched, tested, fun _ => ?_⟩
    refine (h.sound rfl).afterFail h.matched.symm fun place mem => ?_
    rw [tested]
    exact mem_remember.2 (Or.inr mem)

/-- A search is answered from the memory or by exploring its place. -/
theorem answers_of_explore {cs : List (Component π)} {ss : List σ}
    (sound : memo.Sound test components segments opened)
    (h : (i, j) ∉ memo.failed → Answers test components segments
      (fun p => opened p ∨ p = (i, j)) i j memo (explore test i j cs ss memo)) :
    Answers test components segments opened i j memo (search test i j cs ss memo) := by
  by_cases failed : (i, j) ∈ memo.failed
  · rw [search_of_mem failed]
    exact ⟨(sound.noMatch i j failed).symm,
      (remember_of_subset (sound.tried i j failed)).symm, fun _ => sound⟩
  · rw [search_of_not_mem failed]
    exact (h failed).record

theorem explore_doubleStar {cs : List (Component π)} {s : σ} {ss : List σ}
    (hc : components.drop i = .doubleStar :: cs) (hs : segments.drop j = s :: ss)
    (absorb : Answers test components segments opened i (j + 1) memo
      (search test i (j + 1) (.doubleStar :: cs) ss memo))
    (skip : ∀ memo : Memo, memo.Sound test components segments opened →
      Answers test components segments opened (i + 1) j memo
        (search test (i + 1) j cs (s :: ss) memo)) :
    Answers test components segments opened i j memo
      (explore test i j (.doubleStar :: cs) (s :: ss) memo) := by
  have hc' : components.drop (i + 1) = cs := drop_succ_of_drop hc
  have hs' : segments.drop (j + 1) = ss := drop_succ_of_drop hs
  obtain ⟨matched, tested, sound⟩ := absorb
  rw [explore]
  -- The second choice is searched with the memory `after` that the first one leaves.
  rcases first : search test i (j + 1) (.doubleStar :: cs) ss memo with ⟨found, after⟩
  rw [first, hc, hs'] at matched
  rw [first, hc, hs'] at tested
  rw [first] at sound
  cases found with
  | true =>
    refine ⟨?_, ?_, fun failed => absurd failed (by simp)⟩
    · rw [hc, hs, plainMatch_doubleStar_cons, ← matched, Bool.true_or]
    · rw [hc, hs, plainTests, if_pos matched.symm, List.append_nil]
      exact tested
  | false =>
    obtain ⟨matched', tested', sound'⟩ := skip after (sound rfl)
    rw [hc', hs] at matched' tested'
    refine ⟨?_, ?_, sound'⟩
    · rw [hc, hs, plainMatch_doubleStar_cons, ← matched, Bool.false_or]
      exact matched'
    · rw [hc, hs, plainTests, if_neg (by rw [← matched]; exact Bool.false_ne_true),
        remember_append, ← tested]
      exact tested'

theorem explore_segment {item : π} {cs : List (Component π)} {s : σ} {ss : List σ}
    (hc : components.drop i = .segment item :: cs) (hs : segments.drop j = s :: ss)
    (sound : memo.Sound test components segments opened) (here : opened (i, j))
    (fresh : (i, j) ∉ memo.tested)
    (follow : ∀ memo : Memo, memo.Sound test components segments opened →
      Answers test components segments opened (i + 1) (j + 1) memo
        (search test (i + 1) (j + 1) cs ss memo)) :
    Answers test components segments opened i j memo
      (explore test i j (.segment item :: cs) (s :: ss) memo) := by
  have hc' : components.drop (i + 1) = cs := drop_succ_of_drop hc
  have hs' : segments.drop (j + 1) = ss := drop_succ_of_drop hs
  have newTest : (memo.test (i, j)).tested = memo.tested.insert (i, j) :=
    (List.insert_of_not_mem fresh).symm
  rw [explore]
  cases passes : test item s with
  | true =>
    obtain ⟨matched, tested, sound'⟩ := follow (memo.test (i, j)) (sound.afterTest here)
    rw [hc', hs'] at matched tested
    rw [if_pos rfl]
    refine ⟨?_, ?_, sound'⟩
    · rw [hc, hs, plainMatch_segment_cons, passes, Bool.true_and]
      exact matched
    · rw [hc, hs, plainTests, if_pos passes, remember_cons, ← newTest]
      exact tested
  | false =>
    rw [if_neg Bool.false_ne_true]
    refine ⟨?_, ?_, fun _ => sound.afterTest here⟩
    · rw [hc, hs, plainMatch_segment_cons, passes, Bool.false_and]
    · rw [hc, hs, plainTests, if_neg (by rw [passes]; exact Bool.false_ne_true), remember_cons,
        ← newTest]
      rfl

/-! ### A whole search -/

/-- A search that starts from a sound memory, with all open places before it, answers like the plain
recursion. -/
theorem search_answers (sound : memo.Sound test components segments opened)
    (below : ∀ place, opened place → place.1 + place.2 < i + j) :
    Answers test components segments opened i j memo
      (search test i j (components.drop i) (segments.drop j) memo) := by
  generalize hc : components.drop i = cs
  generalize hs : segments.drop j = ss
  induction cs, ss using plainMatch.induct generalizing i j memo opened with
  | case1 =>
    refine answers_of_explore sound fun _ =>
      ⟨?_, ?_, fun failed => absurd failed (by simp [explore])⟩
    · rw [hc, hs, plainMatch, explore]
    · rw [hc, plainTests, explore, remember_nil]
  | case2 s ss =>
    refine answers_of_explore sound fun _ => ⟨?_, ?_, fun _ => sound.mono fun _ => Or.inl⟩
    · rw [hc, hs, plainMatch, explore]
    · rw [hc, plainTests, explore, remember_nil]
  | case3 c cs =>
    refine answers_of_explore sound fun _ => ⟨?_, ?_, fun _ => sound.mono fun _ => Or.inl⟩
    · rw [hc, hs, plainMatch, explore]
    · rw [hc, hs, plainTests, explore, remember_nil]
  | case4 cs s ss ihAbsorb ihSkip =>
    have hs' : segments.drop (j + 1) = ss := drop_succ_of_drop hs
    have hc' : components.drop (i + 1) = cs := drop_succ_of_drop hc
    -- Both choices lie one step behind the place itself, which is open while they are searched.
    have below' : ∀ place, (opened place ∨ place = (i, j)) → place.1 + place.2 < i + j + 1 := by
      intro place h
      rcases h with h | rfl
      · exact Nat.lt_succ_of_lt (below place h)
      · exact Nat.lt_succ_self (i + j)
    refine answers_of_explore sound fun _ => explore_doubleStar hc hs ?_ ?_
    · exact ihAbsorb (sound.mono fun _ => Or.inl) below' hc hs'
    · intro memo sound
      exact ihSkip sound (by simpa only [Nat.add_right_comm i 1 j] using below') hc' hs
  | case5 item cs s ss ih =>
    have hs' : segments.drop (j + 1) = ss := drop_succ_of_drop hs
    have hc' : components.drop (i + 1) = cs := drop_succ_of_drop hc
    refine answers_of_explore sound fun fresh => explore_segment hc hs
      (sound.mono fun _ => Or.inl) (Or.inr rfl) ?_ ?_
    · -- A tested place would be remembered or open, and it is neither.
      intro tested
      rcases sound.settled (i, j) tested with failed | opened
      · exact fresh failed
      · exact Nat.lt_irrefl (i + j) (below (i, j) opened)
    · intro memo sound
      refine ih sound ?_ hc' hs'
      intro place h
      rcases h with h | rfl
      · have := below place h
        omega
      · simp only
        omega

/-- The search from the start answers like the plain recursion. -/
theorem search_empty_answers :
    Answers test components segments (fun _ => False) 0 0 .empty
      (search test 0 0 components segments .empty) :=
  search_answers .empty fun _ h => h.elim

theorem matchSequence_eq_plainMatch (test : π → σ → Bool) (components : List (Component π))
    (segments : List σ) :
    matchSequence test components segments = plainMatch test components segments :=
  search_empty_answers.matched

/-- The search finds an alignment whenever there is one, unless the components end in a double
star. -/
theorem matchSequence_eq_true_iff :
    matchSequence test components segments = true ↔
      components.getLast? ≠ some .doubleStar ∧
        Aligned (fun item segment => test item segment = true) components segments := by
  rw [matchSequence_eq_plainMatch, plainMatch_iff_aligned]

theorem matchSequence_map {α : Type} (f : α → π) (components : List (Component α))
    (segments : List σ) :
    matchSequence test (components.map (Component.map f)) segments =
      matchSequence (fun item => test (f item)) components segments := by
  rw [matchSequence_eq_plainMatch, matchSequence_eq_plainMatch, plainMatch_map]

theorem testOrder_eq_firstOccurrences (test : π → σ → Bool) (components : List (Component π))
    (segments : List σ) :
    testOrder test components segments =
      firstOccurrences (plainTests test 0 0 components segments) := by
  have tested : (search test 0 0 components segments .empty).2.tested = _ :=
    search_empty_answers.tested
  rw [testOrder, tested, reverse_remember]
  exact List.filter_eq_self.2 fun place _ => by simp [Memo.empty]

/-! ### Main results -/

/-- **The memory is invisible.** The search gives the answer of the plain recursion, and its tests
are the tests of the plain recursion, in the same order, without those made before. So no place is
tested twice, and there are at most as many tests as pairs of a component and a segment. -/
theorem search_refines_plain (test : π → σ → Bool) (components : List (Component π))
    (segments : List σ) :
    matchSequence test components segments = plainMatch test components segments ∧
      testOrder test components segments =
        firstOccurrences (plainTests test 0 0 components segments) ∧
      (testOrder test components segments).Nodup ∧
      (testOrder test components segments).length ≤ components.length * segments.length := by
  have order := testOrder_eq_firstOccurrences test components segments
  have nodup : (testOrder test components segments).Nodup := by
    rw [order]
    exact nodup_firstOccurrences _
  have inside : testOrder test components segments ⊆
      List.range components.length ×ˢ List.range segments.length := by
    intro place mem
    rw [order, mem_firstOccurrences] at mem
    have bounds := mem_plainTests_bounds mem
    rw [Nat.zero_add, Nat.zero_add] at bounds
    exact List.mem_product.2 ⟨List.mem_range.2 bounds.1, List.mem_range.2 bounds.2⟩
  refine ⟨matchSequence_eq_plainMatch test components segments, order, nodup, ?_⟩
  calc (testOrder test components segments).length
      ≤ (List.range components.length ×ˢ List.range segments.length).length :=
        (List.subperm_of_subset nodup inside).length_le
    _ = components.length * segments.length := by
        rw [List.length_product, List.length_range, List.length_range]

/-- **What a match is.** Components match segments if they do not end in a double star and the
segments can be divided among them. Without components only the empty list is matched, and behind
a double star at the end nothing is. -/
theorem matchSequence_iff_aligned (test : π → σ → Bool) (components : List (Component π))
    (segments : List σ) :
    (matchSequence test components segments = true ↔
      components.getLast? ≠ some .doubleStar ∧
        Aligned (fun item segment => test item segment = true) components segments) ∧
      (matchSequence test [] segments = true ↔ segments = []) ∧
      matchSequence test (components ++ [.doubleStar]) segments = false := by
  simp only [matchSequence_eq_plainMatch]
  refine ⟨plainMatch_iff_aligned, ?_, ?_⟩
  · rw [plainMatch_iff_aligned, aligned_nil_left]
    simp
  · rw [← Bool.not_eq_true, plainMatch_iff_aligned]
    simp

end PathGlob.Sequence
