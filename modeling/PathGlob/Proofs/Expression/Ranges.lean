import Mathlib.Data.List.Sort
import PathGlob.Expression.Size

/-!
# PathGlob.Proofs.Expression.Ranges

**The ranges of a set depend on its members only** (`CharClass.ranges_congr`), whatever it is
written with, and so does the size of its automaton (`CharClass.size_congr`). The numbers in them
are the code points of the members (`CharClass.exists_mem_ranges_iff`).

Membership changes only where a range of the written set starts or has ended (`contains_succ`). So
the switches of a set, which are looked for there, are all points at which membership changes
(`mem_switches_iff`), in ascending order. A code point is held if there is an odd number of switches
up to it (`heldBefore_eq`), and that is when it lies in a range (`exists_mem_pairUp_iff`).
-/

namespace PathGlob.Expression

variable {n m : Nat} {points : List Nat}

/-! ### Points -/

@[simp] theorem mem_insertPoint_iff : m ∈ insertPoint n points ↔ m = n ∨ m ∈ points := by
  induction points with
  | nil => simp [insertPoint]
  | cons k points ih =>
    rw [insertPoint]
    split
    · exact List.mem_cons
    split
    · next same => simp [same]
    · simp only [List.mem_cons, ih]
      exact or_left_comm

theorem pairwise_insertPoint (h : points.Pairwise (· < ·)) :
    (insertPoint n points).Pairwise (· < ·) := by
  induction points with
  | nil => exact List.pairwise_singleton _ _
  | cons k points ih =>
    obtain ⟨above, sorted⟩ := List.pairwise_cons.1 h
    rw [insertPoint]
    split
    · next less =>
      refine List.pairwise_cons.2 ⟨List.forall_mem_cons.2 ⟨less, fun m hm => ?_⟩, h⟩
      exact less.trans (above m hm)
    split
    · exact h
    · refine List.pairwise_cons.2 ⟨fun m hm => ?_, ih sorted⟩
      rcases mem_insertPoint_iff.1 hm with rfl | hm
      · omega
      · exact above m hm

theorem countP_lt_succ : points.countP (· < n + 1) = points.countP (· < n) + points.count n := by
  induction points with
  | nil => rfl
  | cons k points ih =>
    simp only [List.countP_cons, List.count_cons, ih, decide_eq_true_eq, beq_iff_eq]
    split <;> split <;> split <;> omega

/-- A number lies in one of the ranges if it has an odd number of points up to it. -/
theorem exists_mem_pairUp_iff (sorted : points.Pairwise (· < ·)) (even : points.length % 2 = 0) :
    (∃ r ∈ pairUp points, r.1 ≤ n ∧ n ≤ r.2) ↔ points.countP (· ≤ n) % 2 = 1 := by
  induction points using pairUp.induct with
  | case1 start stop more ih =>
    simp only [List.pairwise_cons, List.forall_mem_cons] at sorted
    obtain ⟨⟨less, -⟩, above, sorted⟩ := sorted
    have later := ih sorted (by simp only [List.length_cons] at even; omega)
    have none (h : n < stop) : more.countP (· ≤ n) = 0 :=
      List.countP_eq_zero.2 fun m mem => by
        have := above m mem
        simp only [decide_eq_true_eq]
        omega
    simp only [pairUp, List.exists_mem_cons_iff, later, List.countP_cons, decide_eq_true_eq]
    rcases Nat.lt_or_ge n stop with h | h
    · rw [none h]
      split <;> split <;> omega
    · split <;> split <;> omega
  | case2 points notTwo =>
    match points with
    | [] => simp [pairUp]
    | [_] => simp at even
    | start :: stop :: more => exact absurd rfl (notTwo start stop more)

namespace CharClass

variable {set a b : CharClass}

theorem mem_withBounds (h : n ∈ points) : n ∈ set.withBounds points := by
  induction set generalizing points with
  | none | any => exact h
  | range first last => simp [withBounds, h]
  | union a b iha ihb | inter a b iha ihb | diff a b iha ihb | symmDiff a b iha ihb =>
    exact iha (ihb h)
  | compl a ih => exact ih h

theorem pairwise_withBounds (h : points.Pairwise (· < ·)) :
    (set.withBounds points).Pairwise (· < ·) := by
  induction set generalizing points with
  | none | any => exact h
  | range first last => exact pairwise_insertPoint (pairwise_insertPoint h)
  | union a b iha ihb | inter a b iha ihb | diff a b iha ihb | symmDiff a b iha ihb =>
    exact iha (ihb h)
  | compl a ih => exact ih h

/-! ### Where membership changes -/

theorem le_iff_toNat_le {c d : Char} : c ≤ d ↔ c.toNat ≤ d.toNat :=
  Iff.rfl

theorem toNat_ofNat (h : n.isValidChar) : (Char.ofNat n).toNat = n := by
  rw [Char.ofNat, dif_pos h]
  rfl

theorem holdsAt_iff : set.holdsAt n = true ↔ ∃ c : Char, c.toNat = n ∧ set.contains c = true := by
  rw [holdsAt, Bool.and_eq_true, decide_eq_true_iff]
  constructor
  · intro h
    exact ⟨Char.ofNat n, toNat_ofNat h.1, h.2⟩
  · intro h
    obtain ⟨c, rfl, member⟩ := h
    exact ⟨c.valid, by rwa [Char.ofNat_toNat]⟩

/-- Membership does not change where no range of the written set starts or has ended. -/
theorem contains_succ (h : n + 1 ∉ set.withBounds points) (valid : n.isValidChar)
    (valid' : (n + 1).isValidChar) :
    set.contains (Char.ofNat (n + 1)) = set.contains (Char.ofNat n) := by
  induction set generalizing points with
  | none | any => rfl
  | range first last =>
    simp only [withBounds, mem_insertPoint_iff, not_or] at h
    simp only [contains, le_iff_toNat_le, toNat_ofNat valid, toNat_ofNat valid',
      Bool.and_eq_decide, decide_eq_true_eq, decide_eq_decide]
    omega
  | union a b iha ihb | inter a b iha ihb | diff a b iha ihb | symmDiff a b iha ihb =>
    have notFirst : n + 1 ∉ a.withBounds (b.withBounds points) := h
    have notSecond : n + 1 ∉ b.withBounds points := fun mem => notFirst (mem_withBounds mem)
    simp only [contains, iha notFirst, ihb notSecond]
  | compl a ih => simp only [contains, ih h]

theorem mem_switches_iff : n ∈ set.switches ↔ set.changesAt n = true := by
  rw [switches, List.mem_filter]
  refine ⟨And.right, fun changes => ⟨?_, changes⟩⟩
  by_contra notBound
  have notEdge : n ∉ edges := fun mem => notBound (mem_withBounds mem)
  simp only [edges, List.mem_cons, List.not_mem_nil, or_false, not_or] at notEdge
  cases n with
  | zero => exact notEdge.1 rfl
  | succ n =>
    have sameKind : (n + 1).isValidChar ↔ n.isValidChar := by
      simp only [Nat.isValidChar]
      omega
    by_cases valid : n.isValidChar
    · have same := contains_succ notBound valid (sameKind.2 valid)
      simp [changesAt, heldBefore, holdsAt, sameKind, same] at changes
    · simp [changesAt, heldBefore, holdsAt, sameKind, valid] at changes

theorem pairwise_switches : set.switches.Pairwise (· < ·) :=
  (pairwise_withBounds (by decide)).filter _

theorem holdsAt_eq_xor : set.holdsAt n = (set.changesAt n ^^ set.heldBefore n) := by
  rw [changesAt, Bool.xor_assoc, Bool.xor_self, Bool.xor_false]

/-- A code point is held if membership changes an odd number of times up to it. -/
theorem heldBefore_eq (n : Nat) :
    set.heldBefore n = decide (set.switches.countP (· < n) % 2 = 1) := by
  induction n with
  | zero => simp [heldBefore]
  | succ n ih =>
    rw [heldBefore, holdsAt_eq_xor, ih, countP_lt_succ, pairwise_switches.nodup.count,
      Bool.eq_iff_iff, Bool.xor_iff_ne]
    by_cases changes : set.changesAt n = true
    · rw [if_pos (mem_switches_iff.2 changes), changes, decide_eq_true_iff]
      simp only [ne_eq, Bool.true_eq, decide_eq_true_iff]
      omega
    · rw [if_neg (mt mem_switches_iff.1 changes), Bool.eq_false_iff.2 changes, Nat.add_zero]
      simp

theorem holdsAt_of_large (h : 0x110000 ≤ n) : set.holdsAt n = false := by
  have invalid : ¬ n.isValidChar := by
    simp only [Nat.isValidChar]
    omega
  simp [holdsAt, invalid]

theorem lt_of_mem_switches (h : n ∈ set.switches) : n < 0x110001 := by
  by_contra large
  obtain ⟨m, rfl⟩ := Nat.exists_eq_add_one.2 (show 0 < n by omega)
  have changes := mem_switches_iff.1 h
  simp only [changesAt, heldBefore] at changes
  rw [holdsAt_of_large (by omega), holdsAt_of_large (by omega)] at changes
  exact absurd changes (by decide)

theorem even_length_switches : set.switches.length % 2 = 0 := by
  have all : set.switches.countP (· < 0x110001) = set.switches.length :=
    List.countP_eq_length.2 fun k mem => decide_eq_true (lt_of_mem_switches mem)
  have ended : set.heldBefore 0x110001 = false := holdsAt_of_large le_rfl
  rw [heldBefore_eq, all, decide_eq_false_iff_not] at ended
  omega

/-- The numbers in the ranges of a set are the code points of its members. -/
theorem exists_mem_ranges_iff :
    (∃ r ∈ set.ranges, r.1 ≤ n ∧ n ≤ r.2) ↔ ∃ c : Char, c.toNat = n ∧ set.contains c = true := by
  have held : set.holdsAt n = decide (set.switches.countP (· ≤ n) % 2 = 1) := by
    simp only [← Nat.lt_succ_iff]
    exact heldBefore_eq (n + 1)
  rw [ranges, exists_mem_pairUp_iff pairwise_switches even_length_switches, ← holdsAt_iff, held,
    decide_eq_true_iff]

/-- Sets with the same members have the same ranges. -/
theorem ranges_congr (h : ∀ c, a.contains c = b.contains c) : a.ranges = b.ranges := by
  have holds (n : Nat) : a.holdsAt n = b.holdsAt n := by simp only [holdsAt, h]
  have held (n : Nat) : a.heldBefore n = b.heldBefore n := by
    cases n with
    | zero => rfl
    | succ n => exact holds n
  have switches : a.switches = b.switches :=
    pairwise_switches.eq_of_mem_iff pairwise_switches fun n => by
      simp only [mem_switches_iff, changesAt, holds, held]
  rw [ranges, ranges, switches]

/-- Sets with the same members are of the same size, whatever they are written with. -/
theorem size_congr (h : ∀ c, a.contains c = b.contains c) : a.size = b.size := by
  rw [size, size, ranges_congr h]

end CharClass

end PathGlob.Expression
