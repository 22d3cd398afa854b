import PathGlob.Proofs.Expression.Ranges
import PathGlob.Proofs.Text.Bytes

/-!
# PathGlob.Proofs.Expression.Size

**The sequences of a set are the UTF-8 forms of its members** (`CharClass.accepts_byteRanges_iff`):
what the automaton of a set of characters reads, by whose states the size of an expression is
counted, are the bytes of the members and nothing else.

A range of numbers is cut into blocks that have the same first byte. What the sequences of a part
accept are always the forms of certain numbers (`Covers`), so the parts are put together by what is
known of these numbers.
-/

namespace PathGlob.Expression

theorem room_pos : ∀ count, 0 < room count
  | 0 => Nat.zero_lt_one
  | count + 1 => Nat.mul_pos (room_pos count) (by decide)

/-- The number in a first byte and `more` bytes of six bits each. -/
def formOf (lead : Nat) : Nat → Nat → List Nat
  | 0, n => [lead + n]
  | more + 1, n => (lead + n / room (more + 1)) :: formOf 0x80 more (n % room (more + 1))

/-- The bytes go through one of the sequences of ranges. -/
def Accepts (sequences : List (List (Nat × Nat))) (bytes : List Nat) : Prop :=
  ∃ sequence ∈ sequences, List.Forall₂ (fun b r => r.1 ≤ b ∧ b ≤ r.2) bytes sequence

/-- The sequences accept the forms of the numbers of a kind and nothing else. -/
def Covers (sequences : List (List (Nat × Nat))) (lead more : Nat) (kind : Nat → Prop) : Prop :=
  ∀ bytes, Accepts sequences bytes ↔ ∃ n, kind n ∧ bytes = formOf lead more n

variable {lead more first last low high top : Nat} {kind other : Nat → Prop}
  {a b : List (List (Nat × Nat))} {bytes : List Nat}

namespace Covers

theorem nil (h : ∀ n, ¬ kind n) : Covers [] lead more kind := by
  intro bytes
  constructor
  · rintro ⟨sequence, mem, -⟩
    cases mem
  · rintro ⟨n, isKind, -⟩
    exact absurd isKind (h n)

theorem append (h : Covers a lead more kind) (h' : Covers b lead more other) :
    Covers (a ++ b) lead more fun n => kind n ∨ other n := by
  intro bytes
  have parts : Accepts (a ++ b) bytes ↔ Accepts a bytes ∨ Accepts b bytes := by
    simp only [Accepts, List.mem_append, or_and_right, exists_or]
  rw [parts, h, h']
  simp only [or_and_right, exists_or]

theorem congr (h : Covers a lead more kind) (same : ∀ n, kind n ↔ other n) :
    Covers a lead more other := by
  intro bytes
  rw [h]
  simp only [same]

end Covers

/-! ### Blocks -/

theorem accepts_map_cons_iff {r : Nat × Nat} :
    Accepts (a.map (r :: ·)) bytes ↔
      ∃ x rest, bytes = x :: rest ∧ (r.1 ≤ x ∧ x ≤ r.2) ∧ Accepts a rest := by
  constructor
  · rintro ⟨_, mem, through⟩
    obtain ⟨sequence, inner, rfl⟩ := List.mem_map.1 mem
    obtain ⟨x, rest, first, others, rfl⟩ := List.forall₂_cons_right_iff.1 through
    exact ⟨x, rest, rfl, first, sequence, inner, others⟩
  · rintro ⟨x, rest, rfl, first, sequence, mem, others⟩
    exact ⟨r :: sequence, List.mem_map_of_mem mem, .cons first others⟩

/-- Numbers of one block have the same first byte. -/
theorem formOf_block {m : Nat} (lead top : Nat) (less : m < room (more + 1)) :
    formOf lead (more + 1) (room (more + 1) * top + m) = (lead + top) :: formOf 0x80 more m := by
  rw [formOf, Nat.mul_add_div (room_pos _), Nat.div_eq_of_lt less, Nat.mul_add_mod,
    Nat.mod_eq_of_lt less, Nat.add_zero]

theorem Covers.inBlock (h : Covers a 0x80 more fun m => first ≤ m ∧ m ≤ last)
    (small : last < room (more + 1)) (lead top : Nat) :
    Covers (a.map ((lead + top, lead + top) :: ·)) lead (more + 1) fun n =>
      room (more + 1) * top + first ≤ n ∧ n ≤ room (more + 1) * top + last := by
  intro bytes
  rw [accepts_map_cons_iff]
  constructor
  · rintro ⟨x, rest, rfl, ⟨low, high⟩, others⟩
    obtain ⟨m, bounds, rfl⟩ := (h rest).1 others
    obtain rfl : x = lead + top := Nat.le_antisymm high low
    exact ⟨room (more + 1) * top + m, by omega, (formOf_block lead top (by omega)).symm⟩
  · rintro ⟨n, bounds, rfl⟩
    obtain ⟨m, rfl⟩ : ∃ m, n = room (more + 1) * top + m := ⟨n - room (more + 1) * top, by omega⟩
    exact ⟨_, _, formOf_block lead top (by omega), ⟨Nat.le_refl _, Nat.le_refl _⟩,
      (h _).2 ⟨m, by omega, rfl⟩⟩

/-- Bytes behind the first one may be anything that has six bits of its own. -/
theorem forall₂_replicate_iff : ∀ {more : Nat} {bytes : List Nat},
    List.Forall₂ (fun b r => r.1 ≤ b ∧ b ≤ r.2) bytes
        (List.replicate (more + 1) ((0x80, 0xBF) : Nat × Nat)) ↔
      ∃ m < room (more + 1), bytes = formOf 0x80 more m
  | 0, bytes => by
    have block : room (0 + 1) = 64 := rfl
    rw [List.replicate_one, List.forall₂_cons_right_iff]
    simp only [List.forall₂_nil_right_iff, formOf]
    constructor
    · rintro ⟨x, _, ⟨low, high⟩, rfl, rfl⟩
      exact ⟨x - 0x80, by omega, by rw [Nat.add_sub_cancel' low]⟩
    · rintro ⟨m, less, rfl⟩
      exact ⟨_, _, by omega, rfl, rfl⟩
  | more + 1, bytes => by
    rw [List.replicate_succ, List.forall₂_cons_right_iff]
    simp only [forall₂_replicate_iff]
    have block : room (more + 1 + 1) = room (more + 1) * 64 := rfl
    constructor
    · rintro ⟨x, _, ⟨low, high⟩, ⟨m, less, rfl⟩, rfl⟩
      refine ⟨room (more + 1) * (x - 0x80) + m, ?_, ?_⟩
      · have top : room (more + 1) * (x - 0x80 + 1) ≤ room (more + 1) * 64 :=
          Nat.mul_le_mul_left _ (by omega)
        rw [Nat.mul_succ] at top
        omega
      · rw [formOf_block _ _ less, Nat.add_sub_cancel' low]
    · rintro ⟨m, less, rfl⟩
      have top : m / room (more + 1) < 64 := Nat.div_lt_of_lt_mul (block ▸ less)
      have below : 0x80 + m / room (more + 1) ≤ 0xBF := by omega
      exact ⟨_, _, ⟨Nat.le_add_right _ _, below⟩,
        ⟨_, Nat.mod_lt _ (room_pos _), rfl⟩, rfl⟩

/-- Whole blocks have a range of first bytes. -/
theorem covers_whole (lead more low high : Nat) :
    Covers
      (if low < high then
        [(lead + low, lead + (high - 1)) :: List.replicate (more + 1) ((0x80, 0xBF) : Nat × Nat)]
      else [])
      lead (more + 1) fun n => room (more + 1) * low ≤ n ∧ n < room (more + 1) * high := by
  split
  · next less =>
    intro bytes
    have single : Accepts [(lead + low, lead + (high - 1)) ::
        List.replicate (more + 1) ((0x80, 0xBF) : Nat × Nat)] bytes ↔ ∃ x rest,
          (lead + low ≤ x ∧ x ≤ lead + (high - 1)) ∧
            (∃ m < room (more + 1), rest = formOf 0x80 more m) ∧ bytes = x :: rest := by
      simp only [Accepts, List.mem_singleton, exists_eq_left, List.forall₂_cons_right_iff,
        forall₂_replicate_iff]
    rw [single]
    constructor
    · rintro ⟨x, _, ⟨above, below⟩, ⟨m, small, rfl⟩, rfl⟩
      obtain ⟨top, rfl⟩ : ∃ top, x = lead + top := ⟨x - lead, by omega⟩
      have lower := Nat.mul_le_mul_left (room (more + 1)) (show low ≤ top by omega)
      have upper := Nat.mul_le_mul_left (room (more + 1)) (show top + 1 ≤ high by omega)
      rw [Nat.mul_succ] at upper
      exact ⟨room (more + 1) * top + m, by omega, (formOf_block lead top small).symm⟩
    · rintro ⟨n, ⟨above, below⟩, rfl⟩
      have lower : low ≤ n / room (more + 1) := by
        rwa [Nat.le_div_iff_mul_le (room_pos _), Nat.mul_comm]
      have upper : n / room (more + 1) < high := Nat.div_lt_of_lt_mul below
      exact ⟨_, _, ⟨Nat.add_le_add_left lower lead, by omega⟩,
        ⟨_, Nat.mod_lt _ (room_pos _), rfl⟩, rfl⟩
  · next notLess =>
    refine .nil fun n bounds => ?_
    have := Nat.mul_le_mul_left (room (more + 1)) (Nat.le_of_not_lt notLess)
    omega

/-! ### Ranges of numbers -/

/-- Ranges within a block are covered by their sequences behind the first byte of the block. -/
def CoversBlocks (lead more : Nat) : Prop :=
  ∀ {first last : Nat}, first ≤ last → last < room (more + 1) → ∀ top : Nat,
    Covers ((sequences 0x80 more first last).map ((lead + top, lead + top) :: ·)) lead (more + 1)
      fun n => room (more + 1) * top + first ≤ n ∧ n ≤ room (more + 1) * top + last

/-- The first block that holds no number less than `first`. -/
def firstWhole (block first : Nat) : Nat :=
  if first % block = 0 then first / block else first / block + 1

/-- The first block behind those that hold no number greater than `last`. -/
def endWhole (block last : Nat) : Nat :=
  if last % block = block - 1 then last / block + 1 else last / block

theorem le_mul_firstWhole {block : Nat} (pos : 0 < block) (first : Nat) :
    first ≤ block * firstWhole block first := by
  have parts := Nat.div_add_mod first block
  have small := Nat.mod_lt first pos
  rw [firstWhole]
  split
  · omega
  · rw [Nat.mul_succ]
    omega

theorem mul_endWhole_le {block : Nat} (pos : 0 < block) (last : Nat) :
    block * endWhole block last ≤ last + 1 := by
  have parts := Nat.div_add_mod last block
  rw [endWhole]
  split
  · rw [Nat.mul_succ]
    omega
  · omega

theorem firstWhole_le_endWhole {block : Nat} (less : first / block < last / block) :
    firstWhole block first ≤ endWhole block last := by
  rw [firstWhole, endWhole]
  split <;> split <;> omega

/-- The block at the start, if it is there in part only. -/
theorem covers_front (inBlock : CoversBlocks lead more) (first : Nat) :
    Covers
      (if first % room (more + 1) = 0 then [] else
        (sequences 0x80 more (first % room (more + 1)) (room (more + 1) - 1)).map
          ((lead + first / room (more + 1), lead + first / room (more + 1)) :: ·))
      lead (more + 1) fun n =>
        first ≤ n ∧ n < room (more + 1) * firstWhole (room (more + 1)) first := by
  have parts := Nat.div_add_mod first (room (more + 1))
  have small := Nat.mod_lt first (room_pos (more + 1))
  rw [firstWhole]
  split
  · exact .nil fun n => by omega
  · refine (inBlock (by omega) (by omega) _).congr fun n => ?_
    rw [Nat.mul_succ]
    omega

/-- The block at the end, if it is there in part only. -/
theorem covers_back (inBlock : CoversBlocks lead more) (last : Nat) :
    Covers
      (if last % room (more + 1) = room (more + 1) - 1 then [] else
        (sequences 0x80 more 0 (last % room (more + 1))).map
          ((lead + last / room (more + 1), lead + last / room (more + 1)) :: ·))
      lead (more + 1) fun n =>
        room (more + 1) * endWhole (room (more + 1)) last ≤ n ∧ n ≤ last := by
  have parts := Nat.div_add_mod last (room (more + 1))
  have small := Nat.mod_lt last (room_pos (more + 1))
  rw [endWhole]
  split
  · refine .nil fun n => ?_
    rw [Nat.mul_succ]
    omega
  · refine (inBlock (Nat.zero_le _) small _).congr fun n => ?_
    omega

/-- The sequences of a range accept the forms of its numbers. -/
theorem covers_sequences (le : first ≤ last) :
    Covers (sequences lead more first last) lead more fun n => first ≤ n ∧ n ≤ last := by
  induction more generalizing lead first last with
  | zero =>
    intro bytes
    simp only [sequences, Accepts, List.mem_singleton, exists_eq_left,
      List.forall₂_cons_right_iff, List.forall₂_nil_right_iff, formOf]
    constructor
    · rintro ⟨x, _, ⟨low, high⟩, rfl, rfl⟩
      exact ⟨x - lead, by omega, by rw [Nat.add_sub_cancel' (by omega)]⟩
    · rintro ⟨n, bounds, rfl⟩
      exact ⟨_, _, by omega, rfl, rfl⟩
  | succ more ih =>
    have inBlock : CoversBlocks lead more := fun le small top => (ih le).inBlock small lead top
    have pos := room_pos (more + 1)
    have blocks : first / room (more + 1) ≤ last / room (more + 1) := Nat.div_le_div_right le
    simp only [sequences]
    split
    · next same =>
      have firstParts := Nat.div_add_mod first (room (more + 1))
      have lastParts := Nat.div_add_mod last (room (more + 1))
      rw [← same] at lastParts
      refine (inBlock (by omega) (Nat.mod_lt last pos) _).congr fun n => ?_
      omega
    · next other =>
      -- The three parts lie side by side, so that no number is between them
      have frontEnd := le_mul_firstWhole pos first
      have backStart := mul_endWhole_le pos last
      have between := Nat.mul_le_mul_left (room (more + 1))
        (firstWhole_le_endWhole (Nat.lt_of_le_of_ne blocks other))
      have front := covers_front inBlock first
      have whole := covers_whole lead more (firstWhole (room (more + 1)) first)
        (endWhole (room (more + 1)) last)
      refine ((front.append whole).append (covers_back inBlock last)).congr fun n => ?_
      omega

/-! ### The bytes of a character -/

/-- The masks of the bits that a byte of a character has, the mark in front of them, and how many
numbers there are in so many bits. -/
def masks : List (UInt8 × UInt8 × Nat) :=
  [(31, 192, 32), (15, 224, 16), (7, 240, 8), (63, 128, 64)]

theorem toNat_masked {x mask mark : UInt8} {count : Nat} (h : (mask, mark, count) ∈ masks) :
    (x &&& mask ||| mark).toNat = mark.toNat + x.toNat % count := by
  have all : ∀ m ∈ masks, ∀ n < 256,
      (UInt8.ofNat n &&& m.1 ||| m.2.1).toNat = m.2.1.toNat + n % m.2.2 := by decide +kernel
  have same := all _ h x.toNat x.toNat_lt
  rwa [UInt8.ofNat_toNat] at same

theorem toNat_shiftRight (c : Char) {k : UInt32} (small : k.toNat < 32) :
    (c.val >>> k).toUInt8.toNat = c.toNat >>> k.toNat % 256 := by
  rw [UInt32.toNat_toUInt8, UInt32.toNat_shiftRight, Nat.mod_eq_of_lt small]
  rfl

theorem toNat_toUInt8 (c : Char) : c.val.toUInt8.toNat = c.toNat % 256 :=
  UInt32.toNat_toUInt8 c.val

/-- The form of the numbers that a character is among is what it is encoded by. -/
theorem utf8_eq_formOf {c : Char} {form : Nat × Nat × Nat × Nat} (mem : form ∈ forms)
    (low : form.1 ≤ c.toNat) (high : c.toNat ≤ form.2.1) :
    (String.utf8EncodeChar c).map UInt8.toNat = formOf form.2.2.1 form.2.2.2 c.toNat := by
  have two : ((31, 192, 32) : UInt8 × UInt8 × Nat) ∈ masks := by decide
  have three : ((15, 224, 16) : UInt8 × UInt8 × Nat) ∈ masks := by decide
  have four : ((7, 240, 8) : UInt8 × UInt8 × Nat) ∈ masks := by decide
  have behind : ((63, 128, 64) : UInt8 × UInt8 × Nat) ∈ masks := by decide
  simp only [forms, List.mem_cons, List.not_mem_nil, or_false] at mem
  rcases mem with rfl | rfl | rfl | rfl
  all_goals dsimp only at low high
  · have size : c.utf8Size = 1 := Char.utf8Size_eq_one_iff.2 (UInt32.le_iff_toNat_le.2 high)
    rw [String.utf8EncodeChar_eq_singleton size, List.map_singleton, formOf, Nat.zero_add]
    exact congrArg (fun n => [n]) (Text.toNat_toUInt8 (Nat.lt_succ_of_le high))
  · have size : c.utf8Size = 2 := Char.utf8Size_eq_two_iff.2
      ⟨UInt32.lt_iff_toNat_lt.2 low, UInt32.le_iff_toNat_le.2 high⟩
    rw [String.utf8EncodeChar_eq_cons_cons size]
    simp only [List.map_cons, List.map_nil, toNat_masked two, toNat_masked behind, toNat_toUInt8,
      toNat_shiftRight c (by decide : (6 : UInt32).toNat < 32), formOf, UInt8.reduceToNat,
      UInt32.reduceToNat, Nat.shiftRight_eq_div_pow, Nat.reducePow, room, Nat.reduceMul,
      List.cons.injEq, and_true]
    omega
  · have size : c.utf8Size = 3 := Char.utf8Size_eq_three_iff.2
      ⟨UInt32.lt_iff_toNat_lt.2 low, UInt32.le_iff_toNat_le.2 high⟩
    rw [String.utf8EncodeChar_eq_cons_cons_cons size]
    simp only [List.map_cons, List.map_nil, toNat_masked three, toNat_masked behind, toNat_toUInt8,
      toNat_shiftRight c (by decide : (6 : UInt32).toNat < 32),
      toNat_shiftRight c (by decide : (12 : UInt32).toNat < 32), formOf, UInt8.reduceToNat,
      UInt32.reduceToNat, Nat.shiftRight_eq_div_pow, Nat.reducePow, room, Nat.reduceMul,
      List.cons.injEq, and_true]
    omega
  · have size : c.utf8Size = 4 := Char.utf8Size_eq_four_iff.2 (UInt32.lt_iff_toNat_lt.2 low)
    rw [String.utf8EncodeChar_eq_cons_cons_cons_cons size]
    simp only [List.map_cons, List.map_nil, toNat_masked four, toNat_masked behind, toNat_toUInt8,
      toNat_shiftRight c (by decide : (6 : UInt32).toNat < 32),
      toNat_shiftRight c (by decide : (12 : UInt32).toNat < 32),
      toNat_shiftRight c (by decide : (18 : UInt32).toNat < 32), formOf, UInt8.reduceToNat,
      UInt32.reduceToNat, Nat.shiftRight_eq_div_pow, Nat.reducePow, room, Nat.reduceMul,
      List.cons.injEq, and_true]
    omega

/-- Every character is among the numbers of a form. -/
theorem exists_form (c : Char) :
    ∃ form ∈ forms, form.1 ≤ c.toNat ∧ c.toNat ≤ form.2.1 := by
  have valid : c.toNat.isValidChar := c.valid
  have small : c.toNat < 0x110000 := by
    simp only [Nat.isValidChar] at valid
    omega
  simp only [forms, List.exists_mem_cons_iff, List.not_mem_nil, false_and, exists_false, or_false]
  omega

/-! ### Sets of characters -/

theorem accepts_flatMap_iff {α : Type} {items : List α} {f : α → List (List (Nat × Nat))} :
    Accepts (items.flatMap f) bytes ↔ ∃ item ∈ items, Accepts (f item) bytes := by
  constructor
  · rintro ⟨sequence, mem, through⟩
    obtain ⟨item, memItems, mem⟩ := List.mem_flatMap.1 mem
    exact ⟨item, memItems, sequence, mem, through⟩
  · rintro ⟨item, memItems, sequence, mem, through⟩
    exact ⟨sequence, List.mem_flatMap.2 ⟨item, memItems, mem⟩, through⟩

/-- A range of code points is cut where the number of bytes changes. -/
theorem accepts_byteRanges_iff {range : Nat × Nat} :
    Accepts (byteRanges range) bytes ↔ ∃ form ∈ forms, ∃ n,
      (max form.1 range.1 ≤ n ∧ n ≤ min form.2.1 range.2) ∧
        bytes = formOf form.2.2.1 form.2.2.2 n := by
  rw [byteRanges, accepts_flatMap_iff]
  refine exists_congr fun form => and_congr_right fun _ => ?_
  by_cases le : max form.1 range.1 ≤ min form.2.1 range.2
  · simp only [if_pos le]
    exact covers_sequences le bytes
  · simp only [if_neg le]
    exact Covers.nil (fun n bounds => le (bounds.1.trans bounds.2)) bytes

/-- **The sequences of a set are the UTF-8 forms of its members.** -/
theorem CharClass.accepts_byteRanges_iff {set : CharClass} :
    Accepts (set.ranges.flatMap byteRanges) bytes ↔
      ∃ c, set.contains c = true ∧ bytes = (String.utf8EncodeChar c).map UInt8.toNat := by
  simp only [accepts_flatMap_iff, Expression.accepts_byteRanges_iff, Nat.max_le, Nat.le_min]
  constructor
  · rintro ⟨range, mem, form, isForm, n, ⟨⟨low, first⟩, high, last⟩, rfl⟩
    obtain ⟨c, rfl, member⟩ := exists_mem_ranges_iff.1 ⟨range, mem, first, last⟩
    exact ⟨c, member, (utf8_eq_formOf isForm low high).symm⟩
  · rintro ⟨c, member, rfl⟩
    obtain ⟨range, mem, first, last⟩ := exists_mem_ranges_iff.2 ⟨c, rfl, member⟩
    obtain ⟨form, isForm, low, high⟩ := exists_form c
    exact ⟨range, mem, form, isForm, c.toNat, ⟨⟨low, first⟩, high, last⟩,
      utf8_eq_formOf isForm low high⟩

end PathGlob.Expression
