import PathGlob.Expression.Matching

/-!
# PathGlob.Proofs.Expression.Matching

**Matching with sets of cursors is exact.** `Expr.isMatch` computes, for every part of an
expression, the set of places where it may stop; `Expr.Matches` says what matching means by
relating the place where the expression starts to the place where it stops. The two agree
(`isMatch_iff_matches`).

A set of cursors is described by the texts that are left at its members (`Cursor.Marks`); every
operation on sets has one lemma about that description. The only operation with an argument of
its own is the repetition: it meets the places from the longest rest to the shortest, so a step
that takes no character can be left out (`takes_star_iff_progress`).
-/

namespace PathGlob

open Expression

/-! ### What expressions take -/

namespace Expr

variable {whole s t u : Text} {a b : Expr}

@[simp] theorem takes_empty : Takes whole empty s t ↔ s = t := by
  constructor
  · intro h
    cases h
    rfl
  · intro same
    obtain rfl := same
    exact .empty

@[simp] theorem takes_start : Takes whole start s t ↔ s = whole ∧ t = whole := by
  constructor
  · intro h
    cases h
    exact ⟨rfl, rfl⟩
  · intro h
    obtain ⟨rfl, rfl⟩ := h
    exact .start

@[simp] theorem takes_finish : Takes whole finish s t ↔ s = [] ∧ t = [] := by
  constructor
  · intro h
    cases h
    exact ⟨rfl, rfl⟩
  · intro h
    obtain ⟨rfl, rfl⟩ := h
    exact .finish

theorem takes_one {set : CharClass} :
    Takes whole (one set) s t ↔ ∃ c, set.contains c = true ∧ s = c :: t := by
  constructor
  · intro h
    cases h with
    | one mem => exact ⟨_, mem, rfl⟩
  · intro h
    obtain ⟨c, mem, rfl⟩ := h
    exact .one mem

theorem takes_seq :
    Takes whole (seq a b) s u ↔ ∃ t, Takes whole a s t ∧ Takes whole b t u := by
  constructor
  · intro h
    cases h with
    | seq first second => exact ⟨_, first, second⟩
  · intro h
    obtain ⟨t, first, second⟩ := h
    exact .seq first second

theorem takes_either :
    Takes whole (either a b) s t ↔ Takes whole a s t ∨ Takes whole b s t := by
  constructor
  · intro h
    cases h with
    | left h => exact Or.inl h
    | right h => exact Or.inr h
  · intro h
    rcases h with h | h
    · exact .left h
    · exact .right h

/-- What is left after matching is a rest of what was left before. -/
theorem Takes.suffix {e : Expr} (h : Takes whole e s t) : t <:+ s := by
  induction h with
  | empty | start | finish | starNil => exact List.suffix_rfl
  | one => exact List.suffix_cons _ _
  | seq _ _ ih₁ ih₂ | starCons _ _ ih₁ ih₂ => exact ih₂.trans ih₁
  | left _ ih | right _ ih => exact ih

/-- A repetition stops at once or makes a step that takes something. -/
theorem takes_star_iff_progress :
    Takes whole (star a) s u ↔
      s = u ∨ ∃ t, Takes whole a s t ∧ t.length < s.length ∧ Takes whole (star a) t u := by
  constructor
  · intro h
    generalize same : star a = e at h
    induction h with
    | starNil => exact Or.inl rfl
    | @starCons _ s t u step rest _ ih =>
      obtain rfl := Expr.star.inj same
      -- An idle step is left out: the rest of the repetition starts at the same place.
      by_cases idle : t = s
      · subst idle
        exact ih same
      · have shorter : t.length < s.length :=
          Nat.lt_of_le_of_ne step.suffix.length_le fun h => idle (step.suffix.eq_of_length h)
        exact Or.inr ⟨t, step, shorter, rest⟩
    | _ => cases same
  · intro h
    rcases h with rfl | ⟨t, step, -, rest⟩
    · exact .starNil
    · exact .starCons step rest

/-- From one start and others, a repetition stops at the one or goes on from the others and from
where a step has led. -/
theorem takes_star_cons {others : Text → Prop} :
    (u = s ∨ ∃ t, (others t ∨ Takes whole a s t ∧ t.length < s.length) ∧
        Takes whole (star a) t u) ↔
      ∃ t, (t = s ∨ others t) ∧ Takes whole (star a) t u := by
  constructor
  · intro h
    rcases h with rfl | ⟨t, other | ⟨first, -⟩, rest⟩
    · exact ⟨u, Or.inl rfl, .starNil⟩
    · exact ⟨t, Or.inr other, rest⟩
    · exact ⟨s, Or.inl rfl, .starCons first rest⟩
  · intro h
    obtain ⟨t, rfl | other, rest⟩ := h
    · rcases takes_star_iff_progress.1 rest with same | ⟨v, first, progress, rest⟩
      · exact Or.inl same.symm
      · exact Or.inr ⟨v, Or.inr ⟨first, progress⟩, rest⟩
    · exact Or.inr ⟨t, Or.inl other, rest⟩

end Expr

/-! ### Sets of cursors -/

namespace Expression.Cursor

/-- A cursor is determined by what is left of the text. -/
theorem eq_of_rest {a b : Cursor} (h : a.rest = b.rest) : a = b := by
  obtain ⟨rest, left, rfl⟩ := a
  obtain ⟨rest', left', rfl⟩ := b
  obtain rfl : rest = rest' := h
  rfl

/-- Cursors into a text in strictly descending order. -/
structure Places (text : Text) (cursors : List Cursor) : Prop where
  suffix : ∀ cursor ∈ cursors, cursor.rest <:+ text
  descending : cursors.Pairwise fun a b => b.left < a.left

/-- The cursors are the places of `text` where what is left satisfies `holds`. -/
structure Marks (text : Text) (cursors : List Cursor) (holds : Text → Prop) : Prop
    extends Places text cursors where
  reached : ∀ t, (∃ cursor ∈ cursors, cursor.rest = t) ↔ holds t

variable {text : Text} {as bs cursors : List Cursor} {cursor : Cursor} {holds : Text → Prop}

theorem Places.nil : Places text [] := ⟨by simp, .nil⟩

theorem places_cons :
    Places text (cursor :: cursors) ↔
      cursor.rest <:+ text ∧ (∀ other ∈ cursors, other.left < cursor.left) ∧
        Places text cursors := by
  constructor
  · intro h
    obtain ⟨suffix, descending⟩ := h
    obtain ⟨head, tail⟩ := List.pairwise_cons.1 descending
    exact ⟨suffix cursor (by simp), head, fun c mem => suffix c (by simp [mem]), tail⟩
  · intro h
    obtain ⟨suffix, head, places⟩ := h
    refine ⟨fun c mem => ?_, List.pairwise_cons.2 ⟨head, places.descending⟩⟩
    rcases List.mem_cons.1 mem with rfl | mem
    · exact suffix
    · exact places.suffix c mem

/-- Two places of one text with as many characters left are the same. -/
theorem eq_of_left {a b : Cursor} (ha : a.rest <:+ text) (hb : b.rest <:+ text)
    (h : a.left = b.left) : a = b := by
  rw [a.left_eq, b.left_eq] at h
  exact eq_of_rest ((List.suffix_of_suffix_length_le ha hb (Nat.le_of_eq h)).eq_of_length h)

theorem mem_merge (ha : Places text as) (hb : Places text bs) :
    cursor ∈ merge as bs ↔ cursor ∈ as ∨ cursor ∈ bs := by
  fun_induction merge as bs with
  | case1 => simp
  | case2 => simp
  | case3 a as b bs _ ih =>
    rw [List.mem_cons, ih (places_cons.1 ha).2.2 hb, List.mem_cons (l := as), or_assoc]
  | case4 a as b bs _ _ ih =>
    rw [List.mem_cons, ih ha (places_cons.1 hb).2.2, List.mem_cons (l := bs), or_left_comm]
  | case5 a as b bs hba hab ih =>
    have same : a = b :=
      eq_of_left (places_cons.1 ha).1 (places_cons.1 hb).1 (by omega)
    rw [List.mem_cons, ih (places_cons.1 ha).2.2 (places_cons.1 hb).2.2, List.mem_cons,
      List.mem_cons, ← same]
    exact or_or_distrib_left

theorem Places.merge (ha : Places text as) (hb : Places text bs) :
    Places text (merge as bs) := by
  refine ⟨fun c mem => ((mem_merge ha hb).1 mem).elim (ha.suffix c) (hb.suffix c), ?_⟩
  fun_induction Cursor.merge as bs with
  | case1 => exact hb.descending
  | case2 => exact ha.descending
  | case3 a as b bs hba ih =>
    obtain ⟨_, headA, tailA⟩ := places_cons.1 ha
    obtain ⟨_, headB, _⟩ := places_cons.1 hb
    refine List.pairwise_cons.2 ⟨fun c mem => ?_, ih tailA hb⟩
    rcases (mem_merge tailA hb).1 mem with mem | mem
    · exact headA c mem
    · rcases List.mem_cons.1 mem with rfl | mem
      · exact hba
      · exact Nat.lt_trans (headB c mem) hba
  | case4 a as b bs _ hab ih =>
    obtain ⟨_, headA, _⟩ := places_cons.1 ha
    obtain ⟨_, headB, tailB⟩ := places_cons.1 hb
    refine List.pairwise_cons.2 ⟨fun c mem => ?_, ih ha tailB⟩
    rcases (mem_merge ha tailB).1 mem with mem | mem
    · rcases List.mem_cons.1 mem with rfl | mem
      · exact hab
      · exact Nat.lt_trans (headA c mem) hab
    · exact headB c mem
  | case5 a as b bs hba hab ih =>
    obtain ⟨_, headA, tailA⟩ := places_cons.1 ha
    obtain ⟨_, headB, tailB⟩ := places_cons.1 hb
    refine List.pairwise_cons.2 ⟨fun c mem => ?_, ih tailA tailB⟩
    rcases (mem_merge tailA tailB).1 mem with mem | mem
    · exact headA c mem
    · have := headB c mem
      omega

theorem Marks.merge {holds' : Text → Prop} (ha : Marks text as holds)
    (hb : Marks text bs holds') : Marks text (merge as bs) fun t => holds t ∨ holds' t where
  toPlaces := ha.toPlaces.merge hb.toPlaces
  reached t := by
    simp only [mem_merge ha.toPlaces hb.toPlaces, ← ha.reached, ← hb.reached, or_and_right,
      exists_or]

theorem Marks.filter (h : Marks text cursors holds) (keep : Cursor → Bool) (kept : Text → Prop)
    (same : ∀ cursor, cursor.rest <:+ text → (keep cursor = true ↔ kept cursor.rest)) :
    Marks text (cursors.filter keep) fun t => holds t ∧ kept t where
  suffix c mem := h.suffix c (List.mem_filter.1 mem).1
  descending := h.descending.filter _
  reached t := by
    rw [← h.reached]
    constructor
    · intro found
      obtain ⟨c, mem, rfl⟩ := found
      obtain ⟨mem, keeps⟩ := List.mem_filter.1 mem
      exact ⟨⟨c, mem, rfl⟩, (same c (h.suffix c mem)).1 keeps⟩
    · intro found
      obtain ⟨⟨c, mem, rfl⟩, keeps⟩ := found
      exact ⟨c, List.mem_filter.2 ⟨mem, (same c (h.suffix c mem)).2 keeps⟩, rfl⟩

theorem Marks.congr {holds' : Text → Prop} (h : Marks text cursors holds)
    (same : ∀ t, holds t ↔ holds' t) : Marks text cursors holds' where
  toPlaces := h.toPlaces
  reached t := (h.reached t).trans (same t)

theorem Places.marks (h : Places text cursors) :
    Marks text cursors fun t => ∃ cursor ∈ cursors, cursor.rest = t where
  toPlaces := h
  reached _ := Iff.rfl

theorem Marks.cons (h : Marks text cursors holds) (suffix : cursor.rest <:+ text)
    (less : ∀ other ∈ cursors, other.left < cursor.left) :
    Marks text (cursor :: cursors) fun t => t = cursor.rest ∨ holds t where
  toPlaces := places_cons.2 ⟨suffix, less, h.toPlaces⟩
  reached t := by
    rw [← h.reached]
    simp [eq_comm]

theorem marks_single (cursor : Cursor) (suffix : cursor.rest <:+ text) :
    Marks text [cursor] (· = cursor.rest) where
  toPlaces := places_cons.2 ⟨suffix, by simp, .nil⟩
  reached t := by simp [eq_comm]

theorem marks_all (text : Text) : Marks text (all text) fun t => t <:+ text := by
  induction text with
  | nil =>
    have single : Marks [] (all []) (· = []) := marks_single (ofText []) List.suffix_rfl
    exact single.congr fun t => List.suffix_nil.symm
  | cons c rest ih =>
    have wider : Marks (c :: rest) (all rest) fun t => t <:+ rest :=
      ⟨⟨fun cursor mem => (ih.suffix cursor mem).trans (List.suffix_cons c rest), ih.descending⟩,
        ih.reached⟩
    refine (wider.cons List.suffix_rfl fun cursor mem => ?_).congr fun t => ?_
    · have := (ih.suffix cursor mem).length_le
      rw [cursor.left_eq]
      exact Nat.lt_succ_of_le this
    · exact List.suffix_cons_iff.symm

theorem take_eq_some {set : CharClass} {after : Cursor} :
    cursor.take set = some after ↔ ∃ c, set.contains c = true ∧ cursor.rest = c :: after.rest := by
  unfold Cursor.take
  split
  · next h => simp [h]
  · next c rest h =>
    by_cases mem : set.contains c = true
    · rw [if_pos mem, Option.some.injEq]
      constructor
      · intro same
        obtain rfl := same
        exact ⟨c, mem, h⟩
      · intro found
        obtain ⟨d, -, same⟩ := found
        exact eq_of_rest (List.cons.inj (h.symm.trans same)).2
    · rw [if_neg mem]
      constructor
      · intro taken
        cases taken
      · intro found
        obtain ⟨d, mem', same⟩ := found
        exact absurd ((List.cons.inj (h.symm.trans same)).1 ▸ mem') mem

theorem Marks.take (h : Marks text cursors holds) (set : CharClass) :
    Marks text (cursors.filterMap (Cursor.take set)) fun t =>
      ∃ c, set.contains c = true ∧ holds (c :: t) where
  suffix after mem := by
    obtain ⟨cursor, mem, taken⟩ := List.mem_filterMap.1 mem
    obtain ⟨c, -, same⟩ := take_eq_some.1 taken
    exact (List.suffix_cons c after.rest).trans (same ▸ h.suffix cursor mem)
  descending := by
    refine List.pairwise_filterMap.2 (h.descending.imp fun {a b} less a' ha b' hb => ?_)
    obtain ⟨c, -, sameA⟩ := take_eq_some.1 ha
    obtain ⟨d, -, sameB⟩ := take_eq_some.1 hb
    rw [a.left_eq, b.left_eq, sameA, sameB] at less
    rw [a'.left_eq, b'.left_eq]
    exact Nat.lt_of_succ_lt_succ less
  reached t := by
    constructor
    · intro found
      obtain ⟨after, mem, rfl⟩ := found
      obtain ⟨cursor, mem, taken⟩ := List.mem_filterMap.1 mem
      obtain ⟨c, contained, same⟩ := take_eq_some.1 taken
      exact ⟨c, contained, (h.reached _).1 ⟨cursor, mem, same⟩⟩
    · intro found
      obtain ⟨c, contained, held⟩ := found
      obtain ⟨cursor, mem, same⟩ := (h.reached _).2 held
      exact ⟨ofText t, List.mem_filterMap.2 ⟨cursor, mem, take_eq_some.2 ⟨c, contained, same⟩⟩,
        rfl⟩

/-- Steps that take what `body` takes are repeated to what its repetition takes, if they begin at
cursors with at most `left` characters left. -/
theorem Marks.closure {body : Expr} {step : Cursor → List Cursor}
    (steps : ∀ cursor, cursor.rest <:+ text →
      Marks text (step cursor) (Expr.Takes text body cursor.rest))
    (left : Nat) (h : Marks text cursors holds) (le : ∀ cursor ∈ cursors, cursor.left ≤ left) :
    Marks text (closure step left cursors)
      fun t => ∃ s, holds s ∧ Expr.Takes text (.star body) s t := by
  fun_induction Cursor.closure step left cursors generalizing holds with
  | case1 cursors =>
    -- Only the end of the text is left, where no step takes anything.
    refine h.congr fun t => ⟨fun held => ⟨t, held, .starNil⟩, ?_⟩
    intro found
    obtain ⟨s, held, taken⟩ := found
    obtain ⟨cursor, mem, rfl⟩ := (h.reached s).2 held
    have none : cursor.rest = [] := by
      rw [← List.length_eq_zero_iff, ← cursor.left_eq]
      exact Nat.le_zero.1 (le cursor mem)
    rw [none] at taken held
    rwa [List.suffix_nil.1 taken.suffix]
  | case2 =>
    refine h.congr fun t => ⟨fun held => ⟨t, held, .starNil⟩, ?_⟩
    intro found
    obtain ⟨s, held, -⟩ := found
    obtain ⟨cursor, mem, -⟩ := (h.reached s).2 held
    cases mem
  | case3 left cursor more first ih =>
    -- The first cursor is kept, and the places that its steps reach join the cursors behind it.
    obtain ⟨suffix, less, places⟩ := places_cons.1 h.toPlaces
    have stepped : Marks text ((step cursor).filter fun after => after.left < cursor.left)
        fun t => Expr.Takes text body cursor.rest t ∧ t.length < cursor.rest.length :=
      (steps cursor suffix).filter _ _ fun after _ => by
        rw [decide_eq_true_eq, after.left_eq, cursor.left_eq]
    have later := ih (places.marks.merge stepped) fun c mem => by
      have : c.left < cursor.left := by
        rcases (mem_merge places stepped.toPlaces).1 mem with mem | mem
        · exact less c mem
        · exact of_decide_eq_true (List.mem_filter.1 mem).2
      omega
    have shorter : ∀ c ∈ Cursor.closure step left (Cursor.merge more
        ((step cursor).filter fun after => after.left < cursor.left)), c.left < cursor.left := by
      intro c mem
      obtain ⟨s, started, taken⟩ := (later.reached _).1 ⟨c, mem, rfl⟩
      have shrunk := taken.suffix.length_le
      rw [c.left_eq, cursor.left_eq]
      rcases started with ⟨other, mem, rfl⟩ | ⟨-, progress⟩
      · have := less other mem
        rw [other.left_eq, cursor.left_eq] at this
        omega
      · omega
    have heads : ∀ s, holds s ↔ s = cursor.rest ∨ ∃ other ∈ more, other.rest = s := by
      intro s
      rw [← h.reached]
      simp [eq_comm]
    refine (later.cons suffix shorter).congr fun t => ?_
    simp only [Expr.takes_star_cons, heads]
  | case4 left cursor more other ih =>
    -- No cursor has as many characters left as the bound allows.
    obtain ⟨_, less, _⟩ := places_cons.1 h.toPlaces
    have below : cursor.left ≤ left := by
      have := le cursor (by simp)
      omega
    refine ih h fun c mem => ?_
    rcases List.mem_cons.1 mem with rfl | mem
    · exact below
    · exact Nat.le_of_lt (Nat.lt_of_lt_of_le (less c mem) below)

end Expression.Cursor

/-! ### Main result -/

namespace Expr

open Expression.Cursor

variable {text : Text}

/-- The cursors where an expression may stop are the places up to which it takes. -/
theorem advance_marks (e : Expr) {cursors : List Cursor} {holds : Text → Prop}
    (h : Marks text cursors holds) :
    Marks text (e.advance text.length cursors) fun t => ∃ s, holds s ∧ Takes text e s t := by
  induction e generalizing cursors holds with
  | empty => exact h.congr fun t => by simp
  | start =>
    refine (h.filter _ (· = text) fun cursor suffix => ?_).congr fun t => ?_
    · rw [decide_eq_true_eq, cursor.left_eq]
      exact ⟨suffix.eq_of_length, fun h => h ▸ rfl⟩
    · simp only [takes_start]
      constructor
      · intro found
        obtain ⟨held, rfl⟩ := found
        exact ⟨t, held, rfl, rfl⟩
      · intro found
        obtain ⟨s, held, rfl, rfl⟩ := found
        exact ⟨held, rfl⟩
  | finish =>
    refine (h.filter _ (· = []) fun cursor _ => ?_).congr fun t => ?_
    · rw [decide_eq_true_eq, cursor.left_eq, List.length_eq_zero_iff]
    · simp only [takes_finish]
      constructor
      · intro found
        obtain ⟨held, rfl⟩ := found
        exact ⟨[], held, rfl, rfl⟩
      · intro found
        obtain ⟨s, held, rfl, rfl⟩ := found
        exact ⟨held, rfl⟩
  | one set =>
    refine (h.take set).congr fun t => ?_
    simp only [takes_one]
    constructor
    · intro found
      obtain ⟨c, contained, held⟩ := found
      exact ⟨c :: t, held, c, contained, rfl⟩
    · intro found
      obtain ⟨s, held, c, contained, rfl⟩ := found
      exact ⟨c, contained, held⟩
  | seq first second ihFirst ihSecond =>
    refine (ihSecond (ihFirst h)).congr fun u => ?_
    simp only [takes_seq]
    constructor
    · intro found
      obtain ⟨t, ⟨s, held, one⟩, two⟩ := found
      exact ⟨s, held, t, one, two⟩
    · intro found
      obtain ⟨s, held, t, one, two⟩ := found
      exact ⟨t, ⟨s, held, one⟩, two⟩
  | either left right ihLeft ihRight =>
    refine ((ihLeft h).merge (ihRight h)).congr fun t => ?_
    simp only [takes_either, and_or_left, exists_or]
  | star body ih =>
    refine h.closure (fun cursor suffix => ?_) text.length fun cursor mem => ?_
    · -- A step starts from one cursor alone.
      exact (ih (marks_single cursor suffix)).congr fun t => by simp
    · rw [cursor.left_eq]
      exact (h.suffix cursor mem).length_le

/-- **Matching decides the meaning of expressions.** -/
theorem isMatch_iff_matches (e : Expr) (text : Text) : e.isMatch text = true ↔ e.Matches text := by
  have reached := (advance_marks e (marks_all text)).reached
  rw [isMatch, Bool.not_eq_true', List.isEmpty_eq_false_iff_exists_mem]
  constructor
  · intro h
    obtain ⟨cursor, mem⟩ := h
    obtain ⟨s, suffix, taken⟩ := (reached cursor.rest).1 ⟨cursor, mem, rfl⟩
    exact ⟨s, cursor.rest, suffix, taken⟩
  · intro h
    obtain ⟨s, t, suffix, taken⟩ := h
    obtain ⟨cursor, mem, -⟩ := (reached t).2 ⟨s, suffix, taken⟩
    exact ⟨cursor, mem⟩

end Expr

end PathGlob
