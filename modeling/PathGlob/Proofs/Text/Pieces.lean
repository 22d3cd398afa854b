import PathGlob.Text.Pieces

/-!
# PathGlob.Proofs.Text.Pieces

**Cutting and joining are inverse.** Everything follows from what cutting does at one separator
(`pieces_append_cons`): the pieces hold no separator, and texts without separators are the pieces
of what they are joined to.
-/

namespace PathGlob.Text

variable {separator : Char} {s t piece : Text}

theorem pieces_of_not_mem (h : separator ∉ t) : pieces separator t = [t] := by
  induction t with
  | nil => rfl
  | cons c t ih =>
    rw [List.mem_cons, not_or] at h
    rw [pieces, if_neg (Ne.symm h.1), ih h.2]
    rfl

/-- A separator ends the last piece of what is in front of it. -/
theorem pieces_append_cons (separator : Char) (s t : Text) :
    pieces separator (s ++ separator :: t) = pieces separator s ++ pieces separator t := by
  induction s with
  | nil => simp [pieces]
  | cons c s ih =>
    rw [List.cons_append, pieces, ih, pieces]
    by_cases h : c = separator
    · rw [if_pos h, if_pos h, List.cons_append]
    · rw [if_neg h, if_neg h]
      cases front : pieces separator s with
      | nil => exact absurd front (pieces_ne_nil separator s)
      | cons piece more => rfl

theorem not_mem_of_mem_pieces (h : piece ∈ pieces separator t) : separator ∉ piece := by
  induction t generalizing piece with
  | nil =>
    rw [pieces, List.mem_singleton] at h
    simp [h]
  | cons c t ih =>
    rw [pieces] at h
    split at h
    · rcases List.mem_cons.1 h with rfl | h
      · exact List.not_mem_nil
      · exact ih h
    · next ne =>
      cases tail : pieces separator t with
      | nil => exact absurd tail (pieces_ne_nil separator t)
      | cons head more =>
        rw [tail, List.modifyHead_cons] at h
        rcases List.mem_cons.1 h with rfl | h
        · rw [List.mem_cons, not_or]
          exact ⟨Ne.symm ne, ih (by simp [tail])⟩
        · exact ih (by simp [tail, h])

/-- Joining and cutting again loses nothing, if no item holds a separator. -/
theorem pieces_join {items : List Text} (ne : items ≠ []) (h : ∀ item ∈ items, separator ∉ item) :
    pieces separator (join separator items) = items := by
  induction items with
  | nil => exact absurd rfl ne
  | cons item items ih =>
    have head := pieces_of_not_mem (h item (by simp))
    cases items with
    | nil => exact head
    | cons next more =>
      rw [join, pieces_append_cons, head,
        ih (List.cons_ne_nil next more) fun item mem => h item (List.mem_cons_of_mem _ mem)]
      rfl

/-- A text has just one cut. -/
theorem cut_iff {items : List Text} : Cut separator t items ↔ items = pieces separator t := by
  constructor
  · intro cut
    rw [← cut.joined, pieces_join cut.nonempty cut.free]
  · rintro rfl
    exact ⟨pieces_ne_nil separator t, fun _ mem => not_mem_of_mem_pieces mem,
      join_pieces separator t⟩

theorem join_cons (separator : Char) (item : Text) {items : List Text} (ne : items ≠ []) :
    join separator (item :: items) = item ++ separator :: join separator items := by
  cases items with
  | nil => exact absurd rfl ne
  | cons next more => rfl

theorem join_append (separator : Char) {first second : List Text} (neFirst : first ≠ [])
    (neSecond : second ≠ []) :
    join separator (first ++ second) =
      join separator first ++ separator :: join separator second := by
  induction first with
  | nil => exact absurd rfl neFirst
  | cons item items ih =>
    cases items with
    | nil => exact join_cons separator item neSecond
    | cons next more =>
      rw [List.cons_append, join_cons separator item (by simp), ih (by simp),
        join_cons separator item (List.cons_ne_nil next more), List.append_assoc,
        List.cons_append]

/-- The pieces fall into two lists, none of them empty, if and only if the text is cut at one of its
separators. -/
theorem pieces_eq_append_iff {first second : List Text} (neFirst : first ≠ [])
    (neSecond : second ≠ []) :
    pieces separator t = first ++ second ↔
      ∃ s u, t = s ++ separator :: u ∧ pieces separator s = first ∧
        pieces separator u = second := by
  constructor
  · intro cut
    have free : ∀ item ∈ first ++ second, separator ∉ item := by
      rw [← cut]
      exact fun _ => not_mem_of_mem_pieces
    rw [List.forall_mem_append] at free
    have joined : t = join separator first ++ separator :: join separator second := by
      rw [← join_append separator neFirst neSecond, ← cut, join_pieces]
    exact ⟨_, _, joined, pieces_join neFirst free.1, pieces_join neSecond free.2⟩
  · rintro ⟨s, u, rfl, rfl, rfl⟩
    exact pieces_append_cons separator s u

/-- A text is split inside one of its pieces by splitting that piece. -/
theorem join_append_piece (separator : Char) (earlier later : List Text) (front rest : Text) :
    join separator (earlier ++ (front ++ rest) :: later) =
      join separator (earlier ++ [front]) ++ join separator (rest :: later) := by
  induction earlier with
  | nil => cases later <;> simp [join]
  | cons item earlier ih =>
    have parts : ∀ (piece : Text) (more : List Text), earlier ++ piece :: more ≠ [] := by simp
    rw [List.cons_append, List.cons_append, join_cons separator item (parts _ _),
      join_cons separator item (parts _ _), ih, List.append_assoc, List.cons_append]

theorem join_cons_cons (separator c : Char) (rest : Text) (later : List Text) :
    join separator ((c :: rest) :: later) = c :: join separator (rest :: later) := by
  cases later <;> rfl

/-- The last piece of the first text and the first piece of the second one are one piece of both
texts together. -/
theorem pieces_append {earlier later : List Text} {front rest : Text}
    (cut : pieces separator s = earlier ++ [front]) (more : pieces separator t = rest :: later) :
    pieces separator (s ++ t) = earlier ++ (front ++ rest) :: later := by
  have free : ∀ item ∈ earlier ++ (front ++ rest) :: later, separator ∉ item := by
    have before : ∀ item ∈ earlier ++ [front], separator ∉ item :=
      cut ▸ fun _ => not_mem_of_mem_pieces
    have behind : ∀ item ∈ rest :: later, separator ∉ item := more ▸ fun _ => not_mem_of_mem_pieces
    rw [List.forall_mem_append, List.forall_mem_singleton] at before
    rw [List.forall_mem_cons] at behind
    rw [List.forall_mem_append, List.forall_mem_cons, List.mem_append, not_or]
    exact ⟨before.1, ⟨before.2, behind.1⟩, behind.2⟩
  refine (cut_iff.1 ⟨by simp, free, ?_⟩).symm
  rw [join_append_piece, ← cut, ← more, join_pieces, join_pieces]

/-- The characters of a joined text are separators and those of the items. -/
theorem mem_of_mem_join {c : Char} {items : List Text} (h : c ∈ join separator items) :
    c = separator ∨ ∃ item ∈ items, c ∈ item := by
  induction items with
  | nil => cases h
  | cons item items ih =>
    cases items with
    | nil => exact Or.inr ⟨item, by simp, h⟩
    | cons next more =>
      rw [join, List.mem_append, List.mem_cons] at h
      rcases h with h | rfl | h
      · exact Or.inr ⟨item, by simp, h⟩
      · exact Or.inl rfl
      · rcases ih h with rfl | ⟨other, mem, h⟩
        · exact Or.inl rfl
        · exact Or.inr ⟨other, List.mem_cons_of_mem item mem, h⟩

theorem mem_join_of_mem {c : Char} {item : Text} {items : List Text} (mem : item ∈ items)
    (h : c ∈ item) : c ∈ join separator items := by
  induction items with
  | nil => cases mem
  | cons head items ih =>
    cases items with
    | nil =>
      obtain rfl := List.mem_singleton.1 mem
      exact h
    | cons next more =>
      rw [join, List.mem_append, List.mem_cons]
      rcases List.mem_cons.1 mem with rfl | mem
      · exact Or.inl h
      · exact Or.inr (Or.inr (ih mem))

/-- The characters of a piece are characters of the text. -/
theorem mem_of_mem_piece {c : Char} (h : piece ∈ pieces separator t) (mem : c ∈ piece) : c ∈ t := by
  rw [← join_pieces separator t]
  exact mem_join_of_mem h mem

end PathGlob.Text
