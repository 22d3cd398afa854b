import PathGlob.Text.Basic

/-!
# PathGlob.Proofs.Text.Delimited

**Writing that can be read back without a reader.** What is written is told apart from what follows
it if only one value and one rest can have given the whole text (`DelimitedBy`). Some writings are
delimited whatever follows them, others only by a rest that starts in a certain way, so the property
names what is known of the rest.

Writings are put together from others in two ways, and stay delimited if what ends the whole cannot
be taken for one more part: side by side (`DelimitedBy.flatMap`) and with a separator between
neighbours (`DelimitedBy.intercalate`).
-/

namespace PathGlob.Text

variable {α : Type} {follows stop : Text → Prop} {write : α → Text} {separator : Text}

/-- The first of the closing characters ends what does not hold it. -/
theorem append_cons_inj {close : Char} {s t u v : Text} (hs : close ∉ s) (ht : close ∉ t)
    (same : s ++ close :: u = t ++ close :: v) : s = t ∧ u = v := by
  induction s generalizing t with
  | nil =>
    cases t with
    | nil => exact ⟨rfl, (List.cons.inj same).2⟩
    | cons d t => exact absurd (List.cons.inj same).1 fun eq => ht (eq ▸ List.mem_cons_self)
  | cons c s ih =>
    cases t with
    | nil => exact absurd (List.cons.inj same).1 fun eq => hs (eq ▸ List.mem_cons_self)
    | cons d t =>
      obtain ⟨rfl, sameRest⟩ := List.cons.inj same
      obtain ⟨rfl, rfl⟩ := ih (mt (List.mem_cons_of_mem c) hs) (mt (List.mem_cons_of_mem c) ht)
        sameRest
      exact ⟨rfl, rfl⟩

/-- What is written in front of a rest of the given kind determines the value and the rest. -/
def DelimitedBy (follows : Text → Prop) (write : α → Text) : Prop :=
  ∀ ⦃a b : α⦄ ⦃u v : Text⦄, follows u → follows v → write a ++ u = write b ++ v → a = b ∧ u = v

namespace DelimitedBy

/-- A fixed text in front does no harm. -/
theorem after (h : DelimitedBy follows write) (opening : Text) :
    DelimitedBy follows fun a => opening ++ write a := by
  intro a b u v followsU followsV same
  rw [List.append_assoc, List.append_assoc, List.append_cancel_left_eq] at same
  exact h followsU followsV same

/-- A closing character that stands nowhere else ends what is written, whatever follows. -/
theorem closed {close : Char} (injective : Function.Injective write)
    (free : ∀ a, close ∉ write a) : DelimitedBy (fun _ => True) fun a => write a ++ [close] := by
  intro a b u v _ _ same
  simp only [List.append_assoc, List.singleton_append] at same
  obtain ⟨written, rest⟩ := append_cons_inj (free a) (free b) same
  exact ⟨injective written, rest⟩

/-- With nothing behind it, what is written determines the value. -/
theorem injective (h : DelimitedBy (· = []) write) : Function.Injective write := by
  intro a b same
  exact (h rfl rfl (congrArg (· ++ []) same)).1

end DelimitedBy

/-- Any number of values in front of a rest that ends them is a rest for one more value. -/
theorem follows_flatMap (ofStop : ∀ u, stop u → follows u)
    (ofMore : ∀ a u, follows (write a ++ u)) (values : List α) {u : Text} (ends : stop u) :
    follows (values.flatMap write ++ u) := by
  cases values with
  | nil => exact ofStop u ends
  | cons a more =>
    rw [List.flatMap_cons, List.append_assoc]
    exact ofMore a _

/-- Values side by side, if the rest cannot be taken for one more. -/
theorem DelimitedBy.flatMap (h : DelimitedBy follows write) (ofStop : ∀ u, stop u → follows u)
    (ofMore : ∀ a u, follows (write a ++ u)) (noMore : ∀ a u v, stop v → write a ++ u ≠ v) :
    DelimitedBy stop (List.flatMap write) := by
  have rest := follows_flatMap ofStop ofMore
  intro s t u v stopU stopV same
  induction s generalizing t with
  | nil =>
    cases t with
    | nil => exact ⟨rfl, same⟩
    | cons b t =>
      rw [List.flatMap_cons, List.append_assoc] at same
      exact absurd same.symm (noMore b _ u stopU)
  | cons a s ih =>
    cases t with
    | nil =>
      rw [List.flatMap_cons, List.append_assoc] at same
      exact absurd same (noMore a _ v stopV)
    | cons b t =>
      simp only [List.flatMap_cons, List.append_assoc] at same
      obtain ⟨rfl, sameRest⟩ := h (rest s stopU) (rest t stopV) same
      obtain ⟨rfl, rfl⟩ := ih sameRest
      exact ⟨rfl, rfl⟩

/-- Behind the first item every item has a separator in front. -/
theorem intercalate_cons (separator item : Text) (items : List Text) :
    separator.intercalate (item :: items) = item ++ items.flatMap (separator ++ ·) := by
  induction items generalizing item with
  | nil => simp
  | cons next more ih => simp [ih]

theorem notMem_intercalate {c : Char} {items : List Text} (inSeparator : c ∉ separator)
    (inItems : ∀ item ∈ items, c ∉ item) : c ∉ separator.intercalate items := by
  cases items with
  | nil => simp
  | cons item items =>
    rw [List.forall_mem_cons] at inItems
    rw [intercalate_cons, List.mem_append, List.mem_flatMap, not_or]
    refine ⟨inItems.1, ?_⟩
    rintro ⟨next, mem, inNext⟩
    rcases List.mem_append.1 inNext with h | h
    · exact inSeparator h
    · exact inItems.2 next mem h

/-- Values with a separator between neighbours, if the rest can be taken neither for a value nor for
a separator with one more value behind it. -/
theorem DelimitedBy.intercalate (h : DelimitedBy follows write) (ofStop : ∀ u, stop u → follows u)
    (ofMore : ∀ u, follows (separator ++ u)) (noItem : ∀ a u v, stop v → write a ++ u ≠ v)
    (noMore : ∀ a u v, stop v → separator ++ write a ++ u ≠ v) :
    DelimitedBy stop fun values : List α => separator.intercalate (values.map write) := by
  have ofNext (a : α) (u : Text) : follows (separator ++ write a ++ u) := by
    rw [List.append_assoc]
    exact ofMore _
  have next := (h.after separator).flatMap ofStop ofNext noMore
  have rest := follows_flatMap ofStop ofNext
  intro s t u v stopU stopV same
  cases s with
  | nil =>
    cases t with
    | nil => exact ⟨rfl, same⟩
    | cons b t =>
      simp only [List.map_cons, intercalate_cons, List.append_assoc] at same
      exact absurd same.symm (noItem b _ u stopU)
  | cons a s =>
    cases t with
    | nil =>
      simp only [List.map_cons, intercalate_cons, List.append_assoc] at same
      exact absurd same (noItem a _ v stopV)
    | cons b t =>
      simp only [List.map_cons, intercalate_cons, List.append_assoc, List.flatMap_map] at same
      obtain ⟨rfl, sameRest⟩ := h (rest s stopU) (rest t stopV) same
      obtain ⟨rfl, rfl⟩ := next stopU stopV sameRest
      exact ⟨rfl, rfl⟩

end PathGlob.Text
