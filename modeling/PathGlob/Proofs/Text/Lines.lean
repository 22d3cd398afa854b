import Mathlib.Data.List.Flatten
import PathGlob.Proofs.Text.Bytes
import PathGlob.Text.Lines

/-!
# PathGlob.Proofs.Text.Lines

**Cutting into lines is what `IsLines` says**, and there is only one way to do it
(`isLines_iff`). So everything about `linesOf` goes through the relation: printed lines are read
back (`Text.lines_unlines`), and the lines of the UTF-8 form of a text are the UTF-8 forms of its
lines (`byteLines_toBytes`), as the bytes of line feeds and carriage returns stand for nothing else.
-/

namespace PathGlob

/-! ### The relation and the function -/

section Cutting

variable {α : Type} [DecidableEq α] {feed ret c : α} {s line rest : List α} {lines : List (List α)}

/-- A character that ends no line belongs to the first line of what follows. -/
theorem linesOf_cons_of_cons (ne : c ≠ feed) (kept : ¬ (c = ret ∧ rest.head? = some feed))
    (more : linesOf feed ret rest = line :: lines) :
    linesOf feed ret (c :: rest) = (c :: line) :: lines := by
  rw [linesOf, if_neg ne, if_neg kept, more]

theorem linesOf_of_not_mem (ne : line ≠ []) (free : feed ∉ line) :
    linesOf feed ret line = [line] := by
  induction line with
  | nil => exact absurd rfl ne
  | cons c line ih =>
    rw [List.mem_cons, not_or] at free
    cases line with
    | nil => simp [linesOf, Ne.symm free.1]
    | cons d line =>
      have kept : ¬ (c = ret ∧ (d :: line).head? = some feed) := by
        rintro ⟨-, head⟩
        exact free.2 (List.mem_of_mem_head? head)
      exact linesOf_cons_of_cons (Ne.symm free.1) kept (ih (List.cons_ne_nil d line) free.2)

/-- What stands in front of the end of a line is a line, unless it makes the ending longer. -/
theorem linesOf_append (ending : linesOf feed ret rest = [] :: lines) (free : feed ∉ line)
    (whole : line.getLast? = some ret → rest.head? ≠ some feed) :
    linesOf feed ret (line ++ rest) = line :: lines := by
  induction line with
  | nil => exact ending
  | cons c line ih =>
    rw [List.mem_cons, not_or] at free
    cases line with
    | nil =>
      refine linesOf_cons_of_cons (Ne.symm free.1) ?_ ending
      rintro ⟨rfl, head⟩
      exact whole rfl head
    | cons d line =>
      have kept : ¬ (c = ret ∧ (d :: line ++ rest).head? = some feed) := by
        rintro ⟨-, head⟩
        exact free.2 (List.mem_cons.2 (.inl (Option.some.inj head).symm))
      rw [List.getLast?_cons_cons] at whole
      exact linesOf_cons_of_cons (Ne.symm free.1) kept (ih free.2 whole)

theorem linesOf_append_feed (free : feed ∉ line) (whole : line.getLast? ≠ some ret) :
    linesOf feed ret (line ++ feed :: rest) = line :: linesOf feed ret rest := by
  refine linesOf_append ?_ free fun last => absurd last whole
  rw [linesOf, if_pos rfl]

theorem linesOf_append_returnFeed (ne : ret ≠ feed) (free : feed ∉ line) :
    linesOf feed ret (line ++ ret :: feed :: rest) = line :: linesOf feed ret rest := by
  refine linesOf_append ?_ free fun _ head => ne (Option.some.inj head)
  rw [linesOf, if_neg ne, if_pos ⟨rfl, rfl⟩, linesOf, if_pos rfl]

/-- Every sequence is cut as the relation says. -/
theorem isLines_linesOf (ne : ret ≠ feed) (s : List α) :
    IsLines feed ret s (linesOf feed ret s) := by
  by_cases mem : feed ∈ s
  · obtain ⟨line, rest, rfl, free⟩ := List.eq_append_cons_of_mem mem
    have more := isLines_linesOf ne rest
    by_cases ending : line.getLast? = some ret
    · obtain ⟨front, rfl⟩ := List.getLast?_eq_some_iff.1 ending
      have free : feed ∉ front := fun inFront => free (List.mem_append_left _ inFront)
      rw [List.append_assoc, List.singleton_append, linesOf_append_returnFeed ne free]
      exact .returnFeed free more
    · rw [linesOf_append_feed free ending]
      exact .feed free ending more
  · by_cases empty : s = []
    · subst empty
      exact .nil
    · rw [linesOf_of_not_mem empty mem]
      exact .last empty mem
termination_by s.length

/-- The lines of a sequence are those that `linesOf` cuts it into, and no others. -/
theorem isLines_iff (ne : ret ≠ feed) : IsLines feed ret s lines ↔ lines = linesOf feed ret s := by
  constructor
  · intro h
    induction h with
    | nil => rfl
    | last nonempty free => exact (linesOf_of_not_mem nonempty free).symm
    | feed free whole _ ih => rw [linesOf_append_feed free whole, ih]
    | returnFeed free _ ih => rw [linesOf_append_returnFeed ne free, ih]
  · rintro rfl
    exact isLines_linesOf ne s

omit [DecidableEq α] in
/-- Lines hold no line feed, and their characters are characters of the whole. -/
theorem IsLines.free (h : IsLines feed ret s lines) :
    ∀ line ∈ lines, feed ∉ line ∧ line ⊆ s := by
  induction h with
  | nil => simp
  | last _ free =>
    rw [List.forall_mem_singleton]
    exact ⟨free, List.Subset.refl _⟩
  | feed free _ _ ih =>
    rw [List.forall_mem_cons]
    refine ⟨⟨free, List.subset_append_left _ _⟩, fun line mem => ⟨(ih line mem).1, ?_⟩⟩
    exact fun c inLine => by simp [(ih line mem).2 inLine]
  | returnFeed free _ ih =>
    rw [List.forall_mem_cons]
    refine ⟨⟨free, List.subset_append_left _ _⟩, fun line mem => ⟨(ih line mem).1, ?_⟩⟩
    exact fun c inLine => by simp [(ih line mem).2 inLine]

end Cutting

/-! ### Lines of texts -/

section Texts

variable {t rest : Text} {lines more : List Text}

theorem return_ne_feed : '\r' ≠ '\n' := by decide

theorem Text.isLines_lines (t : Text) : IsLines '\n' '\r' t t.lines :=
  isLines_linesOf return_ne_feed t

@[simp] theorem Text.unlines_nil : Text.unlines [] = [] := rfl

@[simp] theorem Text.unlines_cons (line : Text) (lines : List Text) :
    Text.unlines (line :: lines) = line ++ '\n' :: Text.unlines lines := by
  simp [Text.unlines]

@[simp] theorem Text.unlines_append (lines more : List Text) :
    Text.unlines (lines ++ more) = Text.unlines lines ++ Text.unlines more :=
  List.flatMap_append

/-- What is printed tells whether some lines were left out, as no line is printed to nothing. -/
theorem Text.unlines_eq_iff_of_sublist (sub : lines.Sublist more) :
    Text.unlines lines = Text.unlines more ↔ lines = more := by
  refine ⟨fun same => ?_, fun same => same ▸ rfl⟩
  induction sub with
  | slnil => rfl
  | @cons lines more line sub _ =>
    have shorter : (Text.unlines lines).length ≤ (Text.unlines more).length :=
      (sub.flatMap _).length_le
    rw [same, Text.unlines_cons, List.length_append, List.length_cons] at shorter
    omega
  | cons_cons line _ ih =>
    rw [Text.unlines_cons, Text.unlines_cons, List.append_cancel_left_eq, List.cons.injEq] at same
    rw [ih same.2]

/-- Printed lines are lines of what they are printed in front of. -/
theorem isLines_unlines_append (whole : ∀ line ∈ lines, Text.IsWhole line)
    (h : IsLines '\n' '\r' rest more) :
    IsLines '\n' '\r' (Text.unlines lines ++ rest) (lines ++ more) := by
  induction lines with
  | nil => exact h
  | cons line lines ih =>
    rw [List.forall_mem_cons] at whole
    rw [Text.unlines_cons, List.append_assoc, List.cons_append]
    exact .feed whole.1.1 whole.1.2 (ih whole.2)

/-- Printed lines are read back. -/
theorem Text.lines_unlines (whole : ∀ line ∈ lines, Text.IsWhole line) :
    Text.lines (Text.unlines lines) = lines := by
  have printed := isLines_unlines_append whole .nil
  rw [List.append_nil, List.append_nil] at printed
  exact ((isLines_iff return_ne_feed).1 printed).symm

/-- Without the last line feed printed lines are still read back, unless the last one is empty. -/
theorem Text.lines_dropLast_unlines (whole : ∀ line ∈ lines, Text.IsWhole line)
    (last : lines.getLast? ≠ some []) : Text.lines (Text.unlines lines).dropLast = lines := by
  rcases List.eq_nil_or_concat' lines with rfl | ⟨front, line, rfl⟩
  · rfl
  · rw [List.forall_mem_append, List.forall_mem_singleton] at whole
    have ne : line ≠ [] := by simpa using last
    have shorter : (Text.unlines (front ++ [line])).dropLast = Text.unlines front ++ line := by
      rw [Text.unlines_append, Text.unlines_cons, Text.unlines_nil, ← List.append_assoc,
        List.dropLast_concat]
    rw [shorter]
    exact ((isLines_iff return_ne_feed).1
      (isLines_unlines_append whole.1 (.last ne whole.2.1))).symm

/-- The lines of a text without carriage returns can be printed and read back. -/
theorem Text.isWhole_of_mem_lines (noReturn : '\r' ∉ t) : ∀ line ∈ t.lines, Text.IsWhole line := by
  intro line mem
  obtain ⟨free, inText⟩ := t.isLines_lines.free line mem
  exact ⟨free, fun last => noReturn (inText (List.mem_of_getLast? last))⟩

end Texts

/-! ### Lines of bytes -/

section Bytes

variable {t : Text} {bytes : List UInt8} {lines : List Text}

theorem isLines_bytes_iff {byteLines' : List (List UInt8)} :
    IsLines 0x0A 0x0D bytes byteLines' ↔ byteLines' = byteLines bytes :=
  isLines_iff (by decide)

/-- Lines of a text are in UTF-8 the lines of its UTF-8 form. -/
theorem IsLines.toBytes (h : IsLines '\n' '\r' t lines) :
    IsLines 0x0A 0x0D t.toBytes (lines.map Text.toBytes) := by
  have feed (line : Text) : (0x0A : UInt8) ∈ line.toBytes ↔ '\n' ∈ line :=
    Text.mem_toBytes_iff (a := '\n') (by decide)
  have last (line : Text) : line.toBytes.getLast? = some 0x0D ↔ line.getLast? = some '\r' :=
    Text.getLast?_toBytes_iff (a := '\r') (by decide)
  have feedBytes (t : Text) : Text.toBytes ('\n' :: t) = 0x0A :: t.toBytes :=
    Text.toBytes_cons_ascii (by decide) t
  have returnBytes (t : Text) : Text.toBytes ('\r' :: t) = 0x0D :: t.toBytes :=
    Text.toBytes_cons_ascii (by decide) t
  induction h with
  | nil => exact .nil
  | last ne free => exact .last (mt Text.toBytes_eq_nil_iff.1 ne) (mt (feed _).1 free)
  | feed free whole _ ih =>
    rw [Text.toBytes_append, feedBytes]
    exact .feed (mt (feed _).1 free) (mt (last _).1 whole) ih
  | returnFeed free _ ih =>
    rw [Text.toBytes_append, returnBytes, feedBytes]
    exact .returnFeed (mt (feed _).1 free) ih

/-- The lines of the UTF-8 form of a text are the UTF-8 forms of its lines. -/
theorem byteLines_toBytes (t : Text) : byteLines t.toBytes = t.lines.map Text.toBytes :=
  (isLines_bytes_iff.1 t.isLines_lines.toBytes).symm

end Bytes

end PathGlob
