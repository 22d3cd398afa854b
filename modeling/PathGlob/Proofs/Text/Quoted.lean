import PathGlob.Proofs.Text.Delimited
import PathGlob.Text.Escapes
import PathGlob.Text.Quoted

/-!
# PathGlob.Proofs.Text.Quoted

**What quoted texts are** (`isQuoted_iff`): every character stands there in the way that its escape
says (`escapesTo_iff`), which for ASCII is told by ranges (`isHidden_iff_of_ascii`). **Quoted texts
can be read back, whatever follows them** (`delimitedBy_quoted`), and hold no line end
(`lineEnd_notMem_quoted`).

Of the three ways to write a character it can be seen from the first two characters which one it is.
No way starts with a bare quote, so a bare quote ends the text.
-/

namespace PathGlob.Text

/-! ### Hexadecimal digits -/

section Digits

variable {m n : Nat}

theorem digitChar_inj (hm : m < 16) (hn : n < 16) (same : m.digitChar = n.digitChar) : m = n := by
  have below : ∀ i : Fin 16, ∀ j : Fin 16, (i : Nat).digitChar = (j : Nat).digitChar → i = j := by
    decide
  exact congrArg Fin.val (below ⟨m, hm⟩ ⟨n, hn⟩ same)

theorem toDigits_inj (same : Nat.toDigits 16 m = Nat.toDigits 16 n) : m = n := by
  induction m using Nat.strongRecOn generalizing n with
  | ind m ih =>
    rw [Nat.toDigits_eq_if (by decide), Nat.toDigits_eq_if (n := n) (by decide)] at same
    split at same <;> split at same
    · next hm hn => exact digitChar_inj hm hn (List.singleton_inj.1 same)
    · exact absurd (List.append_eq_singleton_iff.1 same.symm) (by simp)
    · exact absurd (List.append_eq_singleton_iff.1 same) (by simp)
    · obtain ⟨front, last⟩ := List.append_inj' same rfl
      have quotient := ih (m / 16) (by omega) front
      have remainder := digitChar_inj (Nat.mod_lt m (by decide)) (Nat.mod_lt n (by decide))
        (List.singleton_inj.1 last)
      omega

theorem exists_of_mem_toDigits {b : Nat} (hb : 1 < b) {c : Char} (h : c ∈ Nat.toDigits b n) :
    ∃ d, c = Nat.digitChar d := by
  induction n using Nat.strongRecOn with
  | ind n ih =>
    rw [Nat.toDigits_eq_if hb] at h
    split at h
    · exact ⟨n, List.mem_singleton.1 h⟩
    · next large =>
      rcases List.mem_append.1 h with front | last
      · exact ih (n / b) (Nat.div_lt_self (by omega) hb) front
      · exact ⟨n % b, List.mem_singleton.1 last⟩

end Digits

/-! ### Hidden characters -/

variable {c d : Char} {s t u v : Text}

namespace RangeTable

variable {low middle high : RangeTable}

theorem contains_iff {table : RangeTable} :
    table.contains c = true ↔ ∃ range ∈ table, range.1 ≤ c.toNat ∧ c.toNat ≤ range.2 := by
  simp [contains]

/-- Three tables that cover different planes of Unicode, none of them ASCII. -/
structure Split (low middle high : RangeTable) : Prop where
  low : ∀ range ∈ low, 0x80 ≤ range.1 ∧ range.2 < 0x3000
  middle : ∀ range ∈ middle, 0x3000 ≤ range.1 ∧ range.2 < 0x10000
  high : ∀ range ∈ high, 0x10000 ≤ range.1

theorem split_unprintable : Split unprintableLow unprintableMiddle unprintableHigh where
  low := by decide +kernel
  middle := by decide +kernel
  high := by decide +kernel

theorem split_extending : Split extendingLow extendingMiddle extendingHigh where
  low := by decide +kernel
  middle := by decide +kernel
  high := by decide +kernel

/-- Only one of the tables has to be looked at. -/
theorem Split.contains_append (split : Split low middle high) (c : Char) :
    contains (low ++ middle ++ high) c =
      if c.toNat < 0x80 then false
      else if c.toNat < 0x3000 then low.contains c
      else if c.toNat < 0x10000 then middle.contains c
      else high.contains c := by
  have inLow (h : low.contains c = true) : 0x80 ≤ c.toNat ∧ c.toNat < 0x3000 := by
    obtain ⟨range, mem, above, below⟩ := contains_iff.1 h
    have bounds := split.low range mem
    omega
  have inMiddle (h : middle.contains c = true) : 0x3000 ≤ c.toNat ∧ c.toNat < 0x10000 := by
    obtain ⟨range, mem, above, below⟩ := contains_iff.1 h
    have bounds := split.middle range mem
    omega
  have inHigh (h : high.contains c = true) : 0x10000 ≤ c.toNat := by
    obtain ⟨range, mem, above, -⟩ := contains_iff.1 h
    exact Nat.le_trans (split.high range mem) above
  have anywhere : contains (low ++ middle ++ high) c =
      (low.contains c || middle.contains c || high.contains c) := by
    simp [contains, Bool.or_assoc]
  rw [anywhere, Bool.eq_iff_iff]
  split_ifs <;> simp only [Bool.or_eq_true] <;> grind

end RangeTable

theorem isExtending_eq (c : Char) :
    isExtending c = RangeTable.contains (extendingLow ++ extendingMiddle ++ extendingHigh) c :=
  (RangeTable.split_extending.contains_append c).symm

theorem isPrintable_eq (c : Char) :
    isPrintable c = if c.toNat < 0x80 then 0x20 ≤ c.toNat && c.toNat < 0x7F
      else !RangeTable.contains (unprintableLow ++ unprintableMiddle ++ unprintableHigh) c := by
  rw [RangeTable.split_unprintable.contains_append, isPrintable]
  split_ifs <;> rfl

theorem isHidden_iff_contains :
    IsHidden c ↔ (c.toNat < 0x20 ∨ c.toNat = 0x7F) ∨ RangeTable.contains hiddenRanges c = true := by
  rw [RangeTable.contains_iff]
  constructor
  · rintro (control | ⟨mem, above, below⟩)
    · exact .inl control
    · exact .inr ⟨_, mem, above, below⟩
  · rintro (control | ⟨range, mem, above, below⟩)
    · exact .control control
    · exact .inRange mem above below

/-- Of ASCII exactly the control characters are hidden. -/
theorem isHidden_iff_of_ascii (ascii : c.toNat < 0x80) :
    IsHidden c ↔ c.toNat < 0x20 ∨ c.toNat = 0x7F := by
  have noRange : RangeTable.contains hiddenRanges c = false := by
    rw [hiddenRanges, RangeTable.contains, List.any_append, Bool.or_eq_false_iff]
    exact ⟨(RangeTable.split_unprintable.contains_append c).trans (if_pos ascii),
      (RangeTable.split_extending.contains_append c).trans (if_pos ascii)⟩
  simp [isHidden_iff_contains, noRange]

/-- The characters that are hidden are those that show nothing or extend another one. -/
theorem isHidden_iff : IsHidden c ↔ (isExtending c || !isPrintable c) = true := by
  by_cases ascii : c.toNat < 0x80
  · rw [isHidden_iff_of_ascii ascii, isExtending, isPrintable, if_pos ascii, if_pos ascii]
    simp
    omega
  · have control : ¬ (c.toNat < 0x20 ∨ c.toNat = 0x7F) := by omega
    have both : RangeTable.contains hiddenRanges c =
        (RangeTable.contains (unprintableLow ++ unprintableMiddle ++ unprintableHigh) c ||
          RangeTable.contains (extendingLow ++ extendingMiddle ++ extendingHigh) c) :=
      List.any_append
    rw [isHidden_iff_contains, or_iff_right control, both, isExtending_eq, isPrintable_eq,
      if_neg ascii, Bool.not_not, Bool.or_comm]

/-! ### One character -/

theorem escapesTo_quotedChar (c : Char) : EscapesTo c (quotedChar c) := by
  unfold quotedChar
  split
  all_goals try exact .short (by decide)
  next noNull noTab noFeed noReturn noQuote noBackslash =>
    have noEscape : ∀ x, (c, x) ∉ shortEscapes := by simp_all [shortEscapes]
    split
    · next hidden => exact .code noEscape (isHidden_iff.2 hidden)
    · next shown => exact .plain noEscape (mt isHidden_iff.1 shown)

/-- A character has one escape only. -/
theorem EscapesTo.unique (h : EscapesTo c s) (h' : EscapesTo c t) : s = t := by
  cases h with
  | short first =>
    cases h' with
    | short second =>
      have unique : ∀ p ∈ shortEscapes, ∀ q ∈ shortEscapes, p.1 = q.1 → p.2 = q.2 := by decide
      exact congrArg (fun x => ['\\', x]) (unique _ first _ second rfl)
    | code noEscape | plain noEscape => exact absurd first (noEscape _)
  | code noEscape hidden =>
    cases h' with
    | short second => exact absurd second (noEscape _)
    | code => rfl
    | plain _ shown => exact absurd hidden shown
  | plain noEscape shown =>
    cases h' with
    | short second => exact absurd second (noEscape _)
    | code _ hidden => exact absurd hidden shown
    | plain => rfl

theorem escapesTo_iff : EscapesTo c s ↔ s = quotedChar c := by
  constructor
  · exact fun h => h.unique (escapesTo_quotedChar c)
  · rintro rfl
    exact escapesTo_quotedChar c

/-- A relation that is a function holds of lists if the one is mapped to the other. -/
theorem forall₂_iff_eq_map {α β : Type} {R : α → β → Prop} {f : α → β}
    (h : ∀ a b, R a b ↔ b = f a) {as : List α} {bs : List β} :
    List.Forall₂ R as bs ↔ bs = as.map f := by
  have same : R = fun a b => f a = b := funext₂ fun a b => propext ((h a b).trans eq_comm)
  rw [same, ← List.forall₂_map_left_iff, List.forall₂_eq_eq_eq, eq_comm]

/-- **Quoted texts** are written as their characters are, each by its own escape. -/
theorem isQuoted_iff {t shown : Text} : IsQuoted t shown ↔ shown = quoted t := by
  have parts {parts : List Text} : List.Forall₂ EscapesTo t parts ↔ parts = t.map quotedChar :=
    forall₂_iff_eq_map @escapesTo_iff
  simp only [IsQuoted, parts, exists_eq_left, quoted, List.flatMap]

/-- A short escape stands for one character only. -/
theorem shortEscapes_inj {x : Char} (hc : (c, x) ∈ shortEscapes) (hd : (d, x) ∈ shortEscapes) :
    c = d := by
  have injective : ∀ p ∈ shortEscapes, ∀ q ∈ shortEscapes, p.2 = q.2 → p.1 = q.1 := by decide
  exact injective _ hc _ hd rfl

/-- A short escape does not look like the start of a code point. -/
theorem ne_u_of_shortEscape {x : Char} (h : (c, x) ∈ shortEscapes) : x ≠ 'u' := by
  have noU : ∀ p ∈ shortEscapes, p.2 ≠ 'u' := by decide
  exact noU _ h

theorem ne_backslash_of_plain (h : ∀ x, (c, x) ∉ shortEscapes) : c ≠ '\\' := by
  rintro rfl
  exact h '\\' (by decide)

theorem delimitedBy_unicodeEscape : DelimitedBy (fun _ => True) unicodeEscape := by
  have injective : Function.Injective fun c : Char => Nat.toDigits 16 c.toNat :=
    fun _ _ same => Char.toNat_inj.1 (toDigits_inj same)
  have noBrace (c : Char) : '}' ∉ Nat.toDigits 16 c.toNat := by
    intro mem
    obtain ⟨d, isDigit⟩ := exists_of_mem_toDigits (by decide) mem
    exact Nat.digitChar_ne '}' (by decide) isDigit.symm
  have written := (DelimitedBy.closed injective noBrace).after ['\\', 'u', '{']
  intro c d u v hu hv same
  exact written hu hv (by simpa [unicodeEscape] using same)

/-- Whatever follows it, a character between quotes can be read back. -/
theorem delimitedBy_quotedChar : DelimitedBy (fun _ => True) quotedChar := by
  intro c d u v hu hv same
  have first := escapesTo_quotedChar c
  have second := escapesTo_quotedChar d
  generalize quotedChar c = s at first same
  generalize quotedChar d = t at second same
  -- The first character tells whether there is an escape, and the second one of which kind it is.
  cases first with
  | short hc =>
    cases second with
    | short hd =>
      obtain ⟨rfl, rfl⟩ : _ ∧ u = v := by simpa using same
      exact ⟨shortEscapes_inj hc hd, rfl⟩
    | code => exact absurd (List.cons.inj (List.cons.inj same).2).1 (ne_u_of_shortEscape hc)
    | plain hd => exact absurd (List.cons.inj same).1.symm (ne_backslash_of_plain hd)
  | code =>
    cases second with
    | short hd =>
      exact absurd (List.cons.inj (List.cons.inj same).2).1.symm (ne_u_of_shortEscape hd)
    | code => exact delimitedBy_unicodeEscape hu hv same
    | plain hd => exact absurd (List.cons.inj same).1.symm (ne_backslash_of_plain hd)
  | plain hc =>
    cases second with
    | short | code => exact absurd (List.cons.inj same).1 (ne_backslash_of_plain hc)
    | plain => exact List.cons.inj same

/-- No character is written with a bare quote. -/
theorem quotedChar_append_ne (c : Char) (u v : Text) : quotedChar c ++ u ≠ '"' :: v := by
  have form := escapesTo_quotedChar c
  generalize quotedChar c = s at form
  cases form with
  | short | code => simp
  | plain noEscape =>
    intro same
    obtain ⟨rfl, -⟩ := List.cons.inj same
    exact noEscape '"' (by decide)

/-- Whatever follows it, a text in quotes can be read back. -/
theorem delimitedBy_quoted : DelimitedBy (fun _ => True) quoted := by
  have body : DelimitedBy (fun u => u.head? = some '"') (List.flatMap quotedChar) := by
    refine delimitedBy_quotedChar.flatMap (fun _ _ => trivial) (fun _ _ => trivial) ?_
    intro c u v closes same
    obtain ⟨rest, rfl⟩ := List.head?_eq_some_iff.1 closes
    exact quotedChar_append_ne c u rest same
  intro s t u v _ _ same
  simp only [quoted, List.cons_append, List.append_assoc, List.cons.injEq, true_and] at same
  obtain ⟨rfl, rest⟩ := body rfl rfl same
  exact ⟨rfl, (List.cons.inj rest).2⟩

/-! ### Line ends -/

section LineEnds

variable {e : Char} (isEnd : e = '\n' ∨ e = '\r')

include isEnd

theorem lineEnd_notMem_toDigits {b : Nat} (hb : 1 < b) (n : Nat) : e ∉ Nat.toDigits b n := by
  intro mem
  obtain ⟨d, isDigit⟩ := exists_of_mem_toDigits hb mem
  rcases isEnd with rfl | rfl
  · exact Nat.digitChar_ne '\n' (by decide) isDigit.symm
  · exact Nat.digitChar_ne '\r' (by decide) isDigit.symm

theorem exists_shortEscape_of_lineEnd : ∃ x, (e, x) ∈ shortEscapes := by
  rcases isEnd with rfl | rfl
  · exact ⟨'n', by decide⟩
  · exact ⟨'r', by decide⟩

theorem lineEnd_notMem_quotedChar (c : Char) : e ∉ quotedChar c := by
  have noShort : ∀ p ∈ shortEscapes, e ≠ p.2 := by rcases isEnd with rfl | rfl <;> decide
  obtain ⟨noBackslash, noU, noOpen, noClose⟩ :
      e ≠ '\\' ∧ e ≠ 'u' ∧ e ≠ '{' ∧ e ≠ '}' := by rcases isEnd with rfl | rfl <;> decide
  have form := escapesTo_quotedChar c
  generalize quotedChar c = s at form
  cases form with
  | short hc => simp [noBackslash, noShort _ hc]
  | code =>
    have noDigit := lineEnd_notMem_toDigits isEnd (b := 16) (by decide) c.toNat
    simp [noBackslash, noU, noOpen, noClose, noDigit]
  | plain noEscape =>
    obtain ⟨x, escaped⟩ := exists_shortEscape_of_lineEnd isEnd
    rw [List.mem_singleton]
    rintro rfl
    exact noEscape x escaped

theorem lineEnd_notMem_quoted (t : Text) : e ∉ quoted t := by
  have noQuote : e ≠ '"' := by rcases isEnd with rfl | rfl <;> decide
  simp [quoted, noQuote, lineEnd_notMem_quotedChar isEnd]

end LineEnds

end PathGlob.Text
