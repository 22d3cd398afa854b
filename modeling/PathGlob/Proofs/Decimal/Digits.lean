import PathGlob.Decimal.Reading

/-!
# PathGlob.Proofs.Decimal.Digits

Numbers are read back from their digits, in any base up to sixteen.
-/

namespace PathGlob.Decimal

variable {base n : Nat}

theorem digit?_digitChar (h : n < base) (small : base ≤ 16) :
    digit? base (Nat.digitChar n) = some n := by
  have all : ∀ base < 17, ∀ n < base, digit? base (Nat.digitChar n) = some n := by decide
  exact all base (Nat.lt_succ_of_le small) n h

/-- Every number has a last digit. -/
theorem exists_toDigits_eq (hb : 1 < base) (n : Nat) :
    ∃ front last, Nat.toDigits base n = front ++ [Nat.digitChar last] ∧ last < base := by
  rw [Nat.toDigits_eq_if hb]
  split
  · next one => exact ⟨[], n, rfl, one⟩
  · exact ⟨_, _, rfl, Nat.mod_lt n (by omega)⟩

/-- The digits of a number start with a digit. -/
theorem exists_toDigits_eq_cons (n : Nat) :
    ∃ c rest, Nat.toDigits 10 n = c :: rest ∧ c.isDigit = true := by
  obtain ⟨front, last, same, -⟩ := @exists_toDigits_eq 10 (by decide) n
  obtain ⟨c, rest, digits⟩ := List.exists_cons_of_ne_nil (l := Nat.toDigits 10 n) (by simp [same])
  have mem : c ∈ Nat.toDigits 10 n := digits ▸ List.mem_cons_self
  exact ⟨c, rest, digits, Nat.isDigit_of_mem_toDigits (by decide) (by decide) mem⟩

theorem filterMap_digit?_ne_nil (hb : 1 < base) (small : base ≤ 16) :
    (Nat.toDigits base n).filterMap (digit? base) ≠ [] := by
  obtain ⟨front, last, same, below⟩ := exists_toDigits_eq hb n
  rw [same, List.filterMap_append, List.filterMap_cons_some (digit?_digitChar below small)]
  simp

theorem ofDigits_concat (digits : List Nat) (last : Nat) :
    ofDigits base (digits ++ [last]) = base * ofDigits base digits + last := by
  simp [ofDigits]

theorem ofDigits_toDigits (hb : 1 < base) (small : base ≤ 16) :
    ofDigits base ((Nat.toDigits base n).filterMap (digit? base)) = n := by
  induction n using Nat.strongRecOn with
  | ind n ih =>
    rw [Nat.toDigits_eq_if hb]
    split
    · next one =>
      rw [List.filterMap_cons_some (digit?_digitChar one small)]
      simp [ofDigits]
    · next large =>
      have last := digit?_digitChar (Nat.mod_lt n (by omega)) small
      rw [List.filterMap_append, List.filterMap_cons_some last, List.filterMap_nil, ofDigits_concat,
        ih (n / base) (Nat.div_lt_self (by omega) hb)]
      exact Nat.div_add_mod n base

end PathGlob.Decimal
