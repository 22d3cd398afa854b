/-!
# PathGlob.Proofs.Except

When a result that was changed on the way is a value and when it is an error.
-/

namespace PathGlob

variable {α β ε ε' : Type} {result : Except ε α}

theorem map_eq_ok_iff {g : α → β} {b : β} :
    result.map g = .ok b ↔ ∃ a, result = .ok a ∧ g a = b := by
  cases result <;> simp [Except.map]

theorem bind_eq_ok_iff {next : α → Except ε β} {b : β} :
    result.bind next = .ok b ↔ ∃ a, result = .ok a ∧ next a = .ok b := by
  cases result <;> simp [Except.bind]

theorem map_eq_error_iff {g : α → β} {error : ε} :
    result.map g = .error error ↔ result = .error error := by
  cases result <;> simp [Except.map]

theorem mapError_eq_ok_iff {g : ε → ε'} {a : α} : result.mapError g = .ok a ↔ result = .ok a := by
  cases result with
  | error error => exact ⟨nofun, nofun⟩
  | ok b =>
    constructor
    · intro same
      exact congrArg Except.ok (Except.ok.inj same)
    · intro same
      exact congrArg Except.ok (Except.ok.inj same)

theorem mapError_eq_error_iff {g : ε → ε'} {changed : ε'} :
    result.mapError g = .error changed ↔ ∃ error, result = .error error ∧ g error = changed := by
  cases result with
  | error error =>
    constructor
    · intro same
      exact ⟨error, rfl, Except.error.inj same⟩
    · intro h
      obtain ⟨other, same, rfl⟩ := h
      obtain rfl := Except.error.inj same
      rfl
  | ok a =>
    constructor
    · intro same
      cases same
    · intro h
      obtain ⟨other, same, -⟩ := h
      cases same

theorem exists_eq_ok_of_isOk (h : result.isOk = true) : ∃ a, result = .ok a := by
  cases result with
  | error error => exact absurd h Bool.false_ne_true
  | ok a => exact ⟨a, rfl⟩

end PathGlob
