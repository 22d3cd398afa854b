import Mathlib.Data.List.Nodup
import PathGlob.Proofs.Except
import PathGlob.Toml.Document

/-!
# PathGlob.Proofs.Toml.Keys

**No key of a document stands there twice** (`names_document_nodup`). An entry is only added where
its name does not occur yet, and an entry that is changed keeps its name.
-/

namespace PathGlob.Toml

/-- The names of entries, in order. -/
def names (entries : Entries) : List Text :=
  entries.map (·.1.name)

variable {entries changed : Entries} {key : Key} {v : Value} {name : Text} {path : List Key}
  {state next : State} {s rest : Text}

/-! ### Entries -/

theorem valueOf?_eq_none_iff : valueOf? name entries = none ↔ name ∉ names entries := by
  simp [valueOf?, names]

theorem names_putEntry (h : key.name ∈ names entries) :
    names (putEntry key v entries) = names entries := by
  induction entries with
  | nil => cases h
  | cons entry more ih =>
    obtain ⟨k, w⟩ := entry
    rw [putEntry]
    split
    · rfl
    · next other =>
      rw [names, List.map_cons, List.mem_cons] at h
      rcases h with same | mem
      · exact absurd same.symm other
      · exact congrArg (k.name :: ·) (ih mem)

theorem nodup_putEntry (distinct : (names entries).Nodup) (h : valueOf? key.name entries ≠ none) :
    (names (putEntry key v entries)).Nodup := by
  rw [ne_eq, valueOf?_eq_none_iff, not_not] at h
  rwa [names_putEntry h]

theorem nodup_append (distinct : (names entries).Nodup) (h : valueOf? key.name entries = none) :
    (names (entries ++ [(key, v)])).Nodup := by
  rw [valueOf?_eq_none_iff] at h
  rw [names, List.map_append, List.nodup_append]
  refine ⟨distinct, List.nodup_singleton _, ?_⟩
  intro a mem b single same
  obtain rfl : b = key.name := List.mem_singleton.1 single
  exact h (same ▸ mem)

/-! ### Changes -/

/-- A change of a table that keeps its names distinct. -/
def KeepsDistinct (change : TableInfo → Entries → Except Cause Entries) : Prop :=
  ∀ info entries changed, change info entries = .ok changed → (names entries).Nodup →
    (names changed).Nodup

/-- A change at the end of a path adds or changes one entry of the table that the path starts
in. -/
theorem nodup_changeAt {change : TableInfo → Entries → Except Cause Entries}
    (keeps : KeepsDistinct change) {dotted : Bool} {info : TableInfo} {walked : List Text}
    (h : State.changeAt dotted change info entries walked path = .ok changed)
    (distinct : (names entries).Nodup) : (names changed).Nodup := by
  cases path with
  | nil => exact keeps info entries changed h distinct
  | cons key more =>
    rw [State.changeAt] at h
    split at h
    · next absent =>
      obtain ⟨inner, -, rfl⟩ := map_eq_ok_iff.1 h
      exact nodup_append distinct absent
    · next present =>
      split at h
      · cases h
      · split at h
        · cases h
        · obtain ⟨inner, -, rfl⟩ := map_eq_ok_iff.1 h
          exact nodup_putEntry distinct (by simp [present])
    · next present =>
      split at h
      · obtain ⟨inner, -, rfl⟩ := map_eq_ok_iff.1 h
        exact nodup_putEntry distinct (by simp [present])
      · cases h
    · cases h

/-! ### Lines -/

/-- What stays true while lines are read: the closed tables have distinct names and, before the
first header, the open one has, as it is the document itself. -/
structure Distinct (state : State) : Prop where
  root : (names state.root).Nodup
  entries : state.path = [] → (names state.entries).Nodup

theorem distinct_initial : Distinct .initial where
  root := List.nodup_nil
  entries _ := List.nodup_nil

theorem Distinct.close (distinct : Distinct state) (h : state.close = .ok entries) :
    (names entries).Nodup := by
  rw [State.close] at h
  split at h
  · next noPath =>
    obtain rfl := Except.ok.inj h
    exact distinct.entries (List.getLast?_eq_none_iff.1 noPath)
  · next last _ =>
    refine nodup_changeAt ?_ h distinct.root
    intro info entries changed put distinct
    beta_reduce at put
    cases found : valueOf? last.name entries with
    | none =>
      rw [found] at put
      obtain rfl := Except.ok.inj put
      exact nodup_append distinct found
    | some v =>
      rw [found] at put
      cases v with
      | tables elements =>
        simp only at put
        split at put
        · obtain rfl := Except.ok.inj put
          exact nodup_putEntry distinct (by simp [found])
        · cases put
      | _ => cases put

theorem Distinct.openTable (distinct : Distinct state) {span : Span}
    (h : state.openTable path span = .ok next) : Distinct next := by
  simp only [State.openTable, bind, bind_eq_ok_iff] at h
  obtain ⟨root, closed, found, find, rest, remove, same⟩ := h
  obtain rfl := Except.ok.inj same
  have foundDistinct : (names found).Nodup := by
    refine nodup_changeAt ?_ find (distinct.close closed)
    intro info entries changed find distinct
    beta_reduce at find
    cases present : valueOf? ((path.getLast?.map Key.name).getD []) entries with
    | none =>
      rw [present] at find
      exact Except.ok.inj find ▸ distinct
    | some v =>
      rw [present] at find
      cases v with
      | table info inner =>
        simp only at find
        split at find
        · exact Except.ok.inj find ▸ distinct
        · cases find
      | _ => cases find
  constructor
  · refine nodup_changeAt ?_ remove foundDistinct
    intro info entries changed remove distinct
    obtain rfl := Except.ok.inj remove
    exact distinct.sublist (List.filter_sublist.map _)
  · intro noPath
    simp only at noPath
    subst noPath
    exact foundDistinct

theorem Distinct.openCollected (distinct : Distinct state) {span : Span}
    (h : state.openCollected path span = .ok next) : Distinct next := by
  simp only [State.openCollected, bind, bind_eq_ok_iff] at h
  obtain ⟨root, closed, checked, check, same⟩ := h
  obtain rfl := Except.ok.inj same
  constructor
  · refine nodup_changeAt ?_ check (distinct.close closed)
    intro info entries changed check distinct
    beta_reduce at check
    cases present : valueOf? ((path.getLast?.map Key.name).getD []) entries with
    | none =>
      rw [present] at check
      cases last : path.getLast? with
      | none =>
        rw [last] at check
        cases check
      | some key =>
        rw [last] at check present
        obtain rfl := Except.ok.inj check
        exact nodup_append distinct present
    | some v =>
      rw [present] at check
      cases v with
      | tables elements => exact Except.ok.inj check ▸ distinct
      | _ => cases check
  · exact fun _ => List.nodup_nil

theorem Distinct.put (distinct : Distinct state) (h : state.put path v = .ok next) :
    Distinct next := by
  rw [State.put] at h
  split at h
  · exact Except.ok.inj h ▸ distinct
  · next last _ =>
    simp only [bind, bind_eq_ok_iff] at h
    obtain ⟨entries, added, same⟩ := h
    obtain rfl := Except.ok.inj same
    refine ⟨distinct.root, fun noPath => nodup_changeAt ?_ added (distinct.entries noPath)⟩
    intro info entries changed put distinct
    beta_reduce at put
    split at put
    · cases put
    · split at put
      · cases put
      · next absent =>
        obtain rfl := Except.ok.inj put
        exact nodup_append distinct (by simpa using absent)

theorem Distinct.keyLine (distinct : Distinct state)
    (h : keyLine state s = .ok (next, rest)) : Distinct next := by
  unfold Toml.keyLine at h
  split at h
  · cases h
  · split at h
    · cases h
    · split at h
      · cases h
      · split at h
        · cases h
        · split at h
          · cases h
          · next put =>
            cases h
            exact distinct.put put

theorem Distinct.headerLine (distinct : Distinct state)
    (h : headerLine state s = .ok (next, rest)) : Distinct next := by
  simp only [Toml.headerLine, mapError_eq_ok_iff] at h
  split at h
  · cases h
  · split at h
    · cases h
    · next path after _ =>
      by_cases double : s.tail.head? = some '['
      all_goals
        simp only [double, if_true, if_false] at h
        split at h
        · cases h
        split at h
        · cases h
        split at h
        · cases h
        rename_i opened
        cases h
      · exact distinct.openCollected opened
      · exact distinct.openTable opened

/-- Lines keep names distinct. -/
theorem Distinct.lines (distinct : Distinct state) {fuel : Nat}
    (h : lines fuel state s = .ok next) : Distinct next := by
  induction fuel generalizing state s with
  | zero =>
    unfold Toml.lines at h
    split at h
    · exact Except.ok.inj h ▸ distinct
    · cases h
    · contradiction
  | succ fuel ih =>
    unfold Toml.lines at h
    split at h
    · exact Except.ok.inj h ▸ distinct
    · contradiction
    · next same _ =>
      obtain rfl := Nat.succ.inj same
      split at h
      · split at h
        · cases h
        · exact ih distinct h
      · split at h
        · cases h
        · next line =>
          split at line
          · exact ih (distinct.headerLine line) h
          · exact ih (distinct.keyLine line) h

/-- **No key of a document stands there twice.** -/
theorem names_document_nodup {text : Text} (h : document text = .ok entries) :
    (names entries).Nodup := by
  simp only [document] at h
  generalize body : (if text.head? = some '\uFEFF' then text.tail else text) = body at h
  split at h
  · cases h
  · next read => exact (distinct_initial.lines read).close (mapError_eq_ok_iff.1 h)

end PathGlob.Toml
