import PathGlob.Proofs.Except
import PathGlob.Proofs.Toml.Keys
import PathGlob.Rules.Meaning

/-!
# PathGlob.Proofs.Rules.Meaning

**Reading rules gives those that the document has** (`ofDocument_eq_ok_iff`), and fails with the
first problem of a document that has none (`ofDocument_eq_error_iff`). Both are said by the entries
of the document (`HasRules`, `EntriesProblem`).

Rules are read into a set that may hold others already, so the induction over the entries is about
what they change in it (`Replaces`). An entry changes one of the two lists, and no later entry
changes it again, as the names of a document are distinct.
-/

namespace PathGlob.Rules

open Toml (Value Entries Key Span Problem)

/-- The problem that a complaint is about a value; `place` is where it lies if the complaint does
not tell. -/
def Complaint.problem (complaint : Complaint) (place : Span) : Problem where
  span := complaint.span.getD place
  message := complaint.message

variable {value item : Value} {items : List Value} {globs : List Glob} {key : Key} {place : Span}
  {entries more : Entries} {set result : GlobSet} {name : Text} {old new : List Glob}
  {complaint : Complaint} {problem : Problem} {document : Text}

theorem problem_wrongKind (found : Value) (expected : String) :
    (wrongKind found expected).problem place =
      { span := (spanOf found).getD place
        message := "invalid type: ".toList ++ kindOf found ++
          (", expected " ++ expected).toList } := by
  simp only [Complaint.problem, wrongKind, String.toList_append, List.append_assoc]

/-! ### Items -/

/-- Reads one pattern. -/
def readItem : Value → Except Complaint Glob
  | .string _ text =>
    (Glob.ofText text).mapError fun error => { span := none, message := error.message }
  | other => .error (wrongKind other "a string")

theorem outcome_readItems_cons :
    (readItems (item :: items)).outcome =
      (readItem item).bind fun glob => (readItems items).outcome.map (glob :: ·) := by
  cases item with
  | string span text =>
    rw [readItems, readItem]
    cases Glob.ofText text <;> rfl
  | _ => rfl

theorem readItem_of_not_string (h : ∀ span text, item ≠ .string span text) :
    readItem item = .error (wrongKind item "a string") := by
  cases item with
  | string span text => exact absurd rfl (h span text)
  | _ => rfl

theorem readItem_eq_ok_iff {glob : Glob} : readItem item = .ok glob ↔ IsGlob item glob := by
  constructor
  · intro h
    cases item with
    | string span text => exact .string (mapError_eq_ok_iff.1 h)
    | _ => cases h
  · rintro ⟨compiled⟩
    exact mapError_eq_ok_iff.2 compiled

theorem readItem_eq_error_iff :
    (∃ complaint, readItem item = .error complaint ∧ complaint.problem place = problem) ↔
      ItemProblem place item problem := by
  by_cases isString : ∃ span text, item = .string span text
  · obtain ⟨span, text, rfl⟩ := isString
    constructor
    · rintro ⟨complaint, refused, rfl⟩
      obtain ⟨error, failed, rfl⟩ := mapError_eq_error_iff.1 refused
      exact .badGlob failed
    · rintro (noString | failed)
      · exact absurd rfl (noString span text)
      · exact ⟨_, mapError_eq_error_iff.2 ⟨_, failed, rfl⟩, rfl⟩
  · push Not at isString
    rw [readItem_of_not_string isString]
    constructor
    · rintro ⟨complaint, refused, rfl⟩
      obtain rfl := Except.error.inj refused
      exact problem_wrongKind item "a string" ▸ .notString isString
    · rintro (_ | _)
      · exact ⟨_, rfl, problem_wrongKind item "a string"⟩
      · exact absurd rfl (isString _ _)

theorem readItems_eq_ok_iff :
    (readItems items).outcome = .ok globs ↔ List.Forall₂ IsGlob items globs := by
  induction items generalizing globs with
  | nil => simp [readItems, eq_comm]
  | cons item items ih =>
    simp only [outcome_readItems_cons, bind_eq_ok_iff, map_eq_ok_iff, readItem_eq_ok_iff, ih,
      List.forall₂_cons_left_iff]
    constructor
    · rintro ⟨glob, isGlob, globs, others, rfl⟩
      exact ⟨glob, globs, isGlob, others, rfl⟩
    · rintro ⟨glob, globs, isGlob, others, rfl⟩
      exact ⟨glob, isGlob, globs, others, rfl⟩

/-- Reading items from left to right fails at the first that is not the pattern of a glob. -/
theorem readItems_eq_error_iff :
    (∃ complaint, (readItems items).outcome = .error complaint ∧
        complaint.problem place = problem) ↔
      ∃ before item after globs, items = before ++ item :: after ∧
        List.Forall₂ IsGlob before globs ∧ ItemProblem place item problem := by
  induction items with
  | nil => simp [readItems]
  | cons item items ih =>
    rw [outcome_readItems_cons]
    cases read : readItem item with
    | error complaint =>
      have stops : (∃ refusal, Except.error (α := List Glob) complaint = .error refusal ∧
          refusal.problem place = problem) ↔ ItemProblem place item problem := by
        rw [← readItem_eq_error_iff, read]
        simp
      constructor
      · intro h
        exact ⟨[], item, items, [], rfl, .nil, stops.1 h⟩
      · rintro ⟨before, other, after, globs, cut, compile, isProblem⟩
        cases compile with
        | nil =>
          obtain ⟨rfl, rfl⟩ := List.cons.inj cut
          exact stops.2 isProblem
        | cons isGlob _ =>
          obtain ⟨rfl, -⟩ := List.cons.inj cut
          cases (readItem_eq_ok_iff.2 isGlob).symm.trans read
    | ok glob =>
      have isGlob := readItem_eq_ok_iff.1 read
      simp only [Except.bind, map_eq_error_iff, ih]
      constructor
      · rintro ⟨before, other, after, globs, rfl, compile, isProblem⟩
        exact ⟨item :: before, other, after, glob :: globs, rfl, .cons isGlob compile, isProblem⟩
      · rintro ⟨before, other, after, globs, cut, compile, isProblem⟩
        cases compile with
        | nil =>
          obtain ⟨rfl, rfl⟩ := List.cons.inj cut
          obtain ⟨_, refused, -⟩ := readItem_eq_error_iff.2 isProblem
          cases refused.symm.trans read
        | cons _ compile =>
          obtain ⟨rfl, rfl⟩ := List.cons.inj cut
          exact ⟨_, other, after, _, rfl, compile, isProblem⟩

/-! ### Lists -/

theorem hasItems_unique {others : List Value} (h : HasItems value items)
    (h' : HasItems value others) : items = others := by
  cases h <;> cases h' <;> rfl

theorem outcome_readList_of_items (h : HasItems value items) :
    (readList key value).outcome = (readItems items).outcome.mapError fun complaint =>
      { complaint with span := complaint.span <|> spanOf value <|> some key.span } := by
  cases h <;> rfl

theorem outcome_readList_of_not_list (h : ∀ items, ¬ HasItems value items) :
    (readList key value).outcome = .error
      { wrongKind value "a sequence" with span := spanOf value <|> some key.span } := by
  cases value with
  | array span items => exact absurd .array (h items)
  | tables elements => exact absurd .tables (h elements)
  | table info inner =>
    simp only [readList, Except.mapError, wrongKind, spanOf]
    cases info.span <;> rfl
  | _ => rfl

theorem readList_eq_ok_iff : (readList key value).outcome = .ok globs ↔ IsGlobs value globs := by
  by_cases isList : ∃ items, HasItems value items
  · obtain ⟨items, isList⟩ := isList
    rw [outcome_readList_of_items isList, mapError_eq_ok_iff, readItems_eq_ok_iff]
    constructor
    · exact fun compile => ⟨items, isList, compile⟩
    · rintro ⟨others, isList', compile⟩
      rwa [hasItems_unique isList isList']
  · rw [outcome_readList_of_not_list (not_exists.1 isList)]
    constructor
    · nofun
    · rintro ⟨items, isItems, -⟩
      exact absurd ⟨items, isItems⟩ isList

/-- A place that is not told is that of the list, or else that of its key. -/
theorem problem_placed (whole : Span) :
    Complaint.problem
        { complaint with span := complaint.span <|> spanOf value <|> some key.span } whole =
      complaint.problem ((spanOf value).getD key.span) := by
  simp only [Complaint.problem]
  cases complaint.span <;> cases spanOf value <;> rfl

/-- Reading a list fails with its first problem, the place of which is always known. -/
theorem readList_eq_error_iff (whole : Span) :
    (∃ complaint, (readList key value).outcome = .error complaint ∧
        complaint.problem whole = problem) ↔
      ListProblem ((spanOf value).getD key.span) value problem := by
  by_cases isList : ∃ items, HasItems value items
  · obtain ⟨items, isList⟩ := isList
    rw [outcome_readList_of_items isList]
    constructor
    · rintro ⟨_, failed, rfl⟩
      obtain ⟨complaint, refused, rfl⟩ := mapError_eq_error_iff.1 failed
      obtain ⟨before, item, after, globs, rfl, compile, isProblem⟩ :=
        readItems_eq_error_iff.1 ⟨complaint, refused, rfl⟩
      rw [problem_placed]
      exact .item isList compile isProblem
    · rintro (notList | ⟨isList', compile, isProblem⟩)
      · exact absurd isList (notList items)
      · obtain ⟨complaint, refused, rfl⟩ := readItems_eq_error_iff.2
          ⟨_, _, _, _, hasItems_unique isList isList', compile, isProblem⟩
        exact ⟨_, mapError_eq_error_iff.2 ⟨complaint, refused, rfl⟩, problem_placed whole⟩
  · have notList := not_exists.1 isList
    have told : Complaint.problem
        { wrongKind value "a sequence" with span := spanOf value <|> some key.span } whole =
          { span := (spanOf value).getD key.span
            message := "invalid type: ".toList ++ kindOf value ++
              ", expected a sequence".toList } := by
      refine Eq.trans ?_ (problem_wrongKind value "a sequence")
      simp only [Complaint.problem, wrongKind]
      cases spanOf value <;> rfl
    rw [outcome_readList_of_not_list notList]
    constructor
    · rintro ⟨_, failed, rfl⟩
      obtain rfl := Except.error.inj failed
      exact told ▸ .notList notList
    · rintro (_ | ⟨isList', -, -⟩)
      · exact ⟨_, rfl, told⟩
      · exact absurd isList' (notList _)

/-! ### Entries -/

/-- The globs under a name, read into a list that may hold others: they take their place, and
without an entry of that name nothing changes. -/
def Replaces (entries : Entries) (name : Text) (old new : List Glob) : Prop :=
  (name ∉ Toml.names entries ∧ new = old) ∨
    ∃ key value, (key, value) ∈ entries ∧ key.name = name ∧ IsGlobs value new

theorem replaces_nil_iff : Replaces entries name [] globs ↔ HasGlobs entries name globs := by
  constructor
  · rintro (⟨absent, rfl⟩ | ⟨key, value, mem, same, isGlobs⟩)
    · exact .absent fun entry mem same => absent (List.mem_map.2 ⟨entry, mem, same⟩)
    · exact .present mem same isGlobs
  · rintro (absent | ⟨mem, same, isGlobs⟩)
    · exact .inl ⟨fun mem => (List.mem_map.1 mem).elim fun entry h => absent entry h.1 h.2, rfl⟩
    · exact .inr ⟨_, _, mem, same, isGlobs⟩

theorem replaces_of_notMem (absent : name ∉ Toml.names entries) :
    Replaces entries name old new ↔ new = old := by
  constructor
  · rintro (⟨-, same⟩ | ⟨key, value, mem, same, -⟩)
    · exact same
    · exact absurd (List.mem_map.2 ⟨_, mem, same⟩) absent
  · exact fun same => .inl ⟨absent, same⟩

theorem replaces_empty : Replaces [] name old new ↔ new = old :=
  replaces_of_notMem List.not_mem_nil

theorem replaces_cons_of_ne (other : key.name ≠ name) :
    Replaces ((key, value) :: entries) name old new ↔ Replaces entries name old new := by
  have names : name ∉ Toml.names ((key, value) :: entries) ↔ name ∉ Toml.names entries := by
    simp [Toml.names, other.symm]
  rw [Replaces, Replaces, names]
  refine or_congr_right ?_
  constructor
  · rintro ⟨k, v, mem, same, isGlobs⟩
    rcases List.mem_cons.1 mem with first | mem
    · obtain ⟨rfl, -⟩ := Prod.mk.inj first
      exact absurd same other
    · exact ⟨k, v, mem, same, isGlobs⟩
  · rintro ⟨k, v, mem, same, isGlobs⟩
    exact ⟨k, v, List.mem_cons_of_mem _ mem, same, isGlobs⟩

/-- The entry of a name is the only one of that name. -/
theorem replaces_cons_of_eq (absent : key.name ∉ Toml.names entries) :
    Replaces ((key, value) :: entries) key.name old new ↔ IsGlobs value new := by
  constructor
  · rintro (⟨none, -⟩ | ⟨k, v, mem, same, isGlobs⟩)
    · exact absurd List.mem_cons_self none
    · rcases List.mem_cons.1 mem with first | mem
      · obtain ⟨rfl, rfl⟩ := Prod.mk.inj first
        exact isGlobs
      · exact absurd (List.mem_map.2 ⟨_, mem, same⟩) absent
  · exact fun isGlobs => .inr ⟨key, value, List.mem_cons_self, rfl, isGlobs⟩

theorem outcome_readEntries_include (h : key.name = "include".toList) :
    (readEntries set ((key, value) :: more)).outcome = (readList key value).outcome.bind
      fun globs => (readEntries { set with includes := globs } more).outcome := by
  simp only [readEntries, h]
  cases (readList key value).outcome <;> rfl

theorem outcome_readEntries_exclude (h : key.name = "exclude".toList) :
    (readEntries set ((key, value) :: more)).outcome = (readList key value).outcome.bind
      fun globs => (readEntries { set with excludes := globs } more).outcome := by
  simp only [readEntries, h]
  cases (readList key value).outcome <;> rfl

theorem mem_names_iff : name ∈ names ↔ name = "include".toList ∨ name = "exclude".toList := by
  rw [names, List.mem_cons, List.mem_singleton]

theorem readEntries_of_other (h : key.name ∉ names) :
    readEntries set ((key, value) :: more) = readEntries set more := by
  rw [mem_names_iff, not_or] at h
  simp only [readEntries, h.1, h.2, decide_false, Bool.or_self, Bool.false_eq_true, if_false]

theorem readEntries_eq_ok_iff (distinct : (Toml.names entries).Nodup) :
    (readEntries set entries).outcome = .ok result ↔
      Replaces entries "include".toList set.includes result.includes ∧
        Replaces entries "exclude".toList set.excludes result.excludes := by
  induction entries generalizing set with
  | nil =>
    obtain ⟨includes, excludes⟩ := set
    obtain ⟨includes', excludes'⟩ := result
    simp [readEntries, replaces_empty, eq_comm]
  | cons entry more ih =>
    obtain ⟨key, value⟩ := entry
    obtain ⟨absent, distinct⟩ := List.nodup_cons.1 distinct
    by_cases isInclude : key.name = "include".toList
    · have other : key.name ≠ "exclude".toList := by
        rw [isInclude]
        decide
      rw [outcome_readEntries_include isInclude, replaces_cons_of_ne other, ← isInclude,
        replaces_cons_of_eq absent, bind_eq_ok_iff]
      simp only [readList_eq_ok_iff, ih distinct, ← isInclude, replaces_of_notMem absent]
      constructor
      · rintro ⟨globs, isGlobs, rfl, excludes⟩
        exact ⟨isGlobs, excludes⟩
      · rintro ⟨isGlobs, excludes⟩
        exact ⟨_, isGlobs, rfl, excludes⟩
    by_cases isExclude : key.name = "exclude".toList
    · rw [outcome_readEntries_exclude isExclude, replaces_cons_of_ne isInclude, ← isExclude,
        replaces_cons_of_eq absent, bind_eq_ok_iff]
      simp only [readList_eq_ok_iff, ih distinct, ← isExclude, replaces_of_notMem absent]
      constructor
      · rintro ⟨globs, isGlobs, includes, rfl⟩
        exact ⟨includes, isGlobs⟩
      · rintro ⟨includes, isGlobs⟩
        exact ⟨_, isGlobs, includes, rfl⟩
    · have other : key.name ∉ names := mt mem_names_iff.1 (not_or.2 ⟨isInclude, isExclude⟩)
      rw [readEntries_of_other other, ih distinct, replaces_cons_of_ne isInclude,
        replaces_cons_of_ne isExclude]

theorem entriesProblem_cons_iff :
    EntriesProblem ((key, value) :: entries) problem ↔
      (key.name ∈ names ∧ ListProblem ((spanOf value).getD key.span) value problem) ∨
        (key.name ∈ names → ∃ globs, IsGlobs value globs) ∧ EntriesProblem entries problem := by
  constructor
  · intro h
    generalize same : (key, value) :: entries = all at h
    obtain @⟨before, after, k, v, _, fine, isName, isProblem⟩ := h
    cases before with
    | nil =>
      obtain ⟨first, rfl⟩ := List.cons.inj same
      obtain ⟨rfl, rfl⟩ := Prod.mk.inj first
      exact .inl ⟨isName, isProblem⟩
    | cons entry before =>
      obtain ⟨rfl, rfl⟩ := List.cons.inj same
      rw [List.forall_mem_cons] at fine
      exact .inr ⟨fine.1, .intro fine.2 isName isProblem⟩
  · rintro (⟨isName, isProblem⟩ | ⟨first, ⟨fine, isName, isProblem⟩⟩)
    · have here : EntriesProblem ([] ++ (key, value) :: entries) problem :=
        .intro nofun isName isProblem
      exact here
    · rw [← List.cons_append]
      exact .intro (List.forall_mem_cons.2 ⟨first, fine⟩) isName isProblem

/-- A list of rules that cannot be read ends the reading of entries. -/
theorem exists_outcome_readEntries (set : GlobSet) (value : Value) (more : Entries)
    (h : key.name ∈ names) :
    ∃ update : List Glob → GlobSet, (readEntries set ((key, value) :: more)).outcome =
      (readList key value).outcome.bind fun globs => (readEntries (update globs) more).outcome := by
  rcases mem_names_iff.1 h with isInclude | isExclude
  · exact ⟨_, outcome_readEntries_include isInclude⟩
  · exact ⟨_, outcome_readEntries_exclude isExclude⟩

/-- Reading entries fails with the first problem in them. -/
theorem readEntries_eq_error_iff (whole : Span) :
    (∃ complaint, (readEntries set entries).outcome = .error complaint ∧
        complaint.problem whole = problem) ↔ EntriesProblem entries problem := by
  induction entries generalizing set with
  | nil =>
    constructor
    · rintro ⟨_, failed, -⟩
      cases failed
    · intro h
      generalize same : ([] : Entries) = all at h
      obtain @⟨before, after, k, v, _, fine, isName, isProblem⟩ := h
      cases before <;> cases same
  | cons entry more ih =>
    obtain ⟨key, value⟩ := entry
    rw [entriesProblem_cons_iff]
    by_cases isName : key.name ∈ names
    · obtain ⟨update, outcome⟩ := exists_outcome_readEntries set value more isName
      rw [outcome, ← readList_eq_error_iff whole]
      cases list : (readList key value).outcome with
      | error complaint =>
        have noGlobs : ¬ ∃ globs, IsGlobs value globs := by
          rintro ⟨globs, isGlobs⟩
          cases (readList_eq_ok_iff.2 isGlobs).symm.trans list
        simp [Except.bind, isName, noGlobs]
      | ok globs =>
        have isGlobs := readList_eq_ok_iff.1 list
        simp only [Except.bind, ih]
        simp [isName, show ∃ globs, IsGlobs value globs from ⟨globs, isGlobs⟩]
    · rw [readEntries_of_other isName, ih]
      simp [isName]

/-! ### Main results -/

/-- **Reading rules** gives those that the document has. -/
theorem ofDocument_eq_ok_iff :
    (ofDocument document).1 = .ok set ↔
      ∃ entries, Toml.document document = .ok entries ∧ HasRules entries set := by
  rw [ofDocument]
  cases read : Toml.document document with
  | error fault => simp
  | ok entries =>
    simp only [mapError_eq_ok_iff, readEntries_eq_ok_iff (Toml.names_document_nodup read),
      Except.ok.injEq, exists_eq_left']
    constructor
    · rintro ⟨includes, excludes⟩
      exact ⟨replaces_nil_iff.1 includes, replaces_nil_iff.1 excludes⟩
    · rintro ⟨includes, excludes⟩
      exact ⟨replaces_nil_iff.2 includes, replaces_nil_iff.2 excludes⟩

/-- **A document without rules** is no document at all, or something is wrong with its entries. -/
theorem ofDocument_eq_error_iff :
    (ofDocument document).1 = .error problem ↔
      (∃ fault, Toml.document document = .error fault ∧ fault.problem = problem) ∨
        ∃ entries, Toml.document document = .ok entries ∧ EntriesProblem entries problem := by
  rw [ofDocument]
  cases read : Toml.document document with
  | error fault => simp
  | ok entries =>
    simp only [mapError_eq_error_iff, reduceCtorEq, false_and, exists_false, false_or,
      Except.ok.injEq, exists_eq_left']
    exact readEntries_eq_error_iff _

end PathGlob.Rules
