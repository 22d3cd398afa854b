import PathGlob.Json.Faults
import PathGlob.Proofs.Glob.Errors
import PathGlob.Proofs.Json.RoundTrip
import PathGlob.Proofs.Text.Quoted

/-!
# PathGlob.Proofs.Json.Faults

**Reading a rule set fails with its first fault** (`decode_firstFault`). Which values are rule sets
and what is wrong first with the others is said by the shape of the value (`IsGlobSet`,
`SetFault`); the reader agrees, list by list. What the error says is told by `FaultText`.

Of a list only the items up to the first bad one count. The two lists are read in the order that
the shape of the rule set asks for, and the second only if the first is in order; so each fault of a
set comes with what has been found to be in order before.
-/

namespace PathGlob.Json

variable {value : Value} {items : List Value} {list : Option Value} {error : DecodeError}
  {fields : List (Text × Value)}

/-! ### Lists -/

/-- Items that are globs do not count for the fault of the items behind them. -/
theorem decodeItems_append_eq_error_iff {before : List Text}
    (h : ∀ text ∈ before, Glob.compiles text = true) {rest : List Value} :
    decodeItems (before.map .string ++ rest) = .error error ↔ decodeItems rest = .error error := by
  induction before with
  | nil => rfl
  | cons text before ih =>
    rw [List.forall_mem_cons] at h
    obtain ⟨glob, compiled⟩ := Glob.exists_of_compiles h.1
    have read : decodeGlob (.string text) = .ok glob := by
      rw [decodeGlob, compiled]
      rfl
    rw [List.map_cons, List.cons_append, decodeItems, read, ← ih h.2]
    exact map_eq_error_iff

theorem decodeGlob_of_not_string (h : ∀ text, value ≠ .string text) :
    decodeGlob value = .error (.wrongKind value .string) := by
  cases value with
  | string text => exact absurd rfl (h text)
  | null | bool | integer | float | array | object => rfl

theorem decodeItems_cons_eq_error {item : Value} (h : decodeGlob item = .error error) :
    decodeItems (item :: items) = .error error := by
  rw [decodeItems, h]

/-- The fault of a list stays the first one if a glob is put in front. -/
theorem ListFault.cons {text : Text} (compiles : Glob.compiles text = true)
    (h : ListFault (.array items) error) : ListFault (.array (.string text :: items)) error := by
  generalize same : Value.array items = value at h
  cases h with
  | notArray noArray => exact absurd same.symm (noArray items)
  | notString before noString =>
    obtain rfl := Value.array.inj same
    exact .notString (List.forall_mem_cons.2 ⟨compiles, before⟩) noString
  | badGlob before refused =>
    obtain rfl := Value.array.inj same
    exact .badGlob (List.forall_mem_cons.2 ⟨compiles, before⟩) refused

/-- An item that is no glob is the first fault of a list that starts with it. -/
theorem listFault_of_decodeGlob {item : Value} (h : decodeGlob item = .error error) :
    ListFault (.array (item :: items)) error := by
  have none : ∀ text ∈ ([] : List Text), Glob.compiles text = true := nofun
  by_cases noString : ∀ text, item ≠ .string text
  · obtain rfl := Except.error.inj ((decodeGlob_of_not_string noString).symm.trans h)
    exact .notString none noString
  · obtain ⟨text, rfl⟩ := not_forall_not.1 noString
    obtain ⟨fault, refused, rfl⟩ := mapError_eq_error_iff.1 h
    exact .badGlob none refused

/-- Reading items from left to right fails with the first fault of the list. -/
theorem decodeItems_eq_error_iff :
    decodeItems items = .error error ↔ ListFault (.array items) error := by
  constructor
  · intro h
    induction items with
    | nil => cases h
    | cons item items ih =>
      cases first : decodeGlob item with
      | error fault =>
        obtain rfl := Except.error.inj ((decodeItems_cons_eq_error first).symm.trans h)
        exact listFault_of_decodeGlob first
      | ok glob =>
        rw [decodeItems, first] at h
        obtain rfl := decodeGlob_eq_ok_iff.1 first
        exact (ih (map_eq_error_iff.1 h)).cons (Glob.compiles_iff.2 ⟨glob, rfl⟩)
  · intro h
    generalize same : Value.array items = value at h
    cases h with
    | notArray noArray => exact absurd same.symm (noArray items)
    | notString compile noString =>
      obtain rfl := Value.array.inj same
      rw [decodeItems_append_eq_error_iff compile]
      exact decodeItems_cons_eq_error (decodeGlob_of_not_string noString)
    | badGlob compile refused =>
      obtain rfl := Value.array.inj same
      rw [decodeItems_append_eq_error_iff compile]
      refine decodeItems_cons_eq_error ?_
      rw [decodeGlob, refused]
      rfl

theorem listFault_of_not_array (h : ∀ items, value ≠ .array items) :
    ListFault value error ↔ error = .wrongKind value .sequence := by
  constructor
  · intro fault
    cases fault with
    | notArray => rfl
    | notString => exact absurd rfl (h _)
    | badGlob => exact absurd rfl (h _)
  · intro same
    obtain rfl := same
    exact .notArray h

theorem decodeGlobs_of_not_array (h : ∀ items, value ≠ .array items) :
    decodeGlobs (some value) = .error (.wrongKind value .sequence) := by
  cases value with
  | array items => exact absurd rfl (h items)
  | null | bool | integer | float | string | object => rfl

/-- Reading a list fails with its first fault; a list that is absent has none. -/
theorem decodeGlobs_eq_error_iff :
    decodeGlobs list = .error error ↔ ∃ v, list = some v ∧ ListFault v error := by
  cases list with
  | none => simp [decodeGlobs]
  | some v =>
    simp only [Option.some.injEq, exists_eq_left']
    by_cases array : ∃ items, v = .array items
    · obtain ⟨items, rfl⟩ := array
      exact decodeItems_eq_error_iff
    · have noArray := not_exists.1 array
      rw [decodeGlobs_of_not_array noArray, listFault_of_not_array noArray, Except.error.injEq,
        eq_comm]

/-- A list is read if all of its items are globs. -/
theorem exists_decodeGlobs_iff : (∃ globs, decodeGlobs list = .ok globs) ↔ IsGlobList list := by
  simp only [decodeGlobs_eq_ok_iff, IsGlobList, ← Glob.exists_map_text_iff]
  constructor
  · intro h v same
    obtain ⟨globs, holds⟩ := h
    generalize texts : globs.map Glob.text = patterns at holds
    cases holds with
    | absent => cases same
    | array patterns => exact ⟨patterns, (Option.some.inj same).symm, globs, texts⟩
  · intro h
    cases list with
    | none => exact ⟨[], .absent⟩
    | some v =>
      obtain ⟨_, rfl, globs, rfl⟩ := h v rfl
      exact ⟨globs, .array _⟩

theorem isGlobList_none : IsGlobList none :=
  nofun

/-! ### Rule sets -/

theorem isGlobSet_array_iff :
    IsGlobSet (.array items) ↔
      items.length ≤ 2 ∧ IsGlobList items[0]? ∧ IsGlobList items[1]? := by
  refine and_congr_right fun short => ?_
  match items, short with
  | [], _ => simp [isGlobList_none]
  | [u], _ => simp [isGlobList_none]
  | [u, v], _ => simp

theorem exists_decodeGlobSet_iff : (∃ set, decodeGlobSet value = .ok set) ↔ IsGlobSet value := by
  cases value with
  | object fields =>
    simp only [decodeGlobSet_object_eq_ok_iff, IsGlobSet, ← exists_decodeGlobs_iff]
    constructor
    · intro h
      obtain ⟨set, includes, excludes⟩ := h
      exact ⟨⟨_, includes⟩, _, excludes⟩
    · intro h
      obtain ⟨⟨includes, read⟩, excludes, read'⟩ := h
      exact ⟨⟨includes, excludes⟩, read, read'⟩
  | array items =>
    simp only [decodeGlobSet_array_eq_ok_iff, isGlobSet_array_iff, ← exists_decodeGlobs_iff]
    constructor
    · intro h
      obtain ⟨set, short, includes, excludes⟩ := h
      exact ⟨short, ⟨_, includes⟩, _, excludes⟩
    · intro h
      obtain ⟨short, ⟨includes, read⟩, excludes, read'⟩ := h
      exact ⟨⟨includes, excludes⟩, short, read, read'⟩
  | null | bool | integer | float | string => simp [decodeGlobSet, IsGlobSet]

theorem setFault_object_iff :
    SetFault (.object fields) error ↔
      (∃ v, fields.lookup "exclude".toList = some v ∧ ListFault v error) ∨
        IsGlobList (fields.lookup "exclude".toList) ∧
          ∃ v, fields.lookup "include".toList = some v ∧ ListFault v error := by
  constructor
  · intro h
    cases h with
    | neither noObject => exact absurd rfl (noObject fields)
    | excludes found fault => exact .inl ⟨_, found, fault⟩
    | includes others found fault => exact .inr ⟨others, _, found, fault⟩
  · intro h
    rcases h with ⟨v, found, fault⟩ | ⟨others, v, found, fault⟩
    · exact .excludes found fault
    · exact .includes others found fault

/-- Of an object the excludes count first. -/
theorem decodeGlobSet_object_eq_error_iff :
    decodeGlobSet (.object fields) = .error error ↔ SetFault (.object fields) error := by
  rw [setFault_object_iff, ← decodeGlobs_eq_error_iff, ← decodeGlobs_eq_error_iff,
    ← exists_decodeGlobs_iff, decodeGlobSet]
  cases decodeGlobs (fields.lookup "exclude".toList) with
  | error fault => simp
  | ok excludes => simp [map_eq_error_iff]

theorem setFault_array_iff :
    SetFault (.array items) error ↔
      (∃ v, items[0]? = some v ∧ ListFault v error) ∨
        (IsGlobList items[0]? ∧ ∃ v, items[1]? = some v ∧ ListFault v error) ∨
        IsGlobList items[0]? ∧ IsGlobList items[1]? ∧ 2 < items.length ∧
          error = .tooLong items.length := by
  constructor
  · intro h
    cases h with
    | neither noObject noArray => exact absurd rfl (noArray items)
    | firstItem fault => exact .inl ⟨_, rfl, fault⟩
    | secondItem first fault => exact .inr (.inl ⟨first, _, rfl, fault⟩)
    | @tooLong _ _ _ more first second =>
      refine .inr (.inr ⟨first, second, ?_, rfl⟩)
      simp only [List.length_cons]
      omega
  · intro h
    cases items with
    | nil => simp at h
    | cons u more =>
      rcases h with ⟨v, found, fault⟩ | ⟨first, v, found, fault⟩ | ⟨first, second, long, same⟩
      · obtain rfl := Option.some.inj found
        exact .firstItem fault
      · cases more with
        | nil => cases found
        | cons w more =>
          obtain rfl := Option.some.inj found
          exact .secondItem first fault
      · subst same
        match more, long with
        | v :: w :: more, _ => exact .tooLong first second

/-- Of an array the items count in their order, and its length last. -/
theorem decodeGlobSet_array_eq_error_iff :
    decodeGlobSet (.array items) = .error error ↔ SetFault (.array items) error := by
  rw [setFault_array_iff, ← decodeGlobs_eq_error_iff, ← decodeGlobs_eq_error_iff,
    ← exists_decodeGlobs_iff, ← exists_decodeGlobs_iff, decodeGlobSet]
  cases decodeGlobs items[0]? with
  | error fault => simp
  | ok includes =>
    cases decodeGlobs items[1]? with
    | error fault => simp
    | ok excludes =>
      by_cases short : items.length ≤ 2
      · simp [short, Nat.not_lt.2 short]
      · simp [short, Nat.not_le.1 short, eq_comm]

/-- Reading a rule set fails with its first fault. -/
theorem decodeGlobSet_eq_error_iff :
    decodeGlobSet value = .error error ↔ SetFault value error := by
  by_cases object : ∃ fields, value = .object fields
  · obtain ⟨fields, rfl⟩ := object
    exact decodeGlobSet_object_eq_error_iff
  by_cases array : ∃ items, value = .array items
  · obtain ⟨items, rfl⟩ := array
    exact decodeGlobSet_array_eq_error_iff
  have noObject := not_exists.1 object
  have noArray := not_exists.1 array
  have wrong : decodeGlobSet value = .error (.wrongKind value .globSet) := by
    cases value with
    | object fields => exact absurd rfl (noObject fields)
    | array items => exact absurd rfl (noArray items)
    | null | bool | integer | float | string => rfl
  rw [wrong, Except.error.injEq]
  constructor
  · intro same
    obtain rfl := same
    exact .neither noObject noArray
  · intro fault
    cases fault with
    | neither => rfl
    | excludes => exact absurd rfl (noObject _)
    | includes => exact absurd rfl (noObject _)
    | firstItem => exact absurd rfl (noArray _)
    | secondItem => exact absurd rfl (noArray _)
    | tooLong => exact absurd rfl (noArray _)

/-! ### Texts -/

theorem kindWords_iff {words : Text} : KindWords value words ↔ words = value.kind := by
  constructor
  · intro h
    cases h with
    | null | yes | no | integer | float | array | object => rfl
    | string shown =>
      obtain rfl := Text.isQuoted_iff.1 shown
      rfl
  · intro h
    subst h
    cases value with
    | null => exact .null
    | bool b => cases b with
      | false => exact .no
      | true => exact .yes
    | integer n => exact .integer
    | float x => exact .float
    | string text => exact .string (Text.isQuoted_iff.2 rfl)
    | array items => exact .array
    | object fields => exact .object

theorem faultText_wrongKind_iff {expected : Expected} {words : Text} :
    FaultText (.wrongKind value expected) words ↔
      words = (DecodeError.wrongKind value expected).message := by
  constructor
  · intro h
    cases h with
    | notGlobSet kind | notArray kind | notString kind =>
      obtain rfl := kindWords_iff.1 kind
      rfl
  · intro h
    subst h
    have kind : KindWords value value.kind := kindWords_iff.2 rfl
    cases expected with
    | string => exact .notString kind
    | sequence => exact .notArray kind
    | globSet => exact .notGlobSet kind

theorem message_tooLarge (expression : Text) :
    (Glob.Error.compile expression .tooLarge).message =
      "Glob segment '".toList ++ expression ++ "' could not be compiled: ".toList ++
        "Compiled regex exceeds size limit of 10485760 bytes.".toList := by
  have cause : "Compiled regex exceeds size limit of ".toList ++
      Text.ofNat Expression.sizeLimit ++ " bytes.".toList =
        "Compiled regex exceeds size limit of 10485760 bytes.".toList := by decide +kernel
  rw [← cause]
  rfl

/-- A text that is no glob is told with the place where it stops being a pattern, or with the
segment that is too large. -/
theorem faultText_badGlob_iff {text words : Text} {fault : Glob.Error}
    (refused : Glob.ofText text = .error fault) :
    FaultText (.badGlob fault) words ↔ words = fault.message := by
  constructor
  · intro h
    cases h with
    | notPattern located =>
      obtain rfl := located.pattern
      rfl
    | tooLarge => rw [message_tooLarge]
  · intro h
    subst h
    cases parsed : Pattern.parse text with
    | error other =>
      obtain rfl := Except.error.inj
        ((Glob.ofText_eq_parse_error_iff.2 parsed).symm.trans refused)
      obtain ⟨place, located⟩ := Pattern.exists_located parsed
      obtain rfl := located.pattern
      exact .notPattern located
    | ok pattern =>
      obtain ⟨fragments, -, -, rfl⟩ := Glob.exists_tooLarge parsed refused
      rw [message_tooLarge]
      exact .tooLarge

/-- A fault of a pattern is that of a string in the value. -/
theorem ListFault.exists_text {fault : Glob.Error} (h : ListFault value (.badGlob fault)) :
    ∃ text, Glob.ofText text = .error fault := by
  cases h with
  | badGlob _ refused => exact ⟨_, refused⟩

theorem SetFault.exists_text {fault : Glob.Error} (h : SetFault value (.badGlob fault)) :
    ∃ text, Glob.ofText text = .error fault := by
  cases h with
  | excludes _ fault | includes _ _ fault | firstItem fault | secondItem _ fault =>
    exact fault.exists_text

theorem SetFault.text_iff {words : Text} (h : SetFault value error) :
    FaultText error words ↔ words = error.message := by
  cases error with
  | wrongKind found expected => exact faultText_wrongKind_iff
  | badGlob fault =>
    obtain ⟨text, refused⟩ := h.exists_text
    exact faultText_badGlob_iff refused
  | tooLong length =>
    constructor
    · intro told
      cases told
      rfl
    · intro same
      subst same
      exact .tooLong

/-! ### Main result -/

/-- **The first fault.** A value is read as a rule set if and only if it has the shape of one with
patterns that compile. Any other value has exactly one first fault, which is the error, and the
text of the error is the one that tells this fault; a pattern that does not compile is reported as
it is anywhere else. -/
theorem decode_firstFault (value : Value) :
    ((∃ set, decodeGlobSet value = .ok set) ↔ IsGlobSet value) ∧
      (∀ error, decodeGlobSet value = .error error ↔ SetFault value error) ∧
      (∀ fault : Glob.Error, (DecodeError.badGlob fault).message = fault.message) ∧
      ∀ error, decodeGlobSet value = .error error →
        ∀ words, FaultText error words ↔ words = error.message :=
  ⟨exists_decodeGlobSet_iff, fun _ => decodeGlobSet_eq_error_iff, fun _ => rfl,
    fun _ failed _ => (decodeGlobSet_eq_error_iff.1 failed).text_iff⟩

end PathGlob.Json
