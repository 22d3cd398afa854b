import PathGlob.Json.Reader
import PathGlob.Log.Record
import PathGlob.Proofs.Decimal.Digits
import PathGlob.Proofs.Json.RoundTrip

/-!
# PathGlob.Proofs.Json.Reading

**What is written is read back** (`Value.read?_write`): a value without floating point numbers,
whose integers fit into 64 bits and whose objects have no key twice, is the only value that its
text can be read as. So a rule set survives being written to a text (`read?_encodeGlobSet`), and a
line of the log is the record of its event (`read?_record`).

A value is read with something behind it, which decides where a number ends: a comma, a closing
bracket or nothing (`Ends`).
-/

namespace PathGlob.Json

variable {c d : Char} {n : Nat} {s t rest : Text}

/-! ### Strings -/

theorem readString?_plain (quote : c ≠ '"') (backslash : c ≠ '\\') (control : ¬ c.toNat < 0x20)
    (read : readString? rest = some (t, s)) : readString? (c :: rest) = some (c :: t, s) := by
  rw [readString?]
  · simp [control, read]
  all_goals
    intros
    simp_all

theorem readString?_short (stands : escape? c = some d) (read : readString? rest = some (t, s)) :
    readString? ('\\' :: c :: rest) = some (d :: t, s) := by
  have notUnit : c ≠ 'u' := by
    rintro rfl
    cases stands
  rw [readString?]
  · simp [stands, read]
  all_goals
    intros
    simp_all

/-- A string that starts with a code unit can be read only if the unit can. -/
theorem exists_hexUnit? {e f g h : Char}
    (read : readString? ('\\' :: 'u' :: e :: f :: g :: h :: rest) = some (t, s)) :
    ∃ unit, hexUnit? e f g h = some unit := by
  cases unit : hexUnit? e f g h with
  | some n => exact ⟨n, rfl⟩
  | none =>
    rw [readString?.eq_def] at read
    split at read
    · next same => cases same
    · next same => cases same
    · next same =>
      cases same
      simp [unit] at read
    · next same =>
      cases same
      simp [unit] at read
    · next notUnit same =>
      cases same
      exact absurd rfl (notUnit _ _ _ _ _ rfl)
    · next notEscape same =>
      cases same
      exact absurd rfl (notEscape _ _ rfl)

/-- A code unit that is no surrogate is a character, also in front of another unit. -/
theorem readString?_unit {a b x y : Char} (unit : hexUnit? a b x y = some n) (small : n < 0xD800)
    (read : readString? rest = some (t, s)) :
    readString? ('\\' :: 'u' :: a :: b :: x :: y :: rest) = some (Char.ofNat n :: t, s) := by
  have notHigh : ¬ 0xD800 ≤ n := Nat.not_le.2 small
  rw [readString?.eq_def]
  split
  · next same => cases same
  · next same => cases same
  · next same =>
    cases same
    obtain ⟨low, lowUnit⟩ := exists_hexUnit? read
    simp [unit, lowUnit, notHigh, read]
  · next same =>
    cases same
    simp [unit, notHigh, read]
  · next notUnit same =>
    cases same
    exact absurd rfl (notUnit _ _ _ _ _ rfl)
  · next notEscape same =>
    cases same
    exact absurd rfl (notEscape _ _ rfl)

/-- The four digits of a control character are its code unit. -/
theorem exists_hexUnit?_zeroPad (control : n < 0x20) : ∃ a b x y,
    Text.zeroPad 4 (Nat.toDigits 16 n) = [a, b, x, y] ∧ hexUnit? a b x y = some n := by
  have all : ∀ n < 0x20, (Text.zeroPad 4 (Nat.toDigits 16 n)).length = 4 ∧
      ((Text.zeroPad 4 (Nat.toDigits 16 n)).mapM (Decimal.digit? 16)).map (Decimal.ofDigits 16) =
        some n := by decide
  obtain ⟨four, value⟩ := all n control
  match digits : Text.zeroPad 4 (Nat.toDigits 16 n), four with
  | [a, b, x, y], _ => exact ⟨a, b, x, y, rfl, by rwa [digits] at value⟩

theorem readString?_writeChar (c : Char) (read : readString? rest = some (t, s)) :
    readString? (writeChar c ++ rest) = some (c :: t, s) := by
  unfold writeChar
  split
  case h_8 quote backslash _ _ _ _ _ =>
    split
    · next control =>
      obtain ⟨a, b, x, y, digits, unit⟩ := exists_hexUnit?_zeroPad control
      rw [digits]
      have units := readString?_unit unit (Nat.lt_trans control (by decide)) read
      rwa [Char.ofNat_toNat] at units
    · next notControl => exact readString?_plain quote backslash notControl read
  -- The others have escapes of one character
  all_goals exact readString?_short rfl read

/-- What stands between the quotes for a text is read as the text. -/
theorem readString?_flatMap (t rest : Text) :
    readString? (t.flatMap writeChar ++ '"' :: rest) = some (t, rest) := by
  induction t with
  | nil => rw [List.flatMap_nil, List.nil_append, readString?]
  | cons c t ih =>
    rw [List.flatMap_cons, List.append_assoc]
    exact readString?_writeChar c ih

/-! ### Numbers -/

/-- What may stand behind a value: nothing, a comma or a closing bracket. -/
def Ends (rest : Text) : Prop :=
  ∀ c, rest.head? = some c → c = ',' ∨ c = ']' ∨ c = '}'

theorem readDigits_toDigits (ends : Ends rest) :
    readDigits (Nat.toDigits 10 n ++ rest) =
      ((Nat.toDigits 10 n).filterMap (Decimal.digit? 10), rest) := by
  have whole : (Nat.toDigits 10 n ++ rest).takeWhile Char.isDigit = Nat.toDigits 10 n := by
    rw [List.takeWhile_append_of_pos fun c mem =>
      Nat.isDigit_of_mem_toDigits (by decide) (by decide) mem]
    cases rest with
    | nil => simp
    | cons c rest =>
      have notDigit : c.isDigit = false := by
        rcases ends c rfl with rfl | rfl | rfl <;> rfl
      simp [notDigit]
  rw [readDigits, whole, List.drop_left]

theorem fraction?_of_ends (ends : Ends rest) : fraction? rest = none := by
  rw [fraction?]
  rintro s rfl
  rcases ends '.' rfl with h | h | h <;> cases h

theorem exponent?_of_ends (ends : Ends rest) : exponent? rest = none := by
  cases rest with
  | nil => rfl
  | cons c rest => rcases ends c rfl with rfl | rfl | rfl <;> rfl

/-- The digits of a number with its sign, or without one, are an integer if there is room for it. -/
theorem readNumber?_digits {s : Text} {negative : Bool} (ends : Ends rest)
    (sign : splitSign s = (negative, Nat.toDigits 10 n ++ rest))
    (nonzero : negative = true → n ≠ 0)
    (low : -0x8000000000000000 ≤ if negative then -(n : Int) else n)
    (high : (if negative then -(n : Int) else n) < UInt64.size) :
    readNumber? s = some (.integer (if negative then -n else n), rest) := by
  have digits := Decimal.filterMap_digit?_ne_nil (n := n) (by decide : 1 < 10) (by decide)
  have isInteger : (!(negative && decide ((if negative then -(n : Int) else n) = 0))) = true := by
    cases negative with
    | false => rfl
    | true => simpa using nonzero rfl
  rw [readNumber?, sign]
  simp only [readDigits_toDigits ends, fraction?_of_ends ends, Option.map_none, Option.getD_none,
    exponent?_of_ends ends, Decimal.ofDigits_toDigits (by decide : 1 < 10) (by decide)]
  rw [if_neg (by simpa using digits), if_pos]
  rw [isInteger, decide_eq_true low, decide_eq_true high]
  rfl

theorem readNumber?_toString {n : Int} (ends : Ends rest) (low : -0x8000000000000000 ≤ n)
    (high : n < UInt64.size) :
    readNumber? ((toString n).toList ++ rest) = some (.integer n, rest) := by
  have noSign (m : Nat) : splitSign (Nat.toDigits 10 m ++ rest) =
      (false, Nat.toDigits 10 m ++ rest) := by
    obtain ⟨c, more, digits, digit⟩ := Decimal.exists_toDigits_eq_cons m
    rw [digits, List.cons_append, splitSign]
    rintro s same
    cases same
    cases digit
  rw [Int.toString_eq_repr, Int.repr_eq_if]
  split
  · next nonneg =>
    have value : ((n.toNat : Nat) : Int) = n := Int.toNat_of_nonneg nonneg
    have read := readNumber?_digits ends (noSign n.toNat) nofun (by simpa [value])
      (by simpa only [value])
    rw [Nat.toList_repr, read]
    simp [value]
  · next negative =>
    have value : -(((-n).toNat : Nat) : Int) = n := by
      rw [Int.toNat_of_nonneg (by omega), Int.neg_neg]
    have read := readNumber?_digits (s := '-' :: (Nat.toDigits 10 (-n).toNat ++ rest)) ends rfl
      (fun _ => by omega) (by simpa only [value, if_true]) (by simpa only [value, if_true])
    rw [String.toList_append, Nat.toList_repr]
    simp only [value, if_true] at read
    exact read

/-! ### Values -/

/-- A value whose text says all about it: integers have room, and no key is there twice. -/
inductive Exact : Value → Prop
  | null : Exact .null
  | bool {b : Bool} : Exact (.bool b)
  | integer {n : Int} : -0x8000000000000000 ≤ n → n < UInt64.size → Exact (.integer n)
  | string {t : Text} : Exact (.string t)
  | array {items : List Value} : (∀ item ∈ items, Exact item) → Exact (.array items)
  | object {fields : List (Text × Value)} : (fields.map (·.1)).Nodup →
    (∀ field ∈ fields, Exact field.2) → Exact (.object fields)

theorem skipBlanks_cons (h : c ∉ [' ', '\n', '\t', '\r']) : skipBlanks (c :: s) = c :: s := by
  simp only [List.mem_cons, List.not_mem_nil, or_false, not_or] at h
  simp [skipBlanks, h]

/-- The value is read from its text, whatever ends it, with as many steps as its text is long; and
the text does not start with a blank or with the end of an array. -/
structure ReadsBack (v : Value) : Prop where
  starts : ∃ c s, v.write = c :: s ∧ c ∉ [' ', '\n', '\t', '\r', ']']
  reads : ∀ depth rest, v.write.length ≤ depth + 1 → Ends rest →
    readValue? (depth + 1) (v.write ++ rest) = some (v, rest)

theorem ReadsBack.reads_of_le {v : Value} {depth : Nat} (h : ReadsBack v)
    (room : v.write.length ≤ depth) (ends : Ends rest) :
    readValue? depth (v.write ++ rest) = some (v, rest) := by
  obtain ⟨c, s, text, -⟩ := h.starts
  have positive : 0 < depth := by
    rw [text, List.length_cons] at room
    omega
  obtain ⟨depth, rfl⟩ := Nat.exists_eq_add_one.2 positive
  exact h.reads depth rest room ends

theorem readsBack_null : ReadsBack .null where
  starts := ⟨'n', _, rfl, by decide⟩
  reads _ _ _ _ := rfl

theorem readsBack_bool {b : Bool} : ReadsBack (.bool b) where
  starts := by cases b <;> exact ⟨_, _, rfl, by decide⟩
  reads _ _ _ _ := by cases b <;> rfl

theorem write_string_append (t rest : Text) :
    writeString t ++ rest = '"' :: (t.flatMap writeChar ++ '"' :: rest) := by
  simp [writeString]

theorem readsBack_string {t : Text} : ReadsBack (.string t) where
  starts := ⟨'"', _, rfl, by decide⟩
  reads depth rest _ _ := by
    rw [Value.write, write_string_append, readValue?, skipBlanks_cons (by decide)]
    simp [readString?_flatMap]

/-- A number starts with a digit or a sign. -/
theorem ne_of_isNumberStart (start : c.isDigit = true ∨ c = '-') (notDigit : d.isDigit = false)
    (notSign : d ≠ '-') : c ≠ d := by
  rintro rfl
  simp [notDigit, notSign] at start

theorem readValue?_number {depth : Nat} (start : c.isDigit = true ∨ c = '-') :
    readValue? (depth + 1) (c :: s) = readNumber? (c :: s) := by
  have noBlank : c ∉ [' ', '\n', '\t', '\r'] := by
    simp [ne_of_isNumberStart start]
  rw [readValue?, skipBlanks_cons noBlank]
  have other {d : Char} {r : Text} (notDigit : d.isDigit = false) (notSign : d ≠ '-') :
      c :: s ≠ d :: r := fun same =>
    ne_of_isNumberStart start notDigit notSign (List.cons.inj same).1
  split
  case h_7 => rfl
  all_goals
    next same => exact absurd same (other rfl (by decide))

theorem exists_toString_eq_cons (n : Int) :
    ∃ c s, (toString n).toList = c :: s ∧ (c.isDigit = true ∨ c = '-') := by
  rw [Int.toString_eq_repr, Int.repr_eq_if]
  split
  · obtain ⟨c, s, digits, digit⟩ := Decimal.exists_toDigits_eq_cons n.toNat
    exact ⟨c, s, by rw [Nat.toList_repr, digits], .inl digit⟩
  · exact ⟨'-', _, String.toList_append, .inr rfl⟩

theorem readsBack_integer {n : Int} (low : -0x8000000000000000 ≤ n) (high : n < UInt64.size) :
    ReadsBack (.integer n) where
  starts := by
    obtain ⟨c, s, text, start⟩ := exists_toString_eq_cons n
    exact ⟨c, s, text, by simp [ne_of_isNumberStart start]⟩
  reads depth rest _ ends := by
    obtain ⟨c, s, text, start⟩ := exists_toString_eq_cons n
    have number := readNumber?_toString ends low high
    rw [text, List.cons_append] at number
    rw [Value.write, text, List.cons_append, readValue?_number start, number]

/-! ### Arrays and objects -/

theorem ends_comma : Ends (',' :: rest) := by
  rintro c ⟨⟩
  exact .inl rfl

theorem ends_bracket : Ends (']' :: rest) := by
  rintro c ⟨⟩
  exact .inr (.inl rfl)

theorem ends_brace : Ends ('}' :: rest) := by
  rintro c ⟨⟩
  exact .inr (.inr rfl)

theorem readItems?_comma {item : Value} {before : List Value} {depth : Nat}
    (read : readValue? depth s = some (item, ',' :: rest)) :
    readItems? (depth + 1) before s = readItems? depth (item :: before) rest := by
  rw [readItems?, read]
  simp [skipBlanks_cons]

theorem readItems?_bracket {item : Value} {before : List Value} {depth : Nat}
    (read : readValue? depth s = some (item, ']' :: rest)) :
    readItems? (depth + 1) before s = some (.array (item :: before).reverse, rest) := by
  rw [readItems?, read]
  simp [skipBlanks_cons]

/-- The items of an array are read up to its end. -/
theorem readItems?_writeItems {item : Value} {items before : List Value} {depth : Nat}
    (each : ∀ v ∈ item :: items, ReadsBack v)
    (room : (Value.writeItems (item :: items)).length < depth) :
    readItems? depth before (Value.writeItems (item :: items) ++ ']' :: rest) =
      some (.array (before.reverse ++ item :: items), rest) := by
  induction items generalizing item before depth with
  | nil =>
    obtain ⟨depth, rfl⟩ := Nat.exists_eq_add_one.2 (show 0 < depth by omega)
    rw [Value.writeItems] at room ⊢
    have last : readValue? depth (item.write ++ ']' :: rest) = some (item, ']' :: rest) :=
      (each item List.mem_cons_self).reads_of_le (Nat.le_of_lt_succ room) ends_bracket
    rw [readItems?_bracket last, List.reverse_cons]
  | cons next more ih =>
    obtain ⟨first, others⟩ := List.forall_mem_cons.1 each
    obtain ⟨depth, rfl⟩ := Nat.exists_eq_add_one.2 (show 0 < depth by omega)
    rw [Value.writeItems, List.length_append, List.length_cons] at room
    have one : readValue? depth
        (item.write ++ ',' :: (Value.writeItems (next :: more) ++ ']' :: rest)) =
          some (item, ',' :: (Value.writeItems (next :: more) ++ ']' :: rest)) :=
      first.reads_of_le (by omega) ends_comma
    rw [Value.writeItems, List.append_assoc, List.cons_append, readItems?_comma one,
      ih others (by omega), List.reverse_cons, List.append_assoc, List.singleton_append]

theorem readValue?_array {depth : Nat} (start : c ∉ [' ', '\n', '\t', '\r', ']']) :
    readValue? (depth + 1) ('[' :: c :: s) = readItems? depth [] (c :: s) := by
  simp only [List.mem_cons, List.not_mem_nil, or_false, not_or] at start
  rw [readValue?, skipBlanks_cons (by decide)]
  simp [skipBlanks_cons, start]

theorem readsBack_array {items : List Value} (each : ∀ v ∈ items, ReadsBack v) :
    ReadsBack (.array items) where
  starts := ⟨'[', _, rfl, by decide⟩
  reads depth rest room _ := by
    have text : (Value.array items).write ++ rest =
        '[' :: (Value.writeItems items ++ ']' :: rest) := by
      simp [Value.write]
    have inner : (Value.writeItems items).length < depth := by
      simp only [Value.write, List.cons_append, List.length_cons, List.length_append,
        List.length_nil] at room
      omega
    rw [text]
    cases items with
    | nil => rfl
    | cons item items =>
      obtain ⟨c, s, start, noBlank⟩ : ∃ c s, Value.writeItems (item :: items) ++ ']' :: rest =
          c :: s ∧ c ∉ [' ', '\n', '\t', '\r', ']'] := by
        obtain ⟨c, s, start, noBlank⟩ := (each item List.mem_cons_self).starts
        cases items with
        | nil => exact ⟨c, _, by rw [Value.writeItems, start, List.cons_append], noBlank⟩
        | cons next more => exact ⟨c, _, by rw [Value.writeItems, start]; rfl, noBlank⟩
      rw [start, readValue?_array noBlank, ← start]
      exact readItems?_writeItems each inner

/-- A field whose key is new is put behind the others. -/
theorem putField_of_nodup {key : Text} {v : Value} {before more : List (Text × Value)}
    (once : ((before ++ (key, v) :: more).map (·.1)).Nodup) :
    putField key v before = before ++ [(key, v)] := by
  rw [List.map_append, List.map_cons] at once
  have new : ∀ name ∈ before.map (·.1), name ≠ key := fun name mem =>
    (List.nodup_append.1 once).2.2 name mem key List.mem_cons_self
  rw [putField, List.filter_eq_self.2]
  intro field mem
  exact decide_eq_true (new field.1 (List.mem_map_of_mem mem))

/-- A key and a value, with a comma behind them. -/
theorem readFields?_comma {key : Text} {v : Value} {before : List (Text × Value)} {depth : Nat}
    (read : readValue? depth s = some (v, ',' :: rest)) :
    readFields? (depth + 1) before (writeString key ++ ':' :: s) =
      readFields? depth (putField key v before) rest := by
  rw [write_string_append, readFields?, skipBlanks_cons (by decide)]
  simp [readString?_flatMap, skipBlanks_cons, read]

theorem readFields?_brace {key : Text} {v : Value} {before : List (Text × Value)} {depth : Nat}
    (read : readValue? depth s = some (v, '}' :: rest)) :
    readFields? (depth + 1) before (writeString key ++ ':' :: s) =
      some (.object (putField key v before), rest) := by
  rw [write_string_append, readFields?, skipBlanks_cons (by decide)]
  simp [readString?_flatMap, skipBlanks_cons, read]

/-- The fields of an object are read up to its end, if no key is there twice. -/
theorem readFields?_writeFields {key : Text} {v : Value} {fields before : List (Text × Value)}
    {depth : Nat} (each : ∀ f ∈ (key, v) :: fields, ReadsBack f.2)
    (once : ((before ++ (key, v) :: fields).map (·.1)).Nodup)
    (room : (Value.writeFields ((key, v) :: fields)).length < depth) :
    readFields? depth before (Value.writeFields ((key, v) :: fields) ++ '}' :: rest) =
      some (.object (before ++ (key, v) :: fields), rest) := by
  induction fields generalizing key v before depth with
  | nil =>
    obtain ⟨depth, rfl⟩ := Nat.exists_eq_add_one.2 (show 0 < depth by omega)
    rw [Value.writeFields, List.length_append, List.length_cons] at room
    have last : readValue? depth (v.write ++ '}' :: rest) = some (v, '}' :: rest) :=
      ReadsBack.reads_of_le (each (key, v) List.mem_cons_self) (by omega) ends_brace
    rw [Value.writeFields, List.append_assoc, List.cons_append, readFields?_brace last,
      putField_of_nodup once]
  | cons next more ih =>
    obtain ⟨first, others⟩ := List.forall_mem_cons.1 each
    obtain ⟨nextKey, w⟩ := next
    obtain ⟨depth, rfl⟩ := Nat.exists_eq_add_one.2 (show 0 < depth by omega)
    rw [Value.writeFields, List.length_append, List.length_cons, List.length_append,
      List.length_cons] at room
    have one : readValue? depth
        (v.write ++ ',' :: (Value.writeFields ((nextKey, w) :: more) ++ '}' :: rest)) =
          some (v, ',' :: (Value.writeFields ((nextKey, w) :: more) ++ '}' :: rest)) :=
      ReadsBack.reads_of_le first (by omega) ends_comma
    have more_read := @ih nextKey w (before ++ [(key, v)]) depth others (by simpa using once)
      (by omega)
    rw [Value.writeFields]
    simp only [List.append_assoc, List.cons_append]
    rw [readFields?_comma one, putField_of_nodup once, more_read, List.append_assoc,
      List.singleton_append]

theorem readValue?_object {depth : Nat} :
    readValue? (depth + 1) ('{' :: '"' :: s) = readFields? depth [] ('"' :: s) := by
  rw [readValue?, skipBlanks_cons (by decide)]
  simp [skipBlanks_cons]

theorem readsBack_object {fields : List (Text × Value)} (once : (fields.map (·.1)).Nodup)
    (each : ∀ field ∈ fields, ReadsBack field.2) : ReadsBack (.object fields) where
  starts := ⟨'{', _, rfl, by decide⟩
  reads depth rest room _ := by
    have text : (Value.object fields).write ++ rest =
        '{' :: (Value.writeFields fields ++ '}' :: rest) := by
      simp [Value.write]
    have inner : (Value.writeFields fields).length < depth := by
      simp only [Value.write, List.cons_append, List.length_cons, List.length_append,
        List.length_nil] at room
      omega
    rw [text]
    cases fields with
    | nil => rfl
    | cons field fields =>
      obtain ⟨key, v⟩ := field
      obtain ⟨s, start⟩ : ∃ s,
          Value.writeFields ((key, v) :: fields) ++ '}' :: rest = '"' :: s := by
        cases fields with
        | nil => exact ⟨_, by rw [Value.writeFields, List.append_assoc, write_string_append]⟩
        | cons next more =>
          exact ⟨_, by rw [Value.writeFields, List.append_assoc, List.append_assoc,
            write_string_append]⟩
      rw [start, readValue?_object, ← start]
      exact readFields?_writeFields each once inner

/-! ### Exact values -/

theorem Exact.readsBack {v : Value} (h : Exact v) : ReadsBack v := by
  induction h with
  | null => exact readsBack_null
  | bool => exact readsBack_bool
  | integer low high => exact readsBack_integer low high
  | string => exact readsBack_string
  | array _ ih => exact readsBack_array ih
  | object once _ ih => exact readsBack_object once ih

/-- **What is written is read back.** -/
theorem Value.read?_write {v : Value} (h : Exact v) : Value.read? v.write = some v := by
  have whole : readValue? (v.write.length + 1) (v.write ++ []) = some (v, []) :=
    h.readsBack.reads v.write.length [] (Nat.le_succ _) nofun
  rw [List.append_nil] at whole
  rw [Value.read?, whole]
  rfl

/-! ### Rule sets and events -/

theorem exact_writtenSet (includes excludes : List Text) :
    Exact (writtenSet includes excludes) := by
  have texts (patterns : List Text) : Exact (.array (patterns.map .string)) :=
    .array (List.forall_mem_map.2 fun _ _ => .string)
  have once : ["include".toList, "exclude".toList].Nodup := by decide
  refine .object once fun field mem => ?_
  rcases List.mem_pair.1 mem with rfl | rfl
  · exact texts includes
  · exact texts excludes

/-- A rule set survives being written to a text, whatever its patterns are. -/
theorem read?_encodeGlobSet (set : GlobSet) :
    ∃ value, Value.read? (encodeGlobSet set).write = some value ∧ decodeGlobSet value = .ok set :=
  ⟨encodeGlobSet set,
    Value.read?_write (by rw [encodeGlobSet_eq_writtenSet]; exact exact_writtenSet _ _),
    decodeGlobSet_encodeGlobSet set⟩

end PathGlob.Json

namespace PathGlob.Log

open Json (Exact Value)

theorem FieldValue.exact_json {value : FieldValue}
    (room : ∀ n, value = number n → n < UInt64.size) : Exact value.json := by
  cases value with
  | plain text => exact .string
  | quoted text => exact .string
  | number n =>
    have bound : (n : Int) < UInt64.size := Int.ofNat_lt.2 (room n rfl)
    exact .integer (by omega) bound
  | flag b => exact .bool

theorem Event.exact_record {event : Event} (once : (event.fields.map (·.1)).Nodup)
    (free : "message" ∉ event.fields.map (·.1))
    (room : ∀ name n, (name, FieldValue.number n) ∈ event.fields → n < UInt64.size) :
    Exact event.record := by
  have keys : ["level".toList, "fields".toList, "target".toList].Nodup := by decide
  have names : (event.fields.map fun field => (field.1.toList, field.2.json)).map (·.1) =
      (event.fields.map (·.1)).map String.toList := by
    simp
  have distinct : ((event.fields.map (·.1)).map String.toList).Nodup :=
    once.map fun _ _ => String.toList_inj.1
  have values : ∀ field ∈ event.fields.map fun field => (field.1.toList, field.2.json),
      Exact field.2 := by
    rw [List.forall_mem_map]
    intro field mem
    exact FieldValue.exact_json fun n same => room field.1 n (same ▸ mem)
  have whole : Exact (.object ((event.message.toList.map fun message =>
      ("message".toList, Value.string message.toList)) ++
        event.fields.map fun field => (field.1.toList, field.2.json))) := by
    cases event.message with
    | none =>
      refine .object ?_ values
      rwa [Option.toList_none, List.map_nil, List.nil_append, names]
    | some message =>
      refine .object ?_ (List.forall_mem_cons.2 ⟨.string, values⟩)
      simp only [Option.toList_some, List.map_cons, List.map_nil, List.singleton_append, names]
      refine List.nodup_cons.2 ⟨fun mem => ?_, distinct⟩
      obtain ⟨name, there, same⟩ := List.mem_map.1 mem
      exact free (String.toList_inj.1 same ▸ there)
  refine .object keys fun field mem => ?_
  simp only [List.mem_cons, List.not_mem_nil, or_false] at mem
  rcases mem with rfl | rfl | rfl
  · exact .string
  · exact whole
  · exact .string

/-- A line of the log is the record of its event. -/
theorem Event.read?_record {event : Event} (once : (event.fields.map (·.1)).Nodup)
    (free : "message" ∉ event.fields.map (·.1))
    (room : ∀ name n, (name, FieldValue.number n) ∈ event.fields → n < UInt64.size) :
    Value.read? event.record.write = some event.record :=
  Value.read?_write (exact_record once free room)

end PathGlob.Log
