import PathGlob.Proofs.Text.PrefixCode
import PathGlob.Text.Basic

/-!
# PathGlob.Proofs.Text.Bytes

**ASCII characters can be seen in the UTF-8 form.** Every byte of another character is at least 128,
so an ASCII character is in a text if and only if its byte is in the bytes (`mem_toBytes_iff`), and
it is the last character if and only if its byte is the last one (`getLast?_toBytes_iff`).

Bytes are read as a text if and only if they are the UTF-8 form of it (`ofBytes?_eq_some_iff`).
-/

namespace PathGlob.Text

variable {s t : Text} {a c : Char} {bytes : List UInt8}

/-! ### The bytes of a character -/

/-- An ASCII character is one byte, and no byte of another character is below 128. -/
theorem utf8EncodeChar_cases (c : Char) :
    (c.toNat < 128 ∧ String.utf8EncodeChar c = [c.toUInt8]) ∨
      (128 ≤ c.toNat ∧ ∀ b ∈ String.utf8EncodeChar c, 128 ≤ b) := by
  have ascii : c.utf8Size = 1 ↔ c.toNat < 128 := by
    rw [Char.utf8Size_eq_one_iff, UInt32.le_iff_toNat_le]
    exact Nat.lt_succ_iff.symm
  have high (x mark : UInt8) (h : 128 ≤ mark) : 128 ≤ x ||| mark := by
    rw [UInt8.le_iff_toNat_le] at h ⊢
    rw [UInt8.toNat_or]
    exact Nat.le_trans h Nat.right_le_or
  by_cases one : c.utf8Size = 1
  · exact .inl ⟨ascii.1 one, String.utf8EncodeChar_eq_singleton one⟩
  · -- Every byte has a mark in front of its share of the code point.
    refine .inr ⟨Nat.le_of_not_lt fun h => one (ascii.2 h), ?_⟩
    rcases Char.utf8Size_eq c with size | size | size | size
    · exact absurd size one
    · rw [String.utf8EncodeChar_eq_cons_cons size]
      simp only [List.forall_mem_cons, high _ 192 (by decide), high _ 128 (by decide), true_and]
      exact List.forall_mem_nil _
    · rw [String.utf8EncodeChar_eq_cons_cons_cons size]
      simp only [List.forall_mem_cons, high _ 224 (by decide), high _ 128 (by decide), true_and]
      exact List.forall_mem_nil _
    · rw [String.utf8EncodeChar_eq_cons_cons_cons_cons size]
      simp only [List.forall_mem_cons, high _ 240 (by decide), high _ 128 (by decide), true_and]
      exact List.forall_mem_nil _

theorem toNat_toUInt8 (ascii : a.toNat < 128) : a.toUInt8.toNat = a.toNat := by
  have small : a.val.toNat < 128 := ascii
  rw [Char.toUInt8, UInt32.toNat_toUInt8]
  exact Nat.mod_eq_of_lt (by omega)

/-- The byte of an ASCII character is a byte of no other character. -/
theorem mem_utf8EncodeChar_iff (ascii : a.toNat < 128) :
    a.toUInt8 ∈ String.utf8EncodeChar c ↔ c = a := by
  have value := toNat_toUInt8 ascii
  constructor
  · intro mem
    rcases utf8EncodeChar_cases c with ⟨asciiToo, one⟩ | ⟨-, high⟩
    · rw [one, List.mem_singleton] at mem
      have same : c.toNat = a.toNat := by rw [← toNat_toUInt8 asciiToo, ← mem, value]
      exact Char.toNat_inj.1 same
    · have large := UInt8.le_iff_toNat_le.1 (high _ mem)
      rw [value] at large
      exact absurd ascii (Nat.not_lt.2 large)
  · rintro rfl
    rcases utf8EncodeChar_cases c with ⟨-, one⟩ | ⟨large, -⟩
    · simp [one]
    · omega

/-! ### The bytes of a text -/

@[simp] theorem toBytes_nil : toBytes [] = [] := rfl

theorem toBytes_cons (c : Char) (t : Text) :
    toBytes (c :: t) = String.utf8EncodeChar c ++ toBytes t :=
  List.flatMap_cons

/-- An ASCII character is one byte of the text. -/
theorem toBytes_cons_ascii (ascii : a.toNat < 128) (t : Text) :
    toBytes (a :: t) = a.toUInt8 :: toBytes t := by
  rw [toBytes_cons]
  rcases utf8EncodeChar_cases a with ⟨-, one⟩ | ⟨large, -⟩
  · rw [one, List.singleton_append]
  · omega

theorem mem_toBytes_iff (ascii : a.toNat < 128) : a.toUInt8 ∈ toBytes t ↔ a ∈ t := by
  simp [toBytes, mem_utf8EncodeChar_iff ascii]

theorem getLast?_toBytes_iff (ascii : a.toNat < 128) :
    (toBytes t).getLast? = some a.toUInt8 ↔ t.getLast? = some a := by
  rcases List.eq_nil_or_concat' t with rfl | ⟨front, c, rfl⟩
  · simp
  · have last : (toBytes (front ++ [c])).getLast? = (String.utf8EncodeChar c).getLast? := by
      rw [toBytes_append, toBytes_cons, toBytes_nil, List.append_nil,
        List.getLast?_append_of_ne_nil _ String.utf8EncodeChar_ne_nil]
    rw [last, List.getLast?_concat, Option.some.injEq]
    constructor
    · intro h
      exact (mem_utf8EncodeChar_iff ascii).1 (List.mem_of_getLast? h)
    · rintro rfl
      have one := toBytes_cons_ascii ascii []
      rw [toBytes_cons, toBytes_nil, List.append_nil] at one
      rw [one]
      rfl

theorem toBytes_eq_nil_iff : toBytes t = [] ↔ t = [] := by
  cases t <;> simp [toBytes, String.utf8EncodeChar_ne_nil]

/-- The first bytes of a text are those of its first characters. -/
theorem take_toBytes_append (s t : Text) : (toBytes (s ++ t)).take s.byteLength = toBytes s := by
  rw [toBytes_append, ← length_toBytes, List.take_left]

/-- The form of a character is not the start of the form of another one. -/
theorem isPrefixCode_utf8EncodeChar : IsPrefixCode String.utf8EncodeChar where
  ne_nil := fun _ => String.utf8EncodeChar_ne_nil
  eq_of_isPrefix := by
    rintro c d ⟨more, same⟩
    rw [← List.append_nil (String.utf8EncodeChar d)] at same
    have read := congrArg (fun bytes => bytes.toByteArray.utf8DecodeChar? 0) same
    simpa only [List.toByteArray_append, ByteArray.utf8DecodeChar?_utf8EncodeChar_append,
      Option.some.injEq] using read

/-- A text starts with another one if and only if its bytes start with the bytes of the other. -/
theorem toBytes_isPrefix_iff : toBytes s <+: toBytes t ↔ s <+: t :=
  isPrefixCode_utf8EncodeChar.flatMap_isPrefix_iff

/-! ### Reading bytes -/

/-- Bytes are read as the text that they are the UTF-8 form of. -/
theorem ofBytes?_eq_some_iff : ofBytes? bytes = some t ↔ toBytes t = bytes := by
  constructor
  · intro h
    obtain ⟨chars, read, rfl⟩ := Option.map_eq_some_iff.1 h
    have isSome : bytes.toByteArray.utf8Decode?.isSome := by simp [read]
    have written := ByteArray.utf8Encode_get_utf8Decode? (b := bytes.toByteArray) (h := isSome)
    simp only [read, Option.get_some] at written
    exact List.toByteArray_inj.1 written
  · rintro rfl
    exact ofBytes?_toBytes t

/-- Different texts have different UTF-8 forms. -/
theorem toBytes_inj : toBytes s = toBytes t ↔ s = t := by
  rw [← ofBytes?_eq_some_iff, ofBytes?_toBytes, Option.some.injEq, eq_comm]

/-- Bytes are not read if and only if they are the UTF-8 form of no text. -/
theorem ofBytes?_eq_none_iff : ofBytes? bytes = none ↔ ∀ t, toBytes t ≠ bytes := by
  simp only [Option.eq_none_iff_forall_ne_some, ne_eq, ofBytes?_eq_some_iff]

end PathGlob.Text
