/-!
# PathGlob.Text.Basic

Texts are lists of characters, a character being a Unicode scalar value. Positions inside a text
are byte offsets of its UTF-8 form, so every text has a **byte length** beside its length.
-/

namespace PathGlob

/-- A text: its characters from left to right. -/
abbrev Text := List Char

namespace Text

/-- The number of bytes of the UTF-8 form. -/
def byteLength : Text → Nat
  | [] => 0
  | c :: t => c.utf8Size + byteLength t

@[simp] theorem byteLength_nil : byteLength [] = 0 := rfl

@[simp] theorem byteLength_cons (c : Char) (t : Text) :
    byteLength (c :: t) = c.utf8Size + byteLength t := rfl

@[simp] theorem byteLength_append (s t : Text) :
    byteLength (s ++ t) = byteLength s + byteLength t := by
  induction s with
  | nil => exact (Nat.zero_add _).symm
  | cons c s ih => rw [List.cons_append, byteLength_cons, byteLength_cons, ih, Nat.add_assoc]

/-- A number in decimal digits. -/
def ofNat (n : Nat) : Text :=
  Nat.toDigits 10 n

/-- The text with blanks put in front until it has `width` characters. -/
def padLeft (width : Nat) (t : Text) : Text :=
  List.replicate (width - t.length) ' ' ++ t

/-- The digits with zeros put in front until there are `width` of them. -/
def zeroPad (width : Nat) (digits : Text) : Text :=
  List.replicate (width - digits.length) '0' ++ digits

/-- The UTF-8 form of a text. -/
def toBytes (t : Text) : List UInt8 :=
  t.flatMap String.utf8EncodeChar

@[simp] theorem toBytes_append (s t : Text) : toBytes (s ++ t) = toBytes s ++ toBytes t :=
  List.flatMap_append

@[simp] theorem length_toBytes (t : Text) : (toBytes t).length = byteLength t := by
  induction t with
  | nil => rfl
  | cons c t ih =>
    have first : toBytes (c :: t) = String.utf8EncodeChar c ++ toBytes t := List.flatMap_cons
    rw [first, List.length_append, String.length_utf8EncodeChar, ih, byteLength_cons]

/-- The text with the given UTF-8 form, if the bytes are valid UTF-8. -/
def ofBytes? (bytes : List UInt8) : Option Text :=
  bytes.toByteArray.utf8Decode?.map Array.toList

/-- Reading back the UTF-8 form of a text gives the text. -/
theorem ofBytes?_toBytes (t : Text) : ofBytes? t.toBytes = some t := by
  have h : (toBytes t).toByteArray = List.utf8Encode t := rfl
  simp [ofBytes?, h]

end Text

end PathGlob
