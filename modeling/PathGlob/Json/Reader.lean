import PathGlob.Decimal.Reading
import PathGlob.Json.Value

/-!
# PathGlob.Json.Reader

Reading JSON texts. Of fields with the same key the last one counts.
-/

namespace PathGlob.Json

/-- What is left after blanks. -/
def skipBlanks (s : Text) : Text :=
  s.dropWhile fun c => c = ' ' || c = '\n' || c = '\t' || c = '\r'

/-- Four hexadecimal digits. -/
def hexUnit? (a b c d : Char) : Option Nat :=
  ([a, b, c, d].mapM (Decimal.digit? 16)).map (Decimal.ofDigits 16)

/-- The character after a backslash that stands for another one. -/
def escape? : Char → Option Char
  | '"' => some '"'
  | '\\' => some '\\'
  | '/' => some '/'
  | 'b' => some '\x08'
  | 'f' => some '\x0C'
  | 'n' => some '\n'
  | 'r' => some '\r'
  | 't' => some '\t'
  | _ => none

/-- Reads a string after its opening quote. -/
def readString? : Text → Option (Text × Text)
  | [] => none
  | '"' :: rest => some ([], rest)
  | '\\' :: 'u' :: a :: b :: c :: d :: '\\' :: 'u' :: e :: f :: g :: h :: rest => do
    let high ← hexUnit? a b c d
    let low ← hexUnit? e f g h
    if 0xD800 ≤ high && high < 0xDC00 && 0xDC00 ≤ low && low < 0xE000 then
      let (text, rest) ← readString? rest
      some (Char.ofNat (0x10000 + (high - 0xD800) * 0x400 + (low - 0xDC00)) :: text, rest)
    else
      let (text, rest) ← readString? ('\\' :: 'u' :: e :: f :: g :: h :: rest)
      if 0xD800 ≤ high && high < 0xE000 then none else some (Char.ofNat high :: text, rest)
  | '\\' :: 'u' :: a :: b :: c :: d :: rest => do
    let unit ← hexUnit? a b c d
    let (text, rest) ← readString? rest
    if 0xD800 ≤ unit && unit < 0xE000 then none else some (Char.ofNat unit :: text, rest)
  | '\\' :: c :: rest => do
    let escaped ← escape? c
    let (text, rest) ← readString? rest
    some (escaped :: text, rest)
  | c :: rest =>
    if c.toNat < 0x20 then none
    else (readString? rest).map fun (text, rest) => (c :: text, rest)

/-- The digits at the start of a text, and what is left. -/
def readDigits (s : Text) : List Nat × Text :=
  let digits := s.takeWhile Char.isDigit
  (digits.filterMap (Decimal.digit? 10), s.drop digits.length)

/-- The significand of digits before and after the point, as far as it fits into 64 bits, and the
power of ten that makes up for dropped digits and for the point. -/
def significand (whole fraction : List Nat) : Nat × Int :=
  let room := fun (n d : Nat) => 10 * n + d < UInt64.size
  let (n, dropped) := whole.foldl
    (fun (n, dropped) d => if dropped = 0 && room n d then (10 * n + d, 0) else (n, dropped + 1))
    (0, 0)
  let (n, places, _) := fraction.foldl
    (fun (n, places, full) d =>
      if !full && room n d then (10 * n + d, places + 1, false) else (n, places, true))
    (n, 0, false)
  (n, (dropped : Int) - (places : Nat))

/-- Whether there is a sign, and what is left after it. -/
def splitSign : Text → Bool × Text
  | '-' :: s => (true, s)
  | s => (false, s)

/-- The digits after a point, if there is one, and what is left. -/
def fraction? : Text → Option (List Nat × Text)
  | '.' :: s => some (readDigits s)
  | _ => none

/-- The exponent, if there is one, and what is left. -/
def exponent? : Text → Option (Int × Text)
  | [] => none
  | e :: s =>
    if e = 'e' || e = 'E' then
      let (negative, s) := splitSign s
      let (digits, s) := readDigits (if !negative && s.head? = some '+' then s.tail else s)
      let n : Int := Decimal.ofDigits 10 digits
      some (if negative then -n else n, s)
    else none

/-- Reads a number. -/
def readNumber? (s : Text) : Option (Value × Text) :=
  let (negative, s) := splitSign s
  let (whole, s) := readDigits s
  let fraction := fraction? s
  let s := (fraction.map (·.2)).getD s
  let exponent := exponent? s
  let s := (exponent.map (·.2)).getD s
  let n : Int := Decimal.ofDigits 10 whole
  let n := if negative then -n else n
  let isInteger := fraction.isNone && exponent.isNone && !(negative && n = 0) &&
    -0x8000000000000000 ≤ n && n < UInt64.size
  if whole.isEmpty then none
  else if isInteger then some (.integer n, s)
  else
    let (digits, places) := significand whole ((fraction.map (·.1)).getD [])
    let x := Decimal.inTwoSteps digits (places + (exponent.map (·.1)).getD 0)
    some (.float (if negative then -x else x), s)

/-- The fields with one more; a field of the same key gives way. -/
def putField (key : Text) (value : Value) (fields : List (Text × Value)) : List (Text × Value) :=
  fields.filter (·.1 ≠ key) ++ [(key, value)]

mutual

/-- Reads a value that is nested less than `depth` deep in the length of the text. -/
def readValue? (depth : Nat) (s : Text) : Option (Value × Text) :=
  match depth with
  | 0 => none
  | depth + 1 =>
    match skipBlanks s with
    | '"' :: rest => (readString? rest).map fun (text, rest) => (.string text, rest)
    | '[' :: rest =>
      match skipBlanks rest with
      | ']' :: rest => some (.array [], rest)
      | rest => readItems? depth [] rest
    | '{' :: rest =>
      match skipBlanks rest with
      | '}' :: rest => some (.object [], rest)
      | rest => readFields? depth [] rest
    | 'n' :: 'u' :: 'l' :: 'l' :: rest => some (.null, rest)
    | 't' :: 'r' :: 'u' :: 'e' :: rest => some (.bool true, rest)
    | 'f' :: 'a' :: 'l' :: 's' :: 'e' :: rest => some (.bool false, rest)
    | rest => readNumber? rest

/-- Reads the items of an array from a value on; `before` holds the earlier ones, the latest
first. -/
def readItems? (depth : Nat) (before : List Value) (s : Text) : Option (Value × Text) :=
  match depth with
  | 0 => none
  | depth + 1 => do
    let (item, rest) ← readValue? depth s
    match skipBlanks rest with
    | ',' :: rest => readItems? depth (item :: before) rest
    | ']' :: rest => some (.array (item :: before).reverse, rest)
    | _ => none

/-- Reads the fields of an object from a key on. -/
def readFields? (depth : Nat) (before : List (Text × Value)) (s : Text) :
    Option (Value × Text) :=
  match depth with
  | 0 => none
  | depth + 1 =>
    match skipBlanks s with
    | '"' :: rest => do
      let (key, rest) ← readString? rest
      match skipBlanks rest with
      | ':' :: rest =>
        let (value, rest) ← readValue? depth rest
        match skipBlanks rest with
        | ',' :: rest => readFields? depth (putField key value before) rest
        | '}' :: rest => some (.object (putField key value before), rest)
        | _ => none
      | _ => none
    | _ => none

end

/-- Reads a text that holds one value. -/
def Value.read? (s : Text) : Option Value :=
  match readValue? (s.length + 1) s with
  | some (value, rest) => if (skipBlanks rest).isEmpty then some value else none
  | none => none

end PathGlob.Json
