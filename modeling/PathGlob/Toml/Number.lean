import PathGlob.Decimal.Reading
import PathGlob.Toml.Blank

/-!
# PathGlob.Toml.Number

Numbers, dates and times. A text that starts like one of them is tried as a date or time first,
then as a floating point number and last as an integer.
-/

namespace PathGlob.Toml

/-- What was read between a point of a text and a later one. -/
def consumed (s rest : Text) : Text :=
  s.take (s.length - rest.length)

/-- What is left after a sign. -/
def skipSign : Text → Text
  | '+' :: rest => rest
  | '-' :: rest => rest
  | s => s

/-! ### Digits -/

/-- Skips digits, with single underscores between them. An underscore has to be followed by a
digit. -/
def skipDigits (isDigit : Char → Bool) : Text → Except Fault Text
  | [] => .ok []
  | c :: rest =>
    if isDigit c then skipDigits isDigit rest
    else if c = '_' then
      if rest.head?.any isDigit then skipDigits isDigit rest
      else .error ((Fault.here rest).orExpected ["digit"]).definite
    else .ok (c :: rest)

/-- Skips digits of which there has to be one. -/
def skipDigits1 (isDigit : Char → Bool) (s : Text) : Except Fault Text :=
  if s.head?.any isDigit then skipDigits isDigit s else .error (.here s)

/-- Skips an integer in decimal digits. A zero in front is the whole integer. -/
def skipDecimal (s : Text) : Except Fault Text :=
  let outcome : Except Fault Text :=
    match skipSign s with
    | '0' :: rest => .ok rest
    | rest => skipDigits1 Char.isDigit rest
  outcome.mapError (·.inside "integer")

/-- The values of the digits of a text. -/
def digitsOf (base : Nat) (t : Text) : List Nat :=
  t.filterMap (Decimal.digit? base)

/-! ### Integers -/

/-- The integer in 64 bits, if it fits. -/
def toInt64 (n : Int) (s rest : Text) : Result Int :=
  if n ≥ 0x8000000000000000 then .error ((Fault.here s).because .tooLarge).definite
  else if n < -0x8000000000000000 then .error ((Fault.here s).because .tooSmall).definite
  else .ok (n, rest)

/-- Reads the digits of an integer in another base after its mark, which `s` starts with. -/
def radixInteger (base : Nat) (construct : String) (s digits : Text) : Result Int :=
  match skipDigits1 (fun c => (Decimal.digit? base c).isSome) digits with
  | .error fault => .error (fault.inside construct).definite
  | .ok rest => toInt64 (Decimal.ofDigits base (digitsOf base (consumed digits rest))) s rest

/-- Reads an integer. -/
def integer (s : Text) : Result Int :=
  match s with
  | '0' :: 'x' :: digits => radixInteger 16 "hexadecimal integer" s digits
  | '0' :: 'o' :: digits => radixInteger 8 "octal integer" s digits
  | '0' :: 'b' :: digits => radixInteger 2 "binary integer" s digits
  | _ =>
    match skipDecimal s with
    | .error fault => .error fault
    | .ok rest =>
      let n : Int := Decimal.ofDigits 10 (digitsOf 10 (consumed s rest))
      toInt64 (if s.head? = some '-' then -n else n) s rest

/-! ### Floating point numbers -/

/-- Reads `inf` or `nan`. -/
def specialWord (s : Text) : Result Float :=
  match s with
  | 'i' :: 'n' :: 'f' :: rest => .ok (1.0 / 0.0, rest)
  | 'n' :: 'a' :: 'n' :: rest => .ok (0.0 / 0.0, rest)
  | s => .error (.here s)

/-- Skips an exponent, whose digits may not be missing. -/
def skipExponent (s : Text) : Except Fault Text :=
  match s with
  | 'e' :: rest | 'E' :: rest => (skipDigits1 Char.isDigit (skipSign rest)).mapError Fault.definite
  | s => .error (.here s)

/-- Skips a fraction, whose digits may not be missing. -/
def skipFraction (s : Text) : Except Fault Text :=
  match s with
  | '.' :: rest =>
    if rest.head?.any Char.isDigit then skipDigits Char.isDigit rest
    else .error ((Fault.here rest).orExpected ["digit"]).definite
  | s => .error (.here s)

/-- The nearest floating point number to `whole.fraction · 10^exponent`. -/
def decimalValue (negative : Bool) (whole fraction exponent : Text) : Float :=
  let digits := digitsOf 10 (whole ++ fraction)
  let power : Int := Decimal.ofDigits 10 (digitsOf 10 exponent)
  let power := if exponent.contains '-' then -power else power
  -- beyond these bounds every number of that many digits is infinite or zero
  let bound : Int := 400 + digits.length
  let power := max (-bound) (min bound (power - (digitsOf 10 fraction).length))
  let x := Decimal.nearest (Decimal.ofDigits 10 digits) power
  if negative then -x else x

/-- Reads a number with a fraction or an exponent. -/
def plainFloat (s : Text) : Except Fault (Float × Text) := do
  let restWhole ← skipDecimal s
  let (restFraction, rest) ←
    match restWhole with
    | '.' :: _ => do
      let restFraction ← skipFraction restWhole
      let rest ← match restFraction.head? with
        | some 'e' | some 'E' => skipExponent restFraction
        | _ => .ok restFraction
      pure (restFraction, rest)
    | _ => do pure (restWhole, ← skipExponent restWhole)
  let x := decimalValue (s.head? = some '-') (consumed s restWhole)
    (consumed restWhole restFraction) (consumed restFraction rest)
  if x.isInf && x > 0 then .error (Fault.here s).definite else .ok (x, rest)

/-- Reads a floating point number. -/
def float (s : Text) : Result Float :=
  within "floating-point number" <| orElse (plainFloat s) fun _ =>
    (specialWord (skipSign s)).map fun (x, rest) =>
      (if s.head? = some '-' then -x else x, rest)

/-! ### Dates and times -/

/-- Reads exactly `count` digits. -/
def exactDigits (count : Nat) (s : Text) : Result Nat :=
  let digits := (s.take count).takeWhile Char.isDigit
  if digits.length = count then .ok (Decimal.ofDigits 10 (digitsOf 10 digits), s.drop count)
  else .error (.here s)

/-- Reads a number of two digits between two bounds. -/
def twoDigits (least greatest : Nat) (s : Text) : Except Fault (Nat × Text) := do
  let (n, rest) ← exactDigits 2 s
  if least ≤ n && n ≤ greatest then .ok (n, rest)
  else .error ((Fault.here s).because .outOfRange)

/-- Skips the given character. -/
def skipChar (c : Char) (s : Text) : Except Fault Text :=
  if s.head? = some c then .ok s.tail else .error (.here s)

/-- The number of days of a month. -/
def daysIn (year month : Nat) : Nat :=
  if month = 2 then
    if year % 4 = 0 && (year % 100 != 0 || year % 400 = 0) then 29 else 28
  else if month = 4 || month = 6 || month = 9 || month = 11 then 30
  else 31

/-- Skips the part of a date after its year and the first hyphen. -/
def skipMonthAndDay (year : Nat) (s : Text) : Except Fault Text := do
  let (month, rest) ← twoDigits 1 12 s
  let rest ← skipChar '-' rest
  let (day, after) ← twoDigits 1 31 rest
  if daysIn year month < day then .error ((Fault.here rest).because .outOfRange) else .ok after

/-- Skips a date. -/
def skipDate (s : Text) : Except Fault Text := do
  let (year, rest) ← exactDigits 4 s
  let rest ← skipChar '-' rest
  (skipMonthAndDay year rest).mapError Fault.definite

/-- Skips the part of a time after its hour and the first colon. -/
def skipMinuteAndSecond (s : Text) : Except Fault Text := do
  let (_, rest) ← twoDigits 0 59 s
  let rest ← skipChar ':' rest
  let (_, rest) ← twoDigits 0 60 rest
  match rest with
  | '.' :: digits =>
    if digits.head?.any Char.isDigit then .ok (digits.dropWhile Char.isDigit) else .ok rest
  | rest => .ok rest

/-- Skips a time. -/
def skipTime (s : Text) : Except Fault Text := do
  let (_, rest) ← twoDigits 0 23 s
  let rest ← skipChar ':' rest
  (skipMinuteAndSecond rest).mapError Fault.definite

/-- Skips the offset of a time, if there is one. -/
def skipOffset (s : Text) : Except Fault Text :=
  match s with
  | 'Z' :: rest | 'z' :: rest => .ok rest
  | '+' :: rest | '-' :: rest =>
    let outcome : Except Fault Text := do
      let (_, rest) ← twoDigits 0 23 rest
      let rest ← skipChar ':' rest
      let (_, rest) ← twoDigits 0 59 rest
      return rest
    outcome.mapError fun fault => (fault.inside "time offset").definite
  | s => .ok s

/-- Skips a date, with a time and an offset if they follow. -/
def skipDateTime (s : Text) : Except Fault Text := do
  let rest ← skipDate s
  match rest with
  | c :: time =>
    if c = 'T' || c = 't' || c = ' ' then
      match skipTime time with
      | .ok rest => skipOffset rest
      | .error fault => if fault.final then .error fault else .ok rest
    else .ok rest
  | [] => .ok rest

/-- Reads a date, a time or both. -/
def dateTime (s : Text) : Result Unit :=
  let read := fun (construct : String) (outcome : Except Fault Text) =>
    within construct (outcome.map fun rest => ((), rest))
  orElse (read "date-time" (skipDateTime s)) fun _ => read "time" (skipTime s)

end PathGlob.Toml
