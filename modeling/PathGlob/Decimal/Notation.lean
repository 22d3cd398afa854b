import PathGlob.Decimal.Shortest
import PathGlob.Text.Basic

/-!
# PathGlob.Decimal.Notation

Writing floating point numbers with the fewest digits. The formats differ only in where they stop
to write all places of a number and turn to an exponent.
-/

namespace PathGlob.Decimal

/-- The point positions for which every place is written. The position of the point counts from
the left of the first digit, so that it is 1 in `1.5` and 0 in `0.15`. -/
inductive Format
  /-- Every position. -/
  | positional
  /-- From `least` to `greatest`; an exponent otherwise. -/
  | scientificOutside (least greatest : Int)
  deriving DecidableEq, Repr

/-- Whether a number with its point at the given position is written without an exponent. -/
def Format.isPositional : Format → Int → Bool
  | positional, _ => true
  | scientificOutside least greatest, point => least ≤ point && point ≤ greatest

/-- A positive decimal. At least one digit follows a point, and there is a point unless there is
an exponent. -/
def write (format : Format) (d : Decimal) : Text :=
  let digits := Text.ofNat d.digits
  let zeros := fun (n : Int) => List.replicate n.toNat '0'
  let point : Int := digits.length + d.exponent
  if format.isPositional point then
    if point ≤ 0 then ['0', '.'] ++ zeros (-point) ++ digits
    else if 0 ≤ d.exponent then digits ++ zeros d.exponent ++ ['.', '0']
    else digits.take point.toNat ++ '.' :: digits.drop point.toNat
  else
    let exponent := if point - 1 < 0 then '-' :: Text.ofNat (point - 1).natAbs
      else Text.ofNat (point - 1).toNat
    let mantissa := match digits with
      | [digit] => [digit]
      | first :: more => first :: '.' :: more
      | [] => []
    mantissa ++ 'e' :: exponent

/-- A floating point number. -/
def writeFloat (format : Format) (x : Float) : Text :=
  let sign := if x.toBits.toNat ≥ 0x8000000000000000 then ['-'] else []
  if x.isNaN then "NaN".toList
  else if x.isInf then sign ++ "inf".toList
  else if x == 0 then sign ++ "0.0".toList
  else sign ++ (ofFloat x).write format

end PathGlob.Decimal
