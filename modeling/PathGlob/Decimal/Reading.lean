/-!
# PathGlob.Decimal.Reading

From decimal digits to floating point numbers.
-/

namespace PathGlob.Decimal

/-- The number whose digits are given with the most significant first. -/
def ofDigits (base : Nat) (digits : List Nat) : Nat :=
  digits.foldl (fun n d => base * n + d) 0

/-- The value of a digit in bases up to sixteen; letters may be of either case. -/
def digit? (base : Nat) (c : Char) : Option Nat :=
  let value :=
    if '0' ≤ c && c ≤ '9' then c.toNat - '0'.toNat
    else if 'a' ≤ c && c ≤ 'f' then c.toNat - 'a'.toNat + 10
    else if 'A' ≤ c && c ≤ 'F' then c.toNat - 'A'.toNat + 10
    else 16
  if value < base then some value else none

/-- `significand · 10^exponent`, rounded once. -/
def nearest (significand : Nat) (exponent : Int) : Float :=
  if exponent < 0 then Float.ofScientific significand true exponent.natAbs
  else Float.ofScientific significand false exponent.toNat

/-- `significand · 10^exponent` in two steps, each rounded: the significand as it is, then one
product or quotient with a power of ten. The result is the nearest number if the significand is
below 2⁵³ and the exponent lies between -22 and 22. -/
def inTwoSteps (significand : Nat) (exponent : Int) : Float :=
  let start := nearest significand 0
  if exponent < 0 then
    if exponent < -308 then start / nearest 1 308 / nearest 1 (-308 - exponent)
    else start / nearest 1 (-exponent)
  else start * nearest 1 exponent

end PathGlob.Decimal
