/-!
# PathGlob.Decimal.Shortest

The shortest decimal that a binary floating point number is read back from. A number `m · 2^q` is
the one read from every real in an interval around it, whose ends belong to it if `m` is even.
For one digit, two digits and so on, the two decimals next to the number are tried; the first
number of digits with a hit wins, and of two hits the nearer.
-/

namespace PathGlob

/-- A positive decimal `digits · 10^exponent`. -/
structure Decimal where
  digits : Nat
  exponent : Int
  deriving DecidableEq, Repr

namespace Decimal

/-- A fraction with a positive denominator, scaled by a power of ten. -/
def scaled (num den : Nat) (power : Int) : Nat × Nat :=
  if power < 0 then (num, den * Nat.pow 10 power.natAbs) else (num * Nat.pow 10 power.toNat, den)

/-- The power of ten of the leading digit of a positive fraction. -/
def leadingPower (num den : Nat) : Int :=
  if den ≤ num then (Nat.toDigits 10 (num / den)).length - 1
  else
    match (List.range 400).find? fun j => den ≤ num * Nat.pow 10 j with
    | some j => -j
    | none => 0

/-- The decimal with `count` digits in the interval between the fractions `low/den` and
`high/den`, ends included if `closed`, that is nearest to `num/den`. -/
def onGrid (num low high den : Nat) (closed : Bool) (count : Nat) : Option Decimal :=
  let exponent := leadingPower num den - (count - 1 : Nat)
  let (n, d) := scaled num den (-exponent)
  let (l, _) := scaled low den (-exponent)
  let (h, _) := scaled high den (-exponent)
  let inside := fun k => if closed then l ≤ k * d && k * d ≤ h else l < k * d && k * d < h
  let below := n / d
  let above := below + 1
  let distanceBelow := n - below * d
  let distanceAbove := above * d - n
  match inside below && below > 0, inside above with
  | true, true =>
    if distanceBelow < distanceAbove || (distanceBelow = distanceAbove && below % 2 = 0) then
      some { digits := below, exponent }
    else some { digits := above, exponent }
  | true, false => some { digits := below, exponent }
  | false, true => some { digits := above, exponent }
  | false, false => none

/-- The decimal without zeros at its end. -/
def trimmed (d : Decimal) : Nat → Decimal
  | 0 => d
  | fuel + 1 =>
    if d.digits % 10 = 0 && d.digits > 0 then
      trimmed { digits := d.digits / 10, exponent := d.exponent + 1 } fuel
    else d

/-- The shortest decimal for `m · 2^q` with `m > 0`; `narrow` says that the next smaller number is
only half as far away as the next larger one. -/
def shortest (m : Nat) (q : Int) (narrow : Bool) : Decimal :=
  let low := if narrow then 4 * m - 1 else 4 * m - 2
  let scale := fun n => if q - 2 < 0 then n else n * Nat.pow 2 (q - 2).toNat
  let den := if q - 2 < 0 then Nat.pow 2 (q - 2).natAbs else 1
  let tries := (List.range 17).filterMap fun i =>
    onGrid (scale (4 * m)) (scale low) (scale (4 * m + 2)) den (m % 2 = 0) (i + 1)
  (tries.head?.getD { digits := m, exponent := 0 }).trimmed 20

/-- The shortest decimal for the absolute value of a finite number other than zero. -/
def ofFloat (x : Float) : Decimal :=
  let bits := x.toBits.toNat
  let fraction := bits % 0x10000000000000
  let biased : Nat := bits / 0x10000000000000 % 0x800
  if biased = 0 then shortest fraction (-1074) false
  else shortest (0x10000000000000 + fraction) ((biased : Int) - 1075) (fraction = 0 && biased > 1)

end Decimal

end PathGlob
