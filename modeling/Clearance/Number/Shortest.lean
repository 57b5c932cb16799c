import Clearance.Number.Double

/-!
# The fewest digits that read back

A finite double stands for all the reals that round to it, an interval around its value that
holds its ends exactly when the significand is even. The digits written for a double are those
of a decimal in that interval, and **among those decimals the one with the fewest digits is
taken, and of two with equally many the one nearer to the value**. Where the value lies in the
middle between the two, a `Tie` says which of them it is.

For each count of digits the decimals of that count and magnitude form a grid. If a point of the
grid lies in the interval, so does one of the two neighbours of the value on the grid, so two
candidates for each count decide; seventeen digits always suffice.
-/

set_option autoImplicit false

namespace Clearance

/-- A positive decimal `d.ddd · 10 ^ exponent`, by its digits; the first and the last digit
are not zero. -/
structure Decimal where
  digits : List Nat
  exponent : Int
  deriving DecidableEq

/-- Which of two equally near decimals is taken. -/
inductive Tie where
  /-- The one whose last digit is even. -/
  | toEven
  | up
  deriving DecidableEq

/-- Whether the lower of two neighbours on a grid is taken when both are equally near. -/
def Tie.takesLower (tie : Tie) (lower : Nat) : Bool := tie == .toEven && lower % 2 == 0

namespace Decimal

def trim (digits : List Nat) : List Nat := (digits.reverse.dropWhile (· == 0)).reverse

/-- The decimal digits of a number, most significant first. -/
def digitsOf (n : Nat) : List Nat := (Nat.toDigits 10 n).map fun c => c.toNat - '0'.toNat

/-- The decimal `n · 10 ^ power`. -/
def ofScaled (n : Nat) (power : Int) : Decimal :=
  let digits := digitsOf n
  ⟨trim digits, power + digits.length - 1⟩

end Decimal

namespace Double

/-- A positive quantity of the form `factor · 2 ^ power`, as a fraction. -/
def dyadic (factor : Nat) (power : Int) : Nat × Nat :=
  (factor * Nat.pow 2 power.toNat, Nat.pow 2 (-power).toNat)

/-- The largest `e` with `10 ^ e ≤ numerator / denominator`, where a quotient below one is
never a power of ten. -/
def floorLog10 (numerator denominator : Nat) : Int :=
  if denominator ≤ numerator then (Nat.toDigits 10 (numerator / denominator)).length - 1
  else -(Nat.toDigits 10 (denominator / numerator)).length

/-- The decimal of `count` digits nearest to a positive finite double, if one of that many
digits rounds to it. -/
def decimalOfCount? (tie : Tie) (d : Double) (count : Nat) : Option Decimal :=
  let m := d.significand
  -- All four times as large: the value, and the ends of the interval that rounds to it.
  let value := 4 * m
  let low := if m = hiddenBit && d.exponentField > 1 then value - 1 else value - 2
  let high := value + 2
  let (num, den) := dyadic value (d.scale - 2)
  let power := floorLog10 num den + 1 - count
  -- A grid point `n` stands for `n · 10 ^ power`; `up` and `down` bring both to one unit.
  let up := Nat.pow 10 (-power).toNat
  let down := Nat.pow 10 power.toNat
  let unit := Nat.pow 2 (d.scale - 2).toNat * up
  let step := Nat.pow 2 (2 - d.scale).toNat * down
  let floor := value * unit / step
  let inside := fun n : Nat =>
    if m % 2 = 0 then low * unit ≤ n * step && n * step ≤ high * unit
    else low * unit < n * step && n * step < high * unit
  let below := inside floor
  let above := inside (floor + 1)
  -- Twice the distance to the lower neighbour against one whole step.
  let rest := 2 * (value * unit - floor * step)
  let nearer := if rest < step || (rest = step && tie.takesLower floor) then floor else floor + 1
  if below && above then some (.ofScaled nearer power)
  else if below then some (.ofScaled floor power)
  else if above then some (.ofScaled (floor + 1) power)
  else none

/-- The shortest decimal that rounds to a finite double other than zero, sign aside. -/
def shortest (tie : Tie) (d : Double) : Decimal :=
  ((List.range 17).findSome? fun i => d.decimalOfCount? tie (i + 1)).getD ⟨[], 0⟩

end Double
end Clearance
