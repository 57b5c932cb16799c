/-!
# Binary floating-point numbers of 64 bits

A `Double` is its 64 bits and nothing else: one sign bit, eleven bits of exponent, fifty-two of
fraction. Nothing here computes with doubles. They are read (a decimal is rounded to the nearest
double, a tie to the one whose last bit is zero), compared, rounded to a whole number, and
written again (`Number/Shortest.lean`), and all of that is exact arithmetic on natural numbers.

The finite value is `significand · 2 ^ scale`, and **`ofDecimal` builds the bits by addition**:
`(scale + 1074) · 2 ^ 52 + significand` is right for a subnormal (scale `-1074`, no hidden bit),
for a normal number (the hidden bit of the significand bumps the exponent field by one), and
for a significand that rounding carried up to `2 ^ 53`.
-/

set_option autoImplicit false

namespace Clearance

structure Double where
  bits : UInt64
  deriving DecidableEq, Inhabited

namespace Double

/-- The bit of the sign, `2 ^ 63`. -/
def signBit : Nat := 0x8000000000000000

/-- The lowest bit of the exponent, `2 ^ 52`, which is also the hidden bit of a significand. -/
def hiddenBit : Nat := 0x10000000000000

def isNegative (d : Double) : Bool := decide (signBit ≤ d.bits.toNat)

def magnitude (d : Double) : Nat := d.bits.toNat % signBit

/-- The magnitude of both infinities; what is above it is not a number. -/
def infiniteMagnitude : Nat := 2047 * hiddenBit

def isNaN (d : Double) : Bool := decide (infiniteMagnitude < d.magnitude)

def isInfinite (d : Double) : Bool := decide (d.magnitude = infiniteMagnitude)

def isZero (d : Double) : Bool := decide (d.magnitude = 0)

def exponentField (d : Double) : Nat := d.magnitude / hiddenBit

/-- The whole significand, with the hidden bit where there is one. -/
def significand (d : Double) : Nat :=
  d.magnitude % hiddenBit + if d.exponentField = 0 then 0 else hiddenBit

/-- The power of two that the significand counts. -/
def scale (d : Double) : Int := (max d.exponentField 1 : Nat) - 1075

/-- A double from its sign and the bits without the sign. -/
def ofMagnitude (negative : Bool) (magnitude : Nat) : Double :=
  ⟨UInt64.ofNat (magnitude + if negative then signBit else 0)⟩

def zero (negative : Bool) : Double := ofMagnitude negative 0

def infinity (negative : Bool) : Double := ofMagnitude negative infiniteMagnitude

def nan : Double := ofMagnitude false (infiniteMagnitude + hiddenBit / 2)

/-- Equality of values: the two zeros are one value, and not-a-number equals nothing. -/
def same (a b : Double) : Bool :=
  !a.isNaN && !b.isNaN && (a == b || a.isZero && b.isZero)

/-! ## Rounding -/

/-- `numerator / denominator` to the nearest whole number, a tie to the even one. -/
def divNearestEven (numerator denominator : Nat) : Nat :=
  let floor := numerator / denominator
  let rest := 2 * (numerator % denominator)
  if rest < denominator then floor
  else if denominator < rest then floor + 1
  else floor + floor % 2

/-- The largest `e` with `2 ^ e ≤ numerator / denominator`, both being positive. -/
def floorLog2 (numerator denominator : Nat) : Int :=
  let guess : Int := (numerator.log2 : Int) - denominator.log2
  if denominator * Nat.pow 2 guess.toNat ≤ numerator * Nat.pow 2 (-guess).toNat then guess
  else guess - 1

/-- The double nearest to `numerator / denominator`; beyond the largest it is an infinity. -/
def ofRatio (negative : Bool) (numerator denominator : Nat) : Double :=
  if numerator = 0 then zero negative
  else
    let scale := max (floorLog2 numerator denominator - 52) (-1074)
    let significand := divNearestEven
      (numerator * Nat.pow 2 (-scale).toNat) (denominator * Nat.pow 2 scale.toNat)
    ofMagnitude negative (min ((scale + 1074).toNat * hiddenBit + significand) infiniteMagnitude)

/-- The double nearest to `digits · 10 ^ exponent`. A magnitude above `10 ^ 400` or below
`10 ^ -400` is settled without the power, which may have any size. -/
def ofDecimal (negative : Bool) (digits : Nat) (exponent : Int) : Double :=
  let magnitude : Int := (Nat.toDigits 10 digits).length + exponent
  if digits = 0 then zero negative
  else if 400 < magnitude then infinity negative
  else if magnitude < -400 then zero negative
  else ofRatio negative (digits * Nat.pow 10 exponent.toNat) (Nat.pow 10 (-exponent).toNat)

/-- The magnitude to the nearest whole number, a half going up; infinite and undefined
magnitudes have none. -/
def roundMagnitude? (d : Double) : Option Nat :=
  if d.isNaN || d.isInfinite then none
  else
    let unit := Nat.pow 2 (-d.scale).toNat
    some ((2 * d.significand * Nat.pow 2 d.scale.toNat + unit) / (2 * unit))

end Double
end Clearance
