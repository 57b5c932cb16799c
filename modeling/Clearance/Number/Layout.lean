import Clearance.Number.Shortest

/-!
# How a number is laid out

Which digits are written for a double is settled in `Number/Shortest.lean`; this file puts them
on the page. Every decision of a format is a field of one record: which magnitudes are written
in full, whether a whole number says so by `.0`, and where a tie between two decimals goes. The
two formats of the library differ in nothing else.
-/

set_option autoImplicit false

namespace Clearance

/-- The decisions of a number format. -/
structure Layout where
  /-- Magnitudes (exponents of ten) that are written without an exponent. -/
  inFull : Int → Bool
  /-- Whether a whole number written in full ends in `.0`. -/
  marksWhole : Bool
  /-- Which of two decimals stands for a value in the middle between them. -/
  tie : Tie

namespace Layout

/-- JSON documents: in full from `0.00001` up to sixteen digits before the point, and always
recognisable as a float. -/
def json : Layout := ⟨fun e => decide (-5 ≤ e ∧ e ≤ 15), true, .toEven⟩

/-- Settings turned to text: never an exponent, and no mark on a whole number. -/
def plain : Layout := ⟨fun _ => true, false, .up⟩

def digitChar (digit : Nat) : Char := Char.ofNat ('0'.toNat + digit)

/-- Digits and a decimal point, as many zeros as the magnitude needs. -/
def full (layout : Layout) (x : Decimal) : String :=
  let digits := x.digits.map digitChar
  let mark := if layout.marksWhole then ".0" else ""
  if x.exponent < 0 then
    "0." ++ String.ofList (List.replicate (-x.exponent - 1).toNat '0' ++ digits)
  else
    let whole := (x.exponent + 1).toNat
    if digits.length ≤ whole then
      String.ofList (digits ++ List.replicate (whole - digits.length) '0') ++ mark
    else String.ofList (digits.take whole) ++ "." ++ String.ofList (digits.drop whole)

/-- One digit, the others behind a point, and the power of ten with its sign. -/
def scientific (x : Decimal) : String :=
  let digits := x.digits.map digitChar
  let fraction := if digits.length ≤ 1 then "" else "." ++ String.ofList (digits.drop 1)
  let sign := if x.exponent < 0 then "-" else "+"
  String.ofList (digits.take 1) ++ fraction ++ "e" ++ sign ++ toString x.exponent.natAbs

def text (layout : Layout) (d : Double) : String :=
  if d.isNaN then "NaN"
  else
    let sign := if d.isNegative then "-" else ""
    if d.isInfinite then sign ++ "inf"
    else if d.isZero then sign ++ (if layout.marksWhole then "0.0" else "0")
    else
      let x := d.shortest layout.tie
      sign ++ (if layout.inFull x.exponent then layout.full x else scientific x)

end Layout
end Clearance
