import Clearance.Number.Bounds
import Clearance.Number.Digits
import Clearance.Number.Double

/-!
# Reading numbers

The texts that stand for a number where a setting or an environment variable may be one. An
integer is digits with at most one sign; a float may also have a point, with digits on at least
one side of it, and an exponent, or be one of the words for infinity and for not-a-number, in any
case. Blanks and separators between digits are not allowed.
-/

set_option autoImplicit false

namespace Clearance
namespace Number

/-- An unsigned integer of 64 bits, a plus sign allowed. -/
def unsigned? (text : List Char) : Option Nat :=
  let digits := match text with
    | '+' :: rest => rest
    | text => text
  (natural? digits).filter fitsUnsigned

def signed? (text : List Char) : Option Int :=
  let (isNegative, digits) := sign text
  ((natural? digits).map (signed isNegative)).filter fitsSigned

def exponent? : List Char → Option Int
  | [] => some 0
  | c :: rest =>
      if c = 'e' ∨ c = 'E' then
        let (isNegative, digits) := sign rest
        (natural? digits).map (signed isNegative)
      else none

/-- A float; one that is too large is infinite. -/
def float? (text : List Char) : Option Double :=
  let (isNegative, body) := sign text
  let word := String.ofList (body.map Char.toLower)
  if word = "inf" ∨ word = "infinity" then some (.infinity isNegative)
  else if word = "nan" then some .nan
  else
    let whole := body.takeWhile Char.isDigit
    let rest := body.dropWhile Char.isDigit
    let (fraction, rest) := match rest with
      | '.' :: rest => (rest.takeWhile Char.isDigit, rest.dropWhile Char.isDigit)
      | rest => ([], rest)
    if whole ++ fraction = [] then none
    else (exponent? rest).map fun exponent =>
      .ofDecimal isNegative (Nat.ofDigitChars 10 (whole ++ fraction) 0)
        (exponent - fraction.length)

end Number
end Clearance
