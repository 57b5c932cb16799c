/-!
# Digits

Numbers as they stand in text, shared by every format that has them: a sign, decimal digits, and
digits in bases up to sixteen, as many as there are or a fixed count. No reader here skips
anything: **a text that is not digits throughout is no number**.
-/

set_option autoImplicit false

namespace Clearance
namespace Number

/-- A sign, if there is one, and whether it is a minus. -/
def sign : List Char → Bool × List Char
  | '-' :: rest => (true, rest)
  | '+' :: rest => (false, rest)
  | text => (false, text)

def signed (isNegative : Bool) (n : Nat) : Int := if isNegative then -n else n

/-- A decimal number: one digit or more, and nothing else. -/
def natural? (text : List Char) : Option Nat :=
  if text ≠ [] ∧ text.all Char.isDigit then some (Nat.ofDigitChars 10 text 0) else none

/-- The value of a digit in bases up to sixteen; a letter may be of either case. -/
def digitValue? (c : Char) : Option Nat :=
  if c.isDigit then some (c.toNat - '0'.toNat)
  else if 'a' ≤ c ∧ c ≤ 'f' then some (c.toNat - 'a'.toNat + 10)
  else if 'A' ≤ c ∧ c ≤ 'F' then some (c.toNat - 'A'.toNat + 10)
  else none

/-- A number in some base: one digit or more, and nothing else. -/
def inBase? (base : Nat) (text : List Char) : Option Nat :=
  if text = [] then none
  else text.foldl (fun n? c => do
    let n ← n?
    let digit ← (digitValue? c).filter (· < base)
    return n * base + digit) (some 0)

/-- A number of exactly `count` digits, and what follows it. -/
def exactly? (read? : List Char → Option Nat) (count : Nat) (text : List Char) :
    Option (Nat × List Char) :=
  if (text.take count).length = count then
    (read? (text.take count)).map fun n => (n, text.drop count)
  else none

/-- Digits with zeros before them, `count` in all unless there are more. -/
def padded (count : Nat) (digits : List Char) : List Char :=
  List.replicate (count - digits.length) '0' ++ digits

end Number
end Clearance
