/-!
# Bounds of integers

Integers of 64 bits, with a sign and without. A literal that goes beyond them is a float or no
number at all, depending on the format that it stands in.
-/

set_option autoImplicit false

namespace Clearance
namespace Number

def largestUnsigned : Nat := 0xFFFFFFFFFFFFFFFF

def largestSigned : Nat := 0x7FFFFFFFFFFFFFFF

def fitsUnsigned (n : Nat) : Bool := decide (n ≤ largestUnsigned)

/-- The range of signed integers; it goes one further below zero than above. -/
def fitsSigned (n : Int) : Bool := decide (-largestSigned - 1 ≤ n ∧ n ≤ largestSigned)

end Number
end Clearance
