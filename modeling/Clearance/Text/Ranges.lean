/-!
# Ranges of characters

A property of characters that a standard lists is kept as closed ranges of code points. A long
list is cut into several, so that each stays quick to check.
-/

set_option autoImplicit false

namespace Clearance
namespace Text

abbrev Ranges := List (Nat × Nat)

def Ranges.hold (ranges : Ranges) (c : Char) : Bool :=
  ranges.any fun (first, last) => decide (first ≤ c.toNat) && decide (c.toNat ≤ last)

end Text
end Clearance
