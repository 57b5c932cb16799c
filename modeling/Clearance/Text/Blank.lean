/-!
# Blank characters

The characters of the Unicode property *White_Space*, twenty-five of them. A name made of these
alone says nothing and is refused as if it were empty (`Config/Settings.lean`).
-/

set_option autoImplicit false

namespace Clearance
namespace Text

def isBlank (c : Char) : Bool :=
  let n := c.toNat
  (9 ≤ n && n ≤ 13) || n == 0x20 || n == 0x85 || n == 0xA0 || n == 0x1680
    || (0x2000 ≤ n && n ≤ 0x200A) || n == 0x2028 || n == 0x2029 || n == 0x202F
    || n == 0x205F || n == 0x3000

/-- Whether a text has no character but white space; the empty text has none. -/
def isAllBlank (text : String) : Bool := text.toList.all isBlank

/-- What the core library calls white space is blank here too. -/
theorem isBlank_of_isWhitespace {c : Char} (h : c.isWhitespace = true) : isBlank c = true := by
  simp only [Char.isWhitespace, Bool.or_eq_true, decide_eq_true_eq] at h
  rcases h with ((h | h) | h) | h <;> subst h <;> decide

end Text
end Clearance
