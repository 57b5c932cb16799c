import Clearance.Digest.Blake3
import Clearance.Digest.Sha256
import Clearance.Masking.Strategy
import Clearance.Text.Quoted

/-!
# Masking text

What each strategy makes of the text of a value. Everything here counts characters, never bytes.
Redaction is the one strategy that can fail: it first checks that the text has the shape it
knows, and says why if it has not. **The reason names a count of digits or a missing part of an
address and nothing else of the text**, because reasons end up in logs.
-/

set_option autoImplicit false

namespace Clearance

inductive Mismatch where
  | ssnDigits (found : Nat)
  | phoneDigits (found : Nat)
  | cardDigits (found : Nat)
  | noAtSign
  | noLocalPart
  | noDomain
  deriving DecidableEq

def Mismatch.text : Mismatch → String
  | .ssnDigits found => "Expected 9 digits for SSN, found " ++ toString found
  | .phoneDigits found => "Expected at least 10 digits for phone, found " ++ toString found
  | .cardDigits found => "Expected 13-19 digits for credit card, found " ++ toString found
  | .noAtSign => "Invalid email format: missing '@'"
  | .noLocalPart => "Invalid email format: empty local part"
  | .noDomain => "Invalid email format: empty domain"

def Pattern.label : Pattern → String
  | .ssn => "Ssn"
  | .phone => "Phone"
  | .email => "Email"
  | .creditCard => "CreditCard"
  | .custom replacement => "Custom \x7b replacement: " ++ Text.quoted replacement ++ " \x7d"

namespace Masking

/-- The decimal digits of a text, in order; digits of other scripts do not count. -/
def digitsOf (text : List Char) : List Char := text.filter Char.isDigit

def takeLast {α : Type} (count : Nat) (items : List α) : List α :=
  items.drop (items.length - count)

/-- Stars in place of all digits but the last four, if the count of digits is accepted. -/
def redactDigits (stars : String) (accepts : Nat → Bool) (mismatch : Nat → Mismatch)
    (text : List Char) : Except Mismatch (List Char) :=
  let digits := digitsOf text
  if accepts digits.length then .ok (stars.toList ++ takeLast 4 digits)
  else .error (mismatch digits.length)

/-- The first character and the domain, which begins after the first at sign. -/
def redactEmail (text : List Char) : Except Mismatch (List Char) :=
  match text.dropWhile (· ≠ '@'), text.takeWhile (· ≠ '@') with
  | [], _ => .error .noAtSign
  | _ :: _, [] => .error .noLocalPart
  | [_], _ :: _ => .error .noDomain
  | _ :: domain, first :: _ => .ok (first :: "***@".toList ++ domain)

def redact : Pattern → List Char → Except Mismatch (List Char)
  | .ssn, text => redactDigits "***-**-" (· == 9) .ssnDigits text
  | .phone, text => redactDigits "***-***-" (10 ≤ ·) .phoneDigits text
  | .email, text => redactEmail text
  | .creditCard, text =>
      redactDigits "****-****-****-" (fun n => 13 ≤ n && n ≤ 19) .cardDigits text
  | .custom replacement, _ => .ok replacement.toList

def hash (text : String) : List Char :=
  Digest.hexadecimal (Digest.sha256 (Digest.bytesOf text)).toList

/-- `tok_` and the first eight bytes of the BLAKE3 digest of a text in hexadecimal. -/
def tokenize (text : String) : List Char :=
  "tok_".toList ++ (Digest.hexadecimal (Digest.blake3 (Digest.bytesOf text)).toList).take 16

/-- A text of at most so many characters as it is, a longer one cut and marked. -/
def truncate (maxChars : Nat) (text : List Char) : List Char :=
  if text.length ≤ maxChars then text else text.take maxChars ++ "...".toList

end Masking

namespace Strategy

/-- What a strategy makes of a text. Structural strategies have no use for it and give the empty
text. -/
def maskText : Strategy → String → Except (Pattern × Mismatch) String
  | .redact pattern, text =>
      match Masking.redact pattern text.toList with
      | .ok masked => .ok (String.ofList masked)
      | .error reason => .error (pattern, reason)
  | .hash, text => .ok (String.ofList (Masking.hash text))
  | .tokenize, text => .ok (String.ofList (Masking.tokenize text))
  | .truncate maxChars, text => .ok (String.ofList (Masking.truncate maxChars text.toList))
  | .keepLast chars, text => .ok (String.ofList (Masking.takeLast chars text.toList))
  | .null, _ | .remove, _ => .ok ""

end Strategy
end Clearance
