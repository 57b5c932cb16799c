/-!
# Masking strategies

How a field of a resource is made less telling. Five strategies work on the text of a value, two
on the field as such: `null` overwrites it and `remove` takes it away.
-/

set_option autoImplicit false

namespace Clearance

/-- The known shapes of text that redaction leaves a remainder of. -/
inductive Pattern where
  /-- Nine digits, of which the last four stay. -/
  | ssn
  /-- Ten digits or more, of which the last four stay. -/
  | phone
  /-- An address, of which the first character and the domain stay. -/
  | email
  /-- Thirteen to nineteen digits, of which the last four stay. -/
  | creditCard
  /-- Any text at all, of which nothing stays. -/
  | custom (replacement : String)
  deriving DecidableEq

inductive Strategy where
  | redact (pattern : Pattern)
  /-- A digest of the text, from which it cannot be had back. -/
  | hash
  /-- A short token that is equal for equal texts. -/
  | tokenize
  /-- The first characters, with a mark if any were cut. -/
  | truncate (maxChars : Nat)
  | keepLast (chars : Nat)
  | null
  | remove
  deriving DecidableEq

namespace Strategy

/-- The name of a strategy in events, errors and documents. -/
def name : Strategy → String
  | .redact _ => "redact"
  | .hash => "hash"
  | .tokenize => "tokenize"
  | .truncate _ => "truncate"
  | .keepLast _ => "keep-last"
  | .null => "null"
  | .remove => "remove"

/-- Whether a strategy acts on the field and not on its text. -/
def isStructural : Strategy → Bool
  | .null | .remove => true
  | _ => false

end Strategy
end Clearance
