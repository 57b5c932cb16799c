import Clearance.Document.Form
import Clearance.Masking.Policy

/-!
# Masks and policies as documents

Reading is for any form of document, writing is for JSON. A strategy is a variant; redaction
holds its pattern, a variant itself, and the strategies that count characters hold a record of
one number.
-/

set_option autoImplicit false

namespace Clearance

variable {D : Type}

namespace Pattern

def read? (form : Form D) (document : D) : Option Pattern :=
  match form.variant? document with
  | some ("ssn", payload) => form.bare payload .ssn
  | some ("phone", payload) => form.bare payload .phone
  | some ("email", payload) => form.bare payload .email
  | some ("credit-card", payload) => form.bare payload .creditCard
  | some ("custom", some payload) =>
      match form.payload? ["replacement"] payload with
      | some [some replacement] => (form.text? replacement).map .custom
      | _ => none
  | _ => none

def write : Pattern → Value
  | .ssn => .text "ssn"
  | .phone => .text "phone"
  | .email => .text "email"
  | .creditCard => .text "credit-card"
  | .custom replacement =>
      .ofFields [("custom", .ofFields [("replacement", .text replacement)])]

end Pattern

namespace Strategy

/-- The number that is the one field of a payload. -/
def count? (form : Form D) (name : String) (payload : D) : Option Nat :=
  match form.payload? [name] payload with
  | some [some count] => form.count? count
  | _ => none

def read? (form : Form D) (document : D) : Option Strategy :=
  match form.variant? document with
  | some ("redact", some payload) => (Pattern.read? form payload).map .redact
  | some ("hash", payload) => form.bare payload .hash
  | some ("tokenize", payload) => form.bare payload .tokenize
  | some ("truncate", some payload) => (count? form "max_chars" payload).map .truncate
  | some ("keep-last", some payload) => (count? form "chars" payload).map .keepLast
  | some ("null", payload) => form.bare payload .null
  | some ("remove", payload) => form.bare payload .remove
  | _ => none

def write (strategy : Strategy) : Value :=
  match strategy with
  | .redact pattern => .ofFields [(strategy.name, pattern.write)]
  | .truncate maxChars => .ofFields [(strategy.name, .ofFields [("max_chars", .nat maxChars)])]
  | .keepLast chars => .ofFields [(strategy.name, .ofFields [("chars", .nat chars)])]
  | .hash | .tokenize | .null | .remove => .text strategy.name

end Strategy

namespace Mask

def read? (form : Form D) (document : D) : Option Mask :=
  match form.record? ["field", "strategy"] document with
  | some [some field, some strategy] => do
      let field ← form.text? field
      let strategy ← Strategy.read? form strategy
      return ⟨field, strategy⟩
  | _ => none

def write (mask : Mask) : Value :=
  .ofFields [("field", .text mask.field), ("strategy", mask.strategy.write)]

end Mask

namespace Policy

def read? (form : Form D) (document : D) : Option Policy :=
  (form.items? document).bind fun items => items.mapM (Mask.read? form)

def write (policy : Policy) : Value := .list (policy.map Mask.write)

end Policy
end Clearance
