import Clearance.Masking.Policy

/-!
# Trials of masking

One secret at two places of a resource and any masks on the two. A policy either fails, for a
reason that has to do with the secret and never for want of a field, or leaves the rest of the
resource as it was.
-/

set_option autoImplicit false

namespace Clearance
namespace Trial

inductive Secret where
  | text (s : String)
  | number (n : Int)
  | flag (b : Bool)

def Secret.toValue : Secret → Value
  | .text s => .text s
  | .number n => .number (.integer n)
  | .flag b => .bool b

structure MaskingInput where
  secret : Secret
  /-- Strategies, each for the nested place or for the other. -/
  masks : List (Strategy × Bool)

namespace MaskingInput

def resource (input : MaskingInput) : Value :=
  let secret := input.secret.toValue
  .ofFields [("type", .text "person"), ("secret", secret),
    ("nested", .ofFields [("secret", secret)])]

def policy (input : MaskingInput) : Policy :=
  input.masks.map fun (strategy, nested) =>
    ⟨if nested then "nested.secret" else "secret", strategy⟩

def run (input : MaskingInput) : Traced (Except MaskError Value) :=
  input.policy.apply input.resource

/-- The number of fields of an object; other values have none. -/
def fieldCount : Value → Nat
  | .object fields => fields.length
  | _ => 0

/-- The laws of a masked resource: its type stays, it has no more fields than before, and the
resource that was given still holds one secret twice. -/
def maskedHolds (input : MaskingInput) (masked : Value) : Bool :=
  Value.sameOption (masked.field? "type") (some (.text "person"))
    && decide (fieldCount masked ≤ 3)
    && Value.sameOption (input.resource.field? "secret")
      ((input.resource.field? "nested").bind (·.field? "secret"))

def holds (input : MaskingInput) : Bool :=
  match input.run.result with
  | .ok masked => input.maskedHolds masked
  | .error .emptyField => false
  | .error _ => true

end MaskingInput
end Trial
end Clearance
