import Clearance.Event

/-!
# Access requests

Who asks, what for, on which resource and under which circumstances. Only the `type` of the
resource and of the action mean anything to the engine; all else is for the matchers of rules.
-/

set_option autoImplicit false

namespace Clearance

/-- A request for access. The action and the resource are always there. -/
structure Request where
  subject : Option Value
  action : Value
  resource : Value
  environment : Option Value

namespace Request

/-- A request that says nothing of its subject and its environment. -/
def ofParts (action resource : Value) : Request := ⟨none, action, resource, none⟩

/-- What a value names as its type: the string under `type`, if it is an object with one. -/
def typeOf (value : Value) : Option String := (value.field? "type").bind Value.text?

def types (request : Request) : RequestTypes :=
  ⟨typeOf request.resource, typeOf request.action⟩

/-- Equality of requests, by the equality of attribute values. -/
def same (a b : Request) : Bool :=
  Value.sameOption a.subject b.subject && a.action.same b.action && a.resource.same b.resource
    && Value.sameOption a.environment b.environment

end Request
end Clearance
