import Clearance.Document.Form
import Clearance.Request

/-!
# Requests and effects as JSON documents

A request document has its four parts as fields, of which the action and the resource have to be
there. An absent part and a null one are the same for the subject and the environment, so **the
two are told apart when a request is written only in that an absent part is left out**: a request
with a null subject reads back without one.
-/

set_option autoImplicit false

namespace Clearance

namespace Effect

def read? (document : Value) : Option Effect :=
  match Json.form.variant? document with
  | some ("allow", payload) => Json.form.bare payload .allow
  | some ("deny", payload) => Json.form.bare payload .deny
  | _ => none

def write (effect : Effect) : Value := .text effect.name

end Effect

namespace Request

def partNames : List String := ["subject", "action", "resource", "environment"]

/-- A part that may be left out; null says the same. -/
def optionalPart : Option Value → Option Value
  | some .null => none
  | part => part

def read? (document : Value) : Option Request :=
  match Json.form.record? partNames document with
  | some [subject, some action, some resource, environment] =>
      some ⟨optionalPart subject, action, resource, optionalPart environment⟩
  | _ => none

def fieldOf (name : String) (part : Option Value) : List (String × Value) :=
  part.toList.map fun value => (name, value)

def write (request : Request) : Value :=
  .ofFields (fieldOf "subject" request.subject
    ++ [("action", request.action), ("resource", request.resource)]
    ++ fieldOf "environment" request.environment)

end Request
end Clearance
