import Clearance.Containment
import Clearance.Evaluation

/-!
# Authorizers

An authorizer holds a default chain. A request comes with a chain of its own, or without one, and
that chain is evaluated first. **If it allows, that is the answer; if it denies, for whatever
reason, the default chain decides as if the first had never been there**; if one of its callbacks
fails, that failure is the outcome and the default chain is not consulted.

An authorizer that logs its decisions adds one event for each answer it gives, and none for a
failure. Logging changes nothing else.
-/

set_option autoImplicit false

namespace Clearance

structure Authorizer where
  defaultChain : List Rule := []
  /-- The name under which decisions are logged. -/
  name : String := "default"
  logsDecisions : Bool := true

namespace Authorizer

def decisionLog (authorizer : Authorizer) (request : Request) (kind : ChainKind)
    (response : Response) : List Event :=
  if authorizer.logsDecisions then
    [.decided authorizer.name request.types response.label kind response.effect]
  else []

def conclude (authorizer : Authorizer) (request : Request) (kind : ChainKind)
    (evaluation : Evaluation) : Evaluation :=
  match evaluation.outcome with
  | .error _ => evaluation
  | .ok response =>
      { evaluation with
        events := evaluation.events ++ authorizer.decisionLog request kind response }

/-- Decides a request that comes with a chain of its own, or without one. -/
def enforce (authorizer : Authorizer) (chain : Option (List Rule)) (request : Request) :
    Evaluation :=
  let first := Chain.evaluate .request chain request
  match first.outcome with
  | .error _ => first
  | .ok response =>
      if response.isAllowed then authorizer.conclude request .request first
      else
        (authorizer.conclude request .default
          (Chain.evaluate .default (some authorizer.defaultChain) request)).after
          first.calls first.events

end Authorizer
end Clearance
