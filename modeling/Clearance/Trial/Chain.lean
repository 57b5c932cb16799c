import Clearance.Authorizer

/-!
# Trials of rule chains

Rules that are plain data: an effect, the types they ask for, whether they fire, and whether they
tag the resource. For these the answer to a request can be had without the engine, by looking for
the first rule that decides, first in the chain of the request and then in the default chain.
The trial runs the engine on the rules turned into real ones and compares its answer with that.
-/

set_option autoImplicit false

namespace Clearance
namespace Trial

def resourceTypes : List String := ["person", "invoice", "group"]
def actionTypes : List String := ["read", "write", "delete"]

def typeAt (types : List String) (n : Nat) : String := types.getD (n % 3) ""

structure PlainRule where
  effect : Effect
  resourceType : Option Nat
  actionType : Option Nat
  fires : Bool
  tags : Bool

namespace PlainRule

/-- Whether a type is the one that is asked for, if one is. -/
def asksFor (types : List String) (wanted : Option Nat) (actual : Option String) : Bool :=
  match wanted with
  | none => true
  | some n => actual == some (typeAt types n)

/-- The resource with `masked` set. -/
def tag (resource : Value) : Value :=
  match resource with
  | .object fields => .object (Fields.insert fields "masked" (.bool true))
  | other => other

def toRule (plain : PlainRule) (name : String) : Rule where
  name := some name
  effect := plain.effect
  filter :=
    if plain.resourceType.isSome || plain.actionType.isSome then
      some fun types =>
        asksFor resourceTypes plain.resourceType types.resource
          && asksFor actionTypes plain.actionType types.action
    else none
  matcher := some fun _ => .ok plain.fires
  mapper := if plain.tags then some fun resource => ⟨.ok (tag resource), []⟩ else none

/-- Whether the rule decides requests of these types. -/
def decides (plain : PlainRule) (resourceType actionType : String) : Bool :=
  plain.resourceType.all (typeAt resourceTypes · == resourceType)
    && plain.actionType.all (typeAt actionTypes · == actionType)
    && plain.fires

end PlainRule

structure ChainInput where
  requestChain : Option (List PlainRule)
  defaultChain : List PlainRule
  resourceType : Nat
  actionType : Nat

namespace ChainInput

def resourceTypeName (input : ChainInput) : String := typeAt resourceTypes input.resourceType
def actionTypeName (input : ChainInput) : String := typeAt actionTypes input.actionType

/-- The rules of a chain, named after the chain and their positions. -/
def rulesOf (chain : ChainKind) (rules : List PlainRule) : List Rule :=
  rules.zipIdx.map fun (plain, i) => plain.toRule (chain.name ++ "-" ++ toString i)

def request (input : ChainInput) : Request :=
  .ofParts (.ofFields [("type", .text input.actionTypeName)])
    (.ofFields [("type", .text input.resourceTypeName), ("id", .nat 7)])

/-- The answer of the engine, which logs no decision. -/
def run (input : ChainInput) : Evaluation :=
  Authorizer.enforce
    { defaultChain := rulesOf .default input.defaultChain, logsDecisions := false }
    (input.requestChain.map (rulesOf .request)) input.request

/-- The first rule of a chain that decides, with its name. -/
def firstDeciding (input : ChainInput) (chain : ChainKind) (rules : List PlainRule) :
    Option (String × PlainRule) :=
  (rules.zipIdx.find? fun (plain, _) =>
      plain.decides input.resourceTypeName input.actionTypeName).map
    fun (plain, i) => (chain.name ++ "-" ++ toString i, plain)

/-- The rule that has to decide, if any does. -/
def expected (input : ChainInput) : Option (String × PlainRule) :=
  let own := (input.requestChain.bind (input.firstDeciding .request)).filter
    fun (_, plain) => plain.effect.isAllow
  own.or (input.firstDeciding .default input.defaultChain)

/-- Whether the resource of an answer is tagged as the rule says and keeps its identity. -/
def resourceHolds (input : ChainInput) (plain : PlainRule) (response : Response) : Bool :=
  match response.granted with
  | none => false
  | some granted =>
      let tagged := Value.sameOption (granted.resource.field? "masked") (some (.bool true))
      tagged == plain.tags
        && Value.sameOption (granted.resource.field? "id") (input.request.resource.field? "id")

def responseHolds (input : ChainInput) (response : Response) : Bool :=
  (match input.expected with
    | some (name, plain) =>
        response.matched.bind (·.rule.name) == some name
          && decide (response.effect = plain.effect)
          && (!response.isAllowed || input.resourceHolds plain response)
    | none => response.effect.isDeny && response.matched.isNone)
  && response.granted.isSome == response.isAllowed

def holds (input : ChainInput) : Bool :=
  match input.run.outcome with
  | .error _ => false
  | .ok response => input.responseHolds response

end ChainInput
end Trial
end Clearance
