import Clearance.Rule

/-!
# Evaluating a chain of rules

A chain is evaluated in two passes. First every rule of the chain is filtered by the types of the
request; then the rules that apply are asked in order until one fires or fails. **The first rule
that fires decides, and a callback that fails is never turned into a decision**: its failure is
the outcome. A chain without rules, and one in which no rule fires, denies.

An evaluation reports, beside its outcome, which callbacks it ran and what it logged. Both are in
the order in which they happen.
-/

set_option autoImplicit false

namespace Clearance

inductive Callback where
  | filter
  | matcher
  | mapper
  deriving DecidableEq

def Callback.name : Callback → String
  | .filter => "filter"
  | .matcher => "matcher"
  | .mapper => "mapper"

/-- One run of a callback of the rule at a position of a chain. -/
structure Call where
  chain : ChainKind
  position : Nat
  callback : Callback
  deriving DecidableEq

/-- A callback failed, in the rule with this label. -/
inductive EvaluationError where
  | matcherFailed (rule : String) (chain : ChainKind) (cause : Fault)
  | mapperFailed (rule : String) (chain : ChainKind) (cause : Fault)
  deriving DecidableEq

namespace EvaluationError

def rule : EvaluationError → String
  | .matcherFailed rule _ _ | .mapperFailed rule _ _ => rule

def chain : EvaluationError → ChainKind
  | .matcherFailed _ chain _ | .mapperFailed _ chain _ => chain

def cause : EvaluationError → Fault
  | .matcherFailed _ _ cause | .mapperFailed _ _ cause => cause

def message (error : EvaluationError) : String :=
  let callback := match error with
    | .matcherFailed .. => "Matcher"
    | .mapperFailed .. => "Mapper"
  callback ++ " of rule '" ++ error.rule ++ "' in the " ++ error.chain.name ++ " chain failed: "
    ++ error.cause.message

end EvaluationError

structure Placed where
  position : Nat
  rule : Rule

def Placed.label (placed : Placed) : String := placed.rule.label placed.position

/-- What an allowed request gets: the resource that it named, or what a mapper made of it. -/
inductive Granted where
  | unchanged (resource : Value)
  | mapped (resource : Value)

def Granted.resource : Granted → Value
  | .unchanged resource | .mapped resource => resource

structure Response where
  effect : Effect
  matched : Option Placed
  /-- What is handed out, if access is allowed. -/
  granted : Option Granted

namespace Response

def defaultDeny : Response := ⟨.deny, none, none⟩

def isAllowed (response : Response) : Bool := response.effect.isAllow

def label (response : Response) : Option String := response.matched.map Placed.label

end Response

/-- An outcome with the callbacks that ran for it and the events that were logged. -/
structure Evaluation where
  outcome : Except EvaluationError Response
  calls : List Call
  events : List Event

namespace Evaluation

/-- An outcome reached without a callback or an event. -/
def pure (outcome : Except EvaluationError Response) : Evaluation := ⟨outcome, [], []⟩

/-- An evaluation with something before it. -/
def after (calls : List Call) (events : List Event) (evaluation : Evaluation) : Evaluation :=
  ⟨evaluation.outcome, calls ++ evaluation.calls, events ++ evaluation.events⟩

@[simp] theorem outcome_after (calls : List Call) (events : List Event)
    (evaluation : Evaluation) : (evaluation.after calls events).outcome = evaluation.outcome := rfl

@[simp] theorem calls_after (calls : List Call) (events : List Event) (evaluation : Evaluation) :
    (evaluation.after calls events).calls = calls ++ evaluation.calls := rfl

@[simp] theorem events_after (calls : List Call) (events : List Event)
    (evaluation : Evaluation) :
    (evaluation.after calls events).events = events ++ evaluation.events := rfl

theorem after_after (calls calls' : List Call) (events events' : List Event)
    (evaluation : Evaluation) :
    (evaluation.after calls' events').after calls events
      = evaluation.after (calls ++ calls') (events ++ events') := by
  simp [after]

end Evaluation

namespace Chain

def place (rules : List Rule) : List Placed :=
  rules.zipIdx.map fun (rule, position) => ⟨position, rule⟩

/-- The callback runs of one placed rule, if it has the callback. -/
def callOf (kind : ChainKind) (placed : Placed) (callback : Callback) (present : Bool) :
    List Call :=
  if present then [⟨kind, placed.position, callback⟩] else []

/-- The answer of a rule that fired. A mapper runs only if the rule allows. -/
def conclude (kind : ChainKind) (request : Request) (placed : Placed) : Evaluation :=
  match placed.rule.effect, placed.rule.mapper with
  | .deny, _ => .pure (.ok ⟨.deny, some placed, none⟩)
  | .allow, none => .pure (.ok ⟨.allow, some placed, some (.unchanged request.resource)⟩)
  | .allow, some mapper =>
      let mapped := mapper request.resource
      { outcome := match mapped.result with
          | .ok resource => .ok ⟨.allow, some placed, some (.mapped resource)⟩
          | .error cause => .error (.mapperFailed placed.label kind cause)
        calls := callOf kind placed .mapper true
        events := mapped.events }

/-- Asks rules that apply, in order, until one fires or fails. -/
def ask (kind : ChainKind) (request : Request) : List Placed → Evaluation
  | [] => .pure (.ok .defaultDeny)
  | placed :: rest =>
      let calls := callOf kind placed .matcher placed.rule.matcher.isSome
      match placed.rule.fires request with
      | .error cause => ⟨.error (.matcherFailed placed.label kind cause), calls, []⟩
      | .ok false => (ask kind request rest).after calls []
      | .ok true =>
          (conclude kind request placed).after calls
            [.fired kind placed.label placed.rule.effect]

/-- Evaluates a request against a chain, which may be missing. -/
def evaluate (kind : ChainKind) (chain : Option (List Rule)) (request : Request) : Evaluation :=
  match chain.getD [] with
  | [] => ⟨.ok .defaultDeny, [], [.emptyChain kind]⟩
  | rules =>
      let placed := place rules
      let applicable := placed.filter fun p => p.rule.applies request.types
      (ask kind request applicable).after
        (placed.flatMap fun p => callOf kind p .filter p.rule.filter.isSome)
        [.evaluating kind rules.length applicable.length request.types]

end Chain
end Clearance
