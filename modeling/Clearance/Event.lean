import Clearance.Effect
import Clearance.Text.Quoted
import Clearance.Value

/-!
# Log events

What the library reports while it decides, as data. Deciding returns its events in order beside
its result (`Traced`), so that what is logged can be compared with what was decided. The record
of an event, with its level, its message and its fields, is built here and nowhere else.
-/

set_option autoImplicit false

namespace Clearance

/-- The types that a request names for its resource and its action. -/
structure RequestTypes where
  resource : Option String
  action : Option String
  deriving DecidableEq

inductive Event where
  | emptyChain (chain : ChainKind)
  /-- A chain with rules is evaluated, so many of which apply. -/
  | evaluating (chain : ChainKind) (rules applicable : Nat) (types : RequestTypes)
  | fired (chain : ChainKind) (rule : String) (effect : Effect)
  /-- A mask was tried on a resource. -/
  | maskEvaluated (field strategy : String) (applied : Bool)
  /-- An authorizer came to a decision, by a rule if one fired. -/
  | decided (authorizer : String) (types : RequestTypes) (rule : Option String)
      (chain : ChainKind) (effect : Effect)
  deriving DecidableEq

/-- A result together with the events on the way to it. -/
structure Traced (α : Type) where
  result : α
  events : List Event

inductive Level where
  | trace
  | debug
  | info
  deriving DecidableEq

def Level.name : Level → String
  | .trace => "TRACE"
  | .debug => "DEBUG"
  | .info => "INFO"

namespace Event

def level : Event → Level
  | .emptyChain .. | .fired .. | .maskEvaluated .. => .trace
  | .evaluating .. => .debug
  | .decided .. => .info

def message : Event → String
  | .emptyChain .. => "Empty rule chain; default deny"
  | .evaluating .. => "Evaluating rule chain"
  | .fired .. => "Rule fired"
  | .maskEvaluated .. => "Field mask evaluated"
  | .decided _ _ _ _ effect => if effect.isAllow then "Access granted" else "Access denied"

def typeFields (types : RequestTypes) : List (String × Value) :=
  [("resource_type", .text (Text.quotedOption types.resource)),
   ("action_type", .text (Text.quotedOption types.action))]

def fields : Event → List (String × Value)
  | .emptyChain chain => [("chain", .text chain.name)]
  | .evaluating chain rules applicable types =>
      [("chain", .text chain.name), ("rules", .nat rules), ("applicable", .nat applicable)]
        ++ typeFields types
  | .fired chain rule effect =>
      [("chain", .text chain.name), ("rule", .text rule), ("effect", .text effect.name)]
  | .maskEvaluated field strategy applied =>
      [("field", .text field), ("strategy", .text strategy), ("applied", .bool applied)]
  | .decided authorizer types rule chain effect =>
      ("authorizer", .text authorizer) :: typeFields types
        ++ [("rule", .text (rule.getD "<none>")), ("chain", .text chain.name),
          ("effect", .text effect.name)]

def record (event : Event) : Value :=
  .ofFields (("level", .text event.level.name) :: ("message", .text event.message)
    :: event.fields)

end Event
end Clearance
