import Clearance.Masking.Policy
import Clearance.Request

/-!
# Rules

A rule is an effect with three optional callbacks. A missing one lets everything pass:

* a **filter** says, by the types of the request alone, whether the rule applies at all;
* a **matcher** says whether a rule that applies fires, and may fail;
* a **mapper** turns the resource into what an allowed request gets of it, and may fail.

Callbacks are functions, so a rule is the same rule every time it is asked. A mapper may log, as
masking policies do.
-/

set_option autoImplicit false

namespace Clearance

inductive Fault where
  /-- A failure of the callback's own, with its words. -/
  | failed (message : String)
  | masking (error : MaskError)
  deriving DecidableEq

def Fault.message : Fault → String
  | .failed message => message
  | .masking error => error.message

abbrev Filter := RequestTypes → Bool
abbrev Matcher := Request → Except Fault Bool
abbrev Mapper := Value → Traced (Except Fault Value)

def Policy.toMapper (policy : Policy) : Mapper := fun resource =>
  let masked := policy.apply resource
  ⟨masked.result.mapError .masking, masked.events⟩

structure Rule where
  name : Option String := none
  effect : Effect := .deny
  filter : Option Filter := none
  matcher : Option Matcher := none
  mapper : Option Mapper := none

namespace Rule

/-- A rule without callbacks, which fires on every request. -/
def always (effect : Effect) : Rule := { effect }

/-- What a rule is called in logs and errors: its name, or else its position in the chain. -/
def label (rule : Rule) (position : Nat) : String :=
  rule.name.getD ("#" ++ toString position)

def applies (rule : Rule) (types : RequestTypes) : Bool :=
  match rule.filter with
  | none => true
  | some filter => filter types

/-- Whether the rule fires on a request to which it applies. -/
def fires (rule : Rule) (request : Request) : Except Fault Bool :=
  match rule.matcher with
  | none => .ok true
  | some matcher => matcher request

/-- The effect as descriptions of rules spell it. -/
def effectWord : Effect → String
  | .allow => "Allow"
  | .deny => "Deny"

/-- A description of the rule, which shows of its callbacks only whether they are there. -/
def description (rule : Rule) : String :=
  let flag := fun (b : Bool) => if b then "true" else "false"
  "AccessRule \x7b name: " ++ Text.quotedOption rule.name
    ++ ", effect: " ++ effectWord rule.effect
    ++ ", filter: " ++ flag rule.filter.isSome
    ++ ", matcher: " ++ flag rule.matcher.isSome
    ++ ", mapper: " ++ flag rule.mapper.isSome ++ " \x7d"

end Rule
end Clearance
