/-!
# Effects and chains

The two words that every decision is made of: what a rule does when it fires, and which of the
two chains of rules it stands in.
-/

set_option autoImplicit false

namespace Clearance

/-- What a rule does to a request when it fires. -/
inductive Effect where
  | allow
  | deny
  deriving DecidableEq

namespace Effect

/-- Access is refused unless a rule allows it. -/
instance : Inhabited Effect := ⟨.deny⟩

def name : Effect → String
  | .allow => "allow"
  | .deny => "deny"

def isAllow : Effect → Bool
  | .allow => true
  | .deny => false

def isDeny (effect : Effect) : Bool := !effect.isAllow

end Effect

/-- The chain that a decision comes from: the one given with the request, or the default chain
of the authorizer. -/
inductive ChainKind where
  | request
  | default
  deriving DecidableEq

def ChainKind.name : ChainKind → String
  | .request => "request"
  | .default => "default"

end Clearance
