import Clearance.Authorizer
import Clearance.Text.Blank

/-!
# Settings

What can be configured: the name of the authorizer, whether it logs its decisions, and the masks
for resources that are handed out. Rules are code and are never configured.

Settings are valid if the name is not blank and every mask names a field, which is to say that
**no mask of valid settings ever fails for want of a field**.
-/

set_option autoImplicit false

namespace Clearance

structure Settings where
  name : String := "default"
  logsDecisions : Bool := true
  masks : Policy := []
  deriving DecidableEq

inductive Invalid where
  | blankName
  /-- The mask at this position, the first such, names no field. -/
  | noField (index : Nat)
  deriving DecidableEq

def Invalid.message : Invalid → String
  | .blankName => "Invalid configuration: authorizer.name must not be empty"
  | .noField index =>
      "Invalid configuration: masking.fields[" ++ toString index ++ "] has an empty field path"

namespace Settings

def default : Settings := {}

def validate (settings : Settings) : Except Invalid Unit :=
  if Text.isAllBlank settings.name then .error .blankName
  else match settings.masks.findIdx? (·.path.isEmpty) with
    | some index => .error (.noField index)
    | none => .ok ()

def toAuthorizer (settings : Settings) (defaultChain : List Rule) : Authorizer :=
  ⟨defaultChain, settings.name, settings.logsDecisions⟩

end Settings
end Clearance
