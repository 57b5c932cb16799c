import Clearance.Config.Settings
import Clearance.Toml.Text

/-!
# Settings as a TOML document

The document that settings are written to: a table for the authorizer, then the masks as an array
of tables, or the empty array. A strategy without content is a string; any other is a table of its
own below the mask, and its name is part of the header if what it holds is a table again.
-/

set_option autoImplicit false

namespace Clearance

def Toml.line (key value : String) : String := key ++ " = " ++ value ++ "\n"

def Toml.strategyHeader (below : String) : String :=
  "\n[masking.fields.strategy" ++ below ++ "]\n"

namespace Pattern

def toToml (pattern : Pattern) : String :=
  let named := fun name : String =>
    Toml.strategyHeader "" ++ Toml.line "redact" (Toml.writeString name)
  match pattern with
  | .ssn => named "ssn"
  | .phone => named "phone"
  | .email => named "email"
  | .creditCard => named "credit-card"
  | .custom replacement =>
      Toml.strategyHeader ".redact.custom"
        ++ Toml.line "replacement" (Toml.writeString replacement)

end Pattern

namespace Strategy

def toToml (strategy : Strategy) : String :=
  match strategy with
  | .redact pattern => pattern.toToml
  | .truncate maxChars =>
      Toml.strategyHeader ".truncate" ++ Toml.line "max_chars" (toString maxChars)
  | .keepLast chars => Toml.strategyHeader ".keep-last" ++ Toml.line "chars" (toString chars)
  | .hash | .tokenize | .null | .remove =>
      Toml.line "strategy" (Toml.writeString strategy.name)

end Strategy

/-- A mask as an element of the array of tables. -/
def Mask.toToml (mask : Mask) : String :=
  "[[masking.fields]]\n" ++ Toml.line "field" (Toml.writeString mask.field)
    ++ mask.strategy.toToml

def Settings.toToml (settings : Settings) : String :=
  "[authorizer]\n" ++ Toml.line "name" (Toml.writeString settings.name)
    ++ Toml.line "log_decisions" (if settings.logsDecisions then "true" else "false") ++ "\n"
    ++ match settings.masks with
      | [] => "[masking]\n" ++ Toml.line "fields" "[]"
      | masks => String.intercalate "\n" (masks.map Mask.toToml)

end Clearance
