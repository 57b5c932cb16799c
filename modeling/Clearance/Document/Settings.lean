import Clearance.Config.Settings
import Clearance.Document.Policy

/-!
# Settings as documents

A settings document has a section for the authorizer and one for masking. Whatever is missing,
a section or a single setting, has its built-in default.
-/

set_option autoImplicit false

namespace Clearance
namespace Settings

variable {D : Type}

/-- The section of the authorizer: its name, and whether it logs its decisions. -/
def readAuthorizer? (form : Form D) (section' : D) : Option (String × Bool) :=
  match form.record? ["name", "log_decisions"] section' with
  | some [name, logsDecisions] => do
      let name ← Form.orElse default.name form.text? name
      let logsDecisions ← Form.orElse default.logsDecisions form.flag? logsDecisions
      return (name, logsDecisions)
  | _ => none

/-- The section of masking: the masks. -/
def readMasking? (form : Form D) (section' : D) : Option Policy :=
  match form.record? ["fields"] section' with
  | some [masks] => Form.orElse default.masks (Policy.read? form) masks
  | _ => none

def read? (form : Form D) (document : D) : Option Settings :=
  match form.record? ["authorizer", "masking"] document with
  | some [authorizer, masking] => do
      let (name, logsDecisions) ←
        Form.orElse (default.name, default.logsDecisions) (readAuthorizer? form) authorizer
      let masks ← Form.orElse default.masks (readMasking? form) masking
      return ⟨name, logsDecisions, masks⟩
  | _ => none

def write (settings : Settings) : Value :=
  .ofFields
    [("authorizer", .ofFields
        [("name", .text settings.name), ("log_decisions", .bool settings.logsDecisions)]),
     ("masking", .ofFields [("fields", settings.masks.write)])]

end Settings
end Clearance
