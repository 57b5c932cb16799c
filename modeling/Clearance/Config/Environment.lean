import Clearance.Config.Setting
import Clearance.Number.Reading
import Clearance.Text.LowerCase
import Clearance.Text.Split

/-!
# Settings from environment variables

A variable counts if its name begins with a given stem and an underscore, letter case aside. What
follows is the path of the setting: in lower case, with a dot for every two underscores. Its
value is read as what it looks like, a truth value, an integer or a float, and is text otherwise.
-/

set_option autoImplicit false

namespace Clearance
namespace Environment

/-- A dot for every two underscores, from the left. -/
def dots : List Char → List Char
  | '_' :: '_' :: rest => '.' :: dots rest
  | c :: rest => c :: dots rest
  | [] => []

/-- The path of the setting that a variable is for, if it counts. -/
def pathOf? (stem name : String) : Option String :=
  (Text.after? (Text.lower (stem ++ "_").toList) (Text.lower name.toList)).map fun rest =>
    String.ofList (dots rest)

/-- The setting that the value of a variable looks like. -/
def settingOf (value : String) : Setting :=
  let lower := String.ofList (Text.lower value.toList)
  if lower = "true" then .flag true
  else if lower = "false" then .flag false
  else match Number.signed? value.toList, Number.float? value.toList with
    | some n, _ => .integer n
    | none, some d => .float d
    | none, none => .text value

def source (stem : String) (environment : List (String × String)) : List (String × Setting) :=
  Fields.ofList (environment.filterMap fun (name, value) =>
    (pathOf? stem name).map fun path => (path, settingOf value))

end Environment
end Clearance
