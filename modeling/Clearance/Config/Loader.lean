import Clearance.Config.Conversion
import Clearance.Config.Environment
import Clearance.Config.Files
import Clearance.Document.Settings
import Clearance.Toml.Reader

/-!
# Loading settings

Settings come from five sources, each over the one before: the built-in defaults, the file of the
user, the file of the project, its override, and the environment. **Loading fails as a whole or
not at all**: a file that is no TOML, a merged tree that does not read as settings, and settings
that are not valid are all errors, so no mask is ever lost on the way.
-/

set_option autoImplicit false

namespace Clearance

/-- What there is to load: the texts of the files that exist, and the environment variables. -/
structure Sources where
  userText : Option String := none
  projectText : Option String := none
  overrideText : Option String := none
  environment : List (String × String) := []
  /-- The beginning of the names of variables that count, without the underscore. -/
  stem : String := "WARDEN"
  usesUserFile : Bool := true

inductive LoadError where
  /-- A file is not a TOML document of settings. -/
  | malformed
  /-- The merged settings do not have the types that they should. -/
  | mistyped
  | invalid (reason : Invalid)
  deriving DecidableEq

def LoadError.message : LoadError → String
  | .malformed => "Failed to build configuration"
  | .mistyped => "Failed to deserialize configuration"
  | .invalid reason => "Configuration failed validation: " ++ reason.message

namespace Setting

mutual

def isBounded : Setting → Bool
  | .integer n => Number.fitsSigned n
  | .list items => areBounded items
  | .table fields => fieldsBounded fields
  | _ => true

def areBounded : List Setting → Bool
  | [] => true
  | item :: rest => isBounded item && areBounded rest

def fieldsBounded : List (String × Setting) → Bool
  | [] => true
  | (_, held) :: rest => isBounded held && fieldsBounded rest

end

end Setting

namespace Sources

/-- The files that exist and are looked at, by name, the lowest first. -/
def files (sources : Sources) : List (String × String) :=
  let named := fun (name : String) (text : Option String) => text.toList.map fun t => (name, t)
  (if sources.usesUserFile then named Files.userName sources.userText else [])
    ++ named Files.projectName sources.projectText
    ++ named Files.overrideName sources.overrideText

/-- The settings in the text of a file. A byte order mark of the file is dropped before the
document is read, which may have one of its own. -/
def readFile? (text : String) : Option (List (String × Setting)) :=
  (Toml.read? (String.ofList (Text.withoutMark text.toList))).filter Setting.fieldsBounded

def layers? (sources : Sources) : Option (List (List (String × Setting))) := do
  let files ← sources.files.mapM fun (_, text) => readFile? text
  return (Setting.ofValue Settings.default.write).fields
    :: files ++ [Environment.source sources.stem sources.environment]

def merged? (sources : Sources) : Option Setting :=
  sources.layers?.map fun layers => layers.foldl Setting.overlay (.table [])

def load (sources : Sources) : Except LoadError Settings :=
  match sources.merged? with
  | none => .error .malformed
  | some merged =>
      match Settings.read? Setting.form merged with
      | none => .error .mistyped
      | some settings =>
          match settings.validate with
          | .error reason => .error (.invalid reason)
          | .ok () => .ok settings

end Sources

/-- Reads settings from a TOML document alone, without conversions. -/
def Settings.ofToml? (document : String) : Option Settings :=
  (Toml.read? document).bind fun fields =>
    Settings.read? Json.form (Setting.table fields).toValue

end Clearance
