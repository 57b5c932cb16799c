/-!
# Where settings are kept

The names of the files of settings, and where they are: one below the directory that the system
keeps for each user, two in the directory of a project, of which one is for that machine alone.
-/

set_option autoImplicit false

namespace Clearance
namespace Files

/-- A name inside a directory. A slash goes between them unless the directory ends in one; the
empty directory is the current one. -/
def inside (directory name : String) : String :=
  if directory.isEmpty || directory.toList.getLast? == some '/' then directory ++ name
  else directory ++ "/" ++ name

def projectName : String := "warden.toml"

/-- Settings of one machine, which win over those of the project. -/
def overrideName : String := "warden.local.toml"

def userName : String := "config.toml"

/-- The directory of the user's file, relative to where the system keeps such directories. -/
def userDirectory : String := "warden"

def projectFile (directory : String) : String := inside directory projectName

def overrideFile (directory : String) : String := inside directory overrideName

def userFile : String := inside userDirectory userName

end Files
end Clearance
