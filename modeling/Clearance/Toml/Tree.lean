import Clearance.Config.Setting

/-!
# The tables of a TOML document

A document defines tables in three ways, and what one way has defined the others may not touch
again. So while a document is read, every table remembers how it came about: by a header of its
own, by being on the way to another header, or by a dotted key. Values, the tables and lists
written inline among them, are closed.

* A header names a new table, or one that was only on the way to another.
* A header in double brackets adds a table to a list of such, which it may start.
* A key adds to the table of the last header. With dots it goes through tables that have no
  header of their own, **which from then on are tables of dotted keys** and get no header either.
-/

set_option autoImplicit false

namespace Clearance
namespace Toml

inductive Origin where
  | header
  | onTheWay
  | dotted
  deriving DecidableEq

/-- What a key of a document under construction stands for. -/
inductive Node where
  | value (setting : Setting)
  | table (origin : Origin) (fields : List (String × Node))
  /-- A list of tables, the last one first. -/
  | tables (reversed : List (List (String × Node)))

abbrev NodeFields := List (String × Node)

namespace Node

/-- Edits the table that the keys of a header lead to, through the last table of each list. -/
def within (edit : NodeFields → Option NodeFields) : List String → NodeFields → Option NodeFields
  | [], fields => edit fields
  | key :: rest, fields =>
      match Fields.get? fields key with
      | none => (within edit rest []).map fun inner =>
          Fields.insert fields key (.table .onTheWay inner)
      | some (.table origin inner) => (within edit rest inner).map fun inner =>
          Fields.insert fields key (.table origin inner)
      | some (.tables (last :: earlier)) => (within edit rest last).map fun last =>
          Fields.insert fields key (.tables (last :: earlier))
      | some (.tables []) | some (.value _) => none

def add (key : String) (setting : Setting) (fields : NodeFields) : Option NodeFields :=
  match Fields.get? fields key with
  | none => some (Fields.insert fields key (.value setting))
  | some _ => none

/-- Adds a setting to a table under a key with dots: the keys of the tables on the way and the
last key. A table in a list has a header, so the key may go through it but not end in it. -/
def addDotted (last : String) (setting : Setting) : List String → NodeFields → Option NodeFields
  | [], fields => add last setting fields
  | key :: rest, fields =>
      match Fields.get? fields key with
      | none => (addDotted last setting rest []).map fun inner =>
          Fields.insert fields key (.table .dotted inner)
      | some (.table .header _) => none
      | some (.table _ inner) => (addDotted last setting rest inner).map fun inner =>
          Fields.insert fields key (.table .dotted inner)
      | some (.tables (newest :: earlier)) =>
          if rest.isEmpty then none
          else (addDotted last setting rest newest).map fun newest =>
            Fields.insert fields key (.tables (newest :: earlier))
      | some (.tables []) | some (.value _) => none

def openTable (key : String) (fields : NodeFields) : Option NodeFields :=
  match Fields.get? fields key with
  | none => some (Fields.insert fields key (.table .header []))
  | some (.table .onTheWay inner) => some (Fields.insert fields key (.table .header inner))
  | some _ => none

/-- Adds a table to the list of a header in double brackets. -/
def openItem (key : String) (fields : NodeFields) : Option NodeFields :=
  match Fields.get? fields key with
  | none => some (Fields.insert fields key (.tables [[]]))
  | some (.tables reversed) => some (Fields.insert fields key (.tables ([] :: reversed)))
  | some _ => none

mutual

def toSetting : Node → Setting
  | .value setting => setting
  | .table _ fields => .table (toFields fields)
  | .tables reversed => .list (toItems reversed [])

def toFields : List (String × Node) → List (String × Setting)
  | [] => []
  | (key, node) :: rest => (key, toSetting node) :: toFields rest

/-- The finished tables of a list, the last one first, put before those that follow. -/
def toItems : List (List (String × Node)) → List Setting → List Setting
  | [], following => following
  | newest :: earlier, following => toItems earlier (.table (toFields newest) :: following)

end

end Node
end Toml
end Clearance
