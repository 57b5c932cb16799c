import Clearance.Number.Bounds
import Clearance.Value

/-!
# Forms of documents

Requests, policies and settings are read from documents of two forms: JSON values, which have to
fit exactly, and layered settings, whose scalars are converted as needed
(`Config/Conversion.lean`). A `Form` says how one kind of document is taken apart; **what a
document means is written once, for every form**.

A record is an object of its fields or a list of them in order. A variant is its bare name, or an
object of one field that holds a payload under the name.
-/

set_option autoImplicit false

namespace Clearance

/-- How documents of type `D` are taken apart. -/
structure Form (D : Type) where
  /-- The fields of a record by their names; what is missing may have a default. -/
  record? : List String → D → Option (List (Option D))
  /-- The fields of a record that is the payload of a variant. -/
  payload? : List String → D → Option (List (Option D))
  items? : D → Option (List D)
  /-- The name of a variant, and its payload if there is one. -/
  variant? : D → Option (String × Option D)
  /-- Whether a variant without content puts up with a payload. -/
  isIdle : D → Bool
  text? : D → Option String
  flag? : D → Option Bool
  count? : D → Option Nat

namespace Form

variable {D : Type}

def bare {α : Type} (form : Form D) (payload : Option D) (result : α) : Option α :=
  if payload.all form.isIdle then some result else none

def orElse {α : Type} (default : α) (read? : D → Option α) : Option D → Option α
  | none => some default
  | some document => read? document

/-- Fields taken from a list by position; a list may end early but not go on. -/
def byPosition (names : List String) (items : List D) : Option (List (Option D)) :=
  if items.length ≤ names.length then
    some (items.map some ++ List.replicate (names.length - items.length) none)
  else none

end Form

/-! ## JSON documents -/

namespace Json

/-- Fields of an object by their names; other fields do not matter. -/
def fieldsOf? (names : List String) : Value → Option (List (Option Value))
  | .object fields => some (names.map (Fields.get? fields))
  | _ => none

def recordOf? (names : List String) : Value → Option (List (Option Value))
  | .list items => Form.byPosition names items
  | document => fieldsOf? names document

def variantOf? : Value → Option (String × Option Value)
  | .text name => some (name, none)
  | .object [(name, payload)] => some (name, some payload)
  | _ => none

def form : Form Value where
  record? := recordOf?
  payload? := fieldsOf?
  items?
    | .list items => some items
    | _ => none
  variant? := variantOf?
  isIdle
    | .null => true
    | _ => false
  text? := Value.text?
  flag?
    | .bool b => some b
    | _ => none
  count?
    | .number (.integer (.ofNat n)) => if Number.fitsUnsigned n then some n else none
    | _ => none

end Json
end Clearance
