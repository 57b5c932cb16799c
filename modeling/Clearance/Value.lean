import Clearance.Fields
import Clearance.Number.Layout

/-!
# Attribute values

Everything a request says about its subject, action, resource and environment is a `Value`: a
tree of scalars, lists and objects. An object is a list of fields, kept in the order of the keys
by whatever builds one (`Fields.lean`).

Two numbers are equal only if they are of one kind, so `1` and `1.0` are different values, and
`Value.same` is the equality that rules and masks see. It is coarser than being the same value in
one point, the sign of a zero: `0.0` and `-0.0` are equal but are written differently.
-/

set_option autoImplicit false

namespace Clearance

/-- A number is an integer or a float, by the way it is written. -/
inductive Number where
  | integer (n : Int)
  | float (d : Double)
  deriving DecidableEq

namespace Number

/-- Equality of numbers; an integer never equals a float. -/
def same : Number → Number → Bool
  | .integer a, .integer b => decide (a = b)
  | .float a, .float b => a.same b
  | _, _ => false

def text : Number → String
  | .integer n => toString n
  | .float d => Layout.json.text d

end Number

inductive Value where
  | null
  | bool (b : Bool)
  | number (n : Number)
  | text (s : String)
  | list (items : List Value)
  | object (fields : List (String × Value))

namespace Value

instance : Inhabited Value := ⟨.null⟩

/-- An object from fields in any order; of two fields with one key the later one stays. -/
def ofFields (fields : List (String × Value)) : Value := .object (Fields.ofList fields)

def nat (n : Nat) : Value := .number (.integer n)

/-- What an object holds under a key; other values hold nothing. -/
def field? : Value → String → Option Value
  | .object fields, key => Fields.get? fields key
  | _, _ => none

def text? : Value → Option String
  | .text s => some s
  | _ => none

def isObject : Value → Bool
  | .object _ => true
  | _ => false

/-! ## Equality -/

mutual

def same : Value → Value → Bool
  | .null, .null => true
  | .bool a, .bool b => a == b
  | .number a, .number b => a.same b
  | .text a, .text b => a == b
  | .list xs, .list ys => sameItems xs ys
  | .object fs, .object gs => sameFields fs gs
  | _, _ => false

def sameItems : List Value → List Value → Bool
  | [], [] => true
  | x :: xs, y :: ys => same x y && sameItems xs ys
  | _, _ => false

/-- Equality of lists of fields; the order of the keys makes it equality of objects. -/
def sameFields : List (String × Value) → List (String × Value) → Bool
  | [], [] => true
  | (k, v) :: fs, (l, w) :: gs => k == l && same v w && sameFields fs gs
  | _, _ => false

end

def sameOption : Option Value → Option Value → Bool
  | some v, some w => same v w
  | none, none => true
  | _, _ => false

end Value
end Clearance
