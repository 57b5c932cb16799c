import Clearance.Config.Setting
import Clearance.Document.Form
import Clearance.Number.Reading
import Clearance.Text.LowerCase

/-!
# Settings as documents

How a tree of raw settings is taken apart. Unlike JSON values, scalars are converted to what is
wanted: a number or a truth value to text, text and numbers to a truth value or a count. A list
may stand for a record wherever a record is wanted, and what goes beyond the record is ignored,
as is the payload of a variant without content.
-/

set_option autoImplicit false

namespace Clearance
namespace Setting

/-- Words for yes and no, in lower case. -/
def truth? (text : String) : Option Bool :=
  let word := String.ofList (Text.lower text.toList)
  if word = "true" ∨ word = "on" ∨ word = "yes" then some true
  else if word = "false" ∨ word = "off" ∨ word = "no" then some false
  else none

def text? : Setting → Option String
  | .text s => some s
  | .flag b => some (if b then "true" else "false")
  | .integer n => some (toString n)
  | .float d => some (Layout.plain.text d)
  | .empty | .list _ | .table _ => none

def flag? : Setting → Option Bool
  | .flag b => some b
  | .integer n => some (n != 0)
  | .float d => some !d.isZero
  | .text s => if s = "1" then some true else if s = "0" then some false else truth? s
  | .empty | .list _ | .table _ => none

/-- A float as a count: rounded, a half going up, and cut to the range of counts. -/
def countOfFloat (d : Double) : Nat :=
  if d.isNaN || d.isNegative then 0
  else min (d.roundMagnitude?.getD Number.largestUnsigned) Number.largestUnsigned

def count? : Setting → Option Nat
  | .integer (.ofNat n) => some n
  | .integer (.negSucc _) => none
  | .float d => some (countOfFloat d)
  | .flag b => some b.toNat
  | .text s => match truth? s with
    | some b => some b.toNat
    | none => Number.unsigned? s.toList
  | .empty | .list _ | .table _ => none

/-- Fields by name from a table, or by position from a list. -/
def recordOf? (names : List String) : Setting → Option (List (Option Setting))
  | .table fields => some (names.map (Fields.get? fields))
  | .list items => Form.byPosition names (items.take names.length)
  | _ => none

def variantOf? : Setting → Option (String × Option Setting)
  | .text name => some (name, none)
  | .table [(name, payload)] => some (name, some payload)
  | _ => none

def form : Form Setting where
  record? := recordOf?
  payload? := recordOf?
  items?
    | .list items => some items
    | _ => none
  variant? := variantOf?
  isIdle := fun _ => true
  text? := text?
  flag? := flag?
  count? := count?

end Setting
end Clearance
