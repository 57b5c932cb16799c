import Clearance.Number.Bounds
import Clearance.Number.Digits
import Clearance.Text.Split
import Clearance.Value

/-!
# Raw settings

What files and environment variables say, before anything is made of it: a tree of scalars, lists
and tables. Every source of settings is such a tree, and **merging is the one way to put two of
them together**: tables are merged key by key, and anything else takes the place of what was
there, a list as a whole. A setting may also be set at a path, which makes tables and lists on
the way where there are none.
-/

set_option autoImplicit false

namespace Clearance

inductive Setting where
  /-- Nothing; what fills the gaps of a list that grew. -/
  | empty
  | flag (b : Bool)
  | integer (n : Int)
  | float (d : Double)
  | text (s : String)
  | list (items : List Setting)
  | table (fields : List (String × Setting))

namespace Setting

instance : Inhabited Setting := ⟨.empty⟩

def fields : Setting → List (String × Setting)
  | .table fields => fields
  | _ => []

def items : Setting → List Setting
  | .list items => items
  | _ => []

/-! ## Merging -/

mutual

def merge : Setting → Setting → Setting
  | .table upper, lower => .table (mergeFields upper lower.fields)
  | upper, _ => upper

def mergeFields : List (String × Setting) → List (String × Setting) → List (String × Setting)
  | [], lower => lower
  | (key, held) :: rest, lower =>
      mergeFields rest
        (Fields.insert lower key (merge held ((Fields.get? lower key).getD .empty)))

end

/-! ## Paths to settings -/

/-- One step down: a key of a table, or an index of a list, from its end if negative. -/
inductive Step where
  | key (name : String)
  | index (position : Int)
  deriving DecidableEq

/-- The list that has an item at an index, grown with empty settings if need be, and the position
of that item. A list grows at its end, and at its front for an index from the end. -/
def grow (items : List Setting) : Int → List Setting × Nat
  | .ofNat i => (items ++ List.replicate (i + 1 - items.length) .empty, i)
  | .negSucc i =>
      if i < items.length then (items, items.length - (i + 1))
      else (List.replicate (i + 1 - items.length) .empty ++ items, 0)

/-- Changes the setting at the end of some steps. What stands in the way is replaced. -/
def change (edit : Setting → Setting) : List Step → Setting → Setting
  | [], old => edit old
  | .key name :: rest, old =>
      .table (Fields.insert old.fields name
        (change edit rest ((Fields.get? old.fields name).getD .empty)))
  | .index position :: rest, old =>
      let (items, i) := grow old.items position
      .list (items.set i (change edit rest (items.getD i .empty)))

/-! ## The text of a path -/

def isKeyChar (c : Char) : Bool := c.isAlphanum || c == '_' || c == '-'

def key? (text : List Char) : Option (String × List Char) :=
  match text.takeWhile isKeyChar with
  | [] => none
  | name => some (String.ofList name, text.dropWhile isKeyChar)

/-- An index of 64 bits in brackets, the opening one being read already. -/
def index? (text : List Char) : Option (Int × List Char) :=
  let text := Text.skipSpaces text
  let (isNegative, text) := match text with
    | '-' :: rest => (true, rest)
    | text => (false, text)
  match text.takeWhile Char.isDigit, Text.skipSpaces (text.dropWhile Char.isDigit) with
  | [], _ => none
  | digits, ']' :: rest =>
      let n := Number.signed isNegative (Nat.ofDigitChars 10 digits 0)
      if Number.fitsSigned n then some (n, rest) else none
  | _, _ => none

/-- The steps after the first key. Each takes a character at least, so the length of the text is
enough fuel. -/
def steps? : Nat → List Char → Option (List Step)
  | _, [] => some []
  | fuel + 1, '.' :: rest => do
      let (name, rest) ← key? rest
      return .key name :: (← steps? fuel rest)
  | fuel + 1, '[' :: rest => do
      let (position, rest) ← index? rest
      return .index position :: (← steps? fuel rest)
  | _, _ => none

/-- The path that a text spells: keys with dots between them, each with any number of indices
after it. A text of another shape is one key, whatever is in it. -/
def pathOf (text : String) : List Step :=
  let path? := do
    let (name, rest) ← key? text.toList
    return Step.key name :: (← steps? rest.length rest)
  path?.getD [.key text]

/-- Merges a setting into a tree at the path that a text spells. -/
def put (root : Setting) (path : String) (new : Setting) : Setting :=
  root.change new.merge (pathOf path)

/-- Merges a whole source into a tree, its top-level keys being paths. -/
def overlay (root : Setting) (source : List (String × Setting)) : Setting :=
  source.foldl (fun built entry => built.put entry.1 entry.2) root

/-! ## Settings and values -/

mutual

def toValue : Setting → Value
  | .empty => .null
  | .flag b => .bool b
  | .integer n => .number (.integer n)
  | .float d => .number (.float d)
  | .text s => .text s
  | .list items => .list (toValues items)
  | .table fields => .object (toFields fields)

def toValues : List Setting → List Value
  | [] => []
  | item :: rest => toValue item :: toValues rest

def toFields : List (String × Setting) → List (String × Value)
  | [] => []
  | (key, held) :: rest => (key, toValue held) :: toFields rest

end

mutual

def ofValue : Value → Setting
  | .null => .empty
  | .bool b => .flag b
  | .number (.integer n) => .integer n
  | .number (.float d) => .float d
  | .text s => .text s
  | .list items => .list (ofValues items)
  | .object fields => .table (ofFields fields)

def ofValues : List Value → List Setting
  | [] => []
  | item :: rest => ofValue item :: ofValues rest

def ofFields : List (String × Value) → List (String × Setting)
  | [] => []
  | (key, held) :: rest => (key, ofValue held) :: ofFields rest

end

end Setting
end Clearance
