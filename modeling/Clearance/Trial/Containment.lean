import Clearance.Containment

/-!
# Trials of containment

Small values and paths over an alphabet of six keys, so that paths and patterns meet often, and
the laws that containment keeps on all of them: a path that leads nowhere contains nothing, a
value contains itself, a list contains each of its items, and the empty object is contained
exactly where there is an object.
-/

set_option autoImplicit false

namespace Clearance
namespace Trial

inductive Seed where
  | null
  | bool (b : Bool)
  | number (n : Int)
  | text (n : Nat)
  | list (items : List Seed)
  | object (fields : List (Nat × Seed))

def keyOf (n : Nat) : String := "k" ++ toString (n % 6)

/-- How many levels a value may have below its root. -/
def deepest : Nat := 4

namespace Seed

mutual

/-- The value of a seed at some depth; what lies too deep is null. -/
def valueAt (depth : Nat) : Seed → Value
  | .null => .null
  | .bool b => if deepest < depth then .null else .bool b
  | .number n => if deepest < depth then .null else .number (.integer n)
  | .text n => if deepest < depth then .null else .text (keyOf n)
  | .list items => if deepest < depth then .null else .list (itemsAt (depth + 1) items)
  | .object fields => if deepest < depth then .null else .ofFields (fieldsAt (depth + 1) fields)

def itemsAt (depth : Nat) : List Seed → List Value
  | [] => []
  | item :: rest => valueAt depth item :: itemsAt depth rest

def fieldsAt (depth : Nat) : List (Nat × Seed) → List (String × Value)
  | [] => []
  | (key, held) :: rest => (keyOf key, valueAt depth held) :: fieldsAt depth rest

end

def toValue (seed : Seed) : Value := seed.valueAt 0

end Seed

inductive Step where
  | key (n : Nat)
  | index (n : Nat)

def Step.toSegment : Step → Segment
  | .key n => .key (keyOf n)
  | .index n => .index (n % 4)

structure ContainmentInput where
  object : Seed
  path : List Step
  pattern : Seed

/-- The laws at one path of one value. -/
def containmentHolds (object : Value) (path : Path) (found : Bool) : Bool :=
  match object.resolve path with
  | none => !found
  | some target =>
      (match target with
        | .list items => items.all fun item => object.contains path item
        | other => object.contains path other)
      && object.contains path (.object []) == target.elements.any Value.isObject

namespace ContainmentInput

def segments (input : ContainmentInput) : Path := input.path.map Step.toSegment

def found (input : ContainmentInput) : Bool :=
  input.object.toValue.contains input.segments input.pattern.toValue

def holds (input : ContainmentInput) : Bool :=
  containmentHolds input.object.toValue input.segments input.found

end ContainmentInput
end Trial
end Clearance
