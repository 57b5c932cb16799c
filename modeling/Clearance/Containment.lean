import Clearance.Path.Access

/-!
# Containment

The test that rules use on structured attributes: does the value at a path contain a pattern? A
list contains what one of its items matches, and any other value counts as a list of itself. An
item matches an object pattern when it is an object that holds every field of the pattern with an
equal value; against any other pattern it has to be equal. Matching is partial at this one level
only: below it, values are compared as a whole.
-/

set_option autoImplicit false

namespace Clearance
namespace Value

/-- What containment looks through at a value: its items if it is a list, else the value. -/
def elements : Value → List Value
  | .list items => items
  | v => [v]

/-- Whether the fields of an object hold every field of a pattern with an equal value. -/
def holdsAll (fields wanted : List (String × Value)) : Bool :=
  (Fields.keys wanted).all fun key =>
    sameOption (Fields.get? fields key) (Fields.get? wanted key)

/-- Whether one element matches a pattern: by its fields if both are objects, else as a whole. -/
def matchesPattern : Value → Value → Bool
  | .object fields, .object wanted => holdsAll fields wanted
  | element, pattern => element.same pattern

/-- Whether the value at a path contains a pattern; a path that leads nowhere contains nothing. -/
def contains (object : Value) (path : Path) (pattern : Value) : Bool :=
  match object.resolve path with
  | none => false
  | some target => target.elements.any (·.matchesPattern pattern)

end Value
end Clearance
