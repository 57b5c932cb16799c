import Clearance.Number.Digits
import Clearance.Text.Split

/-!
# Attribute paths

A path names a place inside a value, one segment for each level. A segment is a key or an index.
In dotted notation (`contact.email`) a path is made of keys only, and empty pieces are skipped,
so a text of dots alone is the empty path, which names the whole value.

The text of a path puts dots between the segments. It is not meant to be read back: an index, an
empty key and a key with a dot in it all lose their shape. What dotted notation builds does come
back.
-/

set_option autoImplicit false

namespace Clearance

inductive Segment where
  /-- A key of an object; on a list, the index that it spells. -/
  | key (name : String)
  /-- An index into a list; on an object, the key that spells it. -/
  | index (position : Nat)
  deriving DecidableEq

/-- The segments from the root of a value to a place in it. -/
abbrev Path := List Segment

/-- The text of a segment: the key itself, or the index in decimal. -/
def Segment.text : Segment → String
  | .key name => name
  | .index position => toString position

namespace Path

def ofDotted (text : String) : Path :=
  ((Text.pieces '.' text.toList).filter (· ≠ [])).map fun piece => .key (String.ofList piece)

def text (path : Path) : String :=
  String.ofList (Text.glue '.' (path.map fun segment => segment.text.toList))

/-- The path to the parent and the last segment; the empty path has neither. -/
def splitLast? (path : Path) : Option (Path × Segment) :=
  path.getLast?.map fun last => (path.dropLast, last)

theorem splitLast?_eq_none_iff (path : Path) : splitLast? path = none ↔ path = [] := by
  simp [splitLast?]

theorem splitLast?_eq_some_iff {path parent : Path} {last : Segment} :
    splitLast? path = some (parent, last) ↔ path = parent ++ [last] := by
  constructor
  · intro h
    simp only [splitLast?, Option.map_eq_some_iff, Prod.mk.injEq] at h
    obtain ⟨_, hl, rfl, rfl⟩ := h
    have hne : path ≠ [] := by rintro rfl; simp at hl
    rw [List.getLast?_eq_some_getLast hne, Option.some.injEq] at hl
    rw [← hl, List.dropLast_concat_getLast hne]
  · rintro rfl
    simp [splitLast?]

end Path

/-! ## Indices spelled by keys -/

/-- The index that a key spells: decimal digits, with any number of zeros and at most one plus
sign in front. -/
def index? : List Char → Option Nat
  | '+' :: digits => Number.natural? digits
  | digits => Number.natural? digits

end Clearance
