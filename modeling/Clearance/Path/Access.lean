import Clearance.Path
import Clearance.Value

/-!
# Reading and editing a value along a path

A segment selects a *slot* of a container: a field of an object or an item of a list. All three
ways of using a path, reading (`resolve`), overwriting (`assign?`) and removing (`erase?`), go
through that one selection, so **they agree on which place a path names whatever the spelling of
its segments**: `"1"`, `"+01"` and the index `1` are one slot of a list.

Overwriting never adds a slot. It finds a place exactly when reading does (`isSome_assign?`), and
what was written is what is read afterwards (`resolve_assign?`).
-/

set_option autoImplicit false

namespace Clearance

/-- A place directly inside a container. -/
inductive Slot where
  | field (key : String)
  | item (index : Nat)
  deriving DecidableEq

namespace Value

/-- The slot of a container that a segment selects, whether or not anything is there. A scalar
has no slots, and a list has none for a key that does not spell an index. -/
def slot? : Value → Segment → Option Slot
  | .object _, segment => some (.field segment.text)
  | .list _, .index position => some (.item position)
  | .list _, .key name => (index? name.toList).map .item
  | _, _ => none

def get? : Value → Slot → Option Value
  | .object fields, .field key => Fields.get? fields key
  | .list items, .item index => items[index]?
  | _, _ => none

/-- Overwrites what is in a slot; an empty slot stays empty. -/
def put : Value → Slot → Value → Value
  | .object fields, .field key, new => .object (Fields.put fields key new)
  | .list items, .item index, new => .list (items.set index new)
  | v, _, _ => v

/-- Takes away a slot: a field goes, and the items after an erased one move up. -/
def erase : Value → Slot → Value
  | .object fields, .field key => .object (Fields.erase fields key)
  | .list items, .item index => .list (items.eraseIdx index)
  | v, _ => v

/-- The slot that a segment selects together with what is in it. -/
def child? (v : Value) (segment : Segment) : Option (Slot × Value) :=
  (v.slot? segment).bind fun slot => (v.get? slot).map fun held => (slot, held)

def resolve : Value → Path → Option Value
  | v, [] => some v
  | v, segment :: rest =>
      match v.child? segment with
      | none => none
      | some (_, held) => resolve held rest

/-- Changes the value at a path by a function that may refuse it. -/
def update? (change : Value → Option Value) : Value → Path → Option Value
  | v, [] => change v
  | v, segment :: rest =>
      match v.child? segment with
      | none => none
      | some (slot, held) => (update? change held rest).map (v.put slot)

/-- Overwrites the value at a path; `none` when the path does not resolve. -/
def assign? (v : Value) (path : Path) (new : Value) : Option Value :=
  v.update? (fun _ => some new) path

def eraseChild? (v : Value) (segment : Segment) : Option Value :=
  (v.child? segment).map fun found => v.erase found.1

/-- Takes away what the last segment of a path selects in the value that the rest of the path
leads to; `none` when nothing is there. -/
def erase? (v : Value) (parent : Path) (last : Segment) : Option Value :=
  v.update? (fun container => container.eraseChild? last) parent

/-! ## Reading after writing -/

theorem resolve_cons (v : Value) (segment : Segment) (rest : Path) :
    v.resolve (segment :: rest) = (v.child? segment).bind fun found => found.2.resolve rest := by
  rw [resolve]; cases v.child? segment <;> rfl

theorem update?_cons (change : Value → Option Value) (v : Value) (segment : Segment)
    (rest : Path) :
    v.update? change (segment :: rest) =
      (v.child? segment).bind fun found =>
        (update? change found.2 rest).map (v.put found.1) := by
  rw [update?]; cases v.child? segment <;> rfl

/-- Following one path after another is following their concatenation. -/
theorem resolve_append (v : Value) (first second : Path) :
    v.resolve (first ++ second) = (v.resolve first).bind fun found => found.resolve second := by
  induction first generalizing v with
  | nil => rfl
  | cons segment rest ih =>
    simp only [List.cons_append, resolve_cons, Option.bind_assoc, ih]

theorem child?_eq_some_iff {v held : Value} {segment : Segment} {slot : Slot} :
    v.child? segment = some (slot, held) ↔
      v.slot? segment = some slot ∧ v.get? slot = some held := by
  simp only [child?, Option.bind_eq_some_iff, Option.map_eq_some_iff, Prod.mk.injEq]
  constructor
  · rintro ⟨_, hs, _, hg, rfl, rfl⟩; exact ⟨hs, hg⟩
  · rintro ⟨hs, hg⟩; exact ⟨slot, hs, held, hg, rfl, rfl⟩

/-- What is put into a slot that holds something is what the slot then holds. -/
theorem get?_put_self {v held : Value} {slot : Slot} (new : Value) (h : v.get? slot = some held) :
    (v.put slot new).get? slot = some new := by
  unfold get? at h
  split at h
  · exact Fields.get?_put_self new h
  · obtain ⟨hi, _⟩ := List.getElem?_eq_some_iff.1 h
    simp [put, get?, hi]
  · simp at h

/-- Overwriting a slot leaves the other slots alone. -/
theorem get?_put_of_ne (v : Value) {slot other : Slot} (new : Value) (h : other ≠ slot) :
    (v.put slot new).get? other = v.get? other := by
  unfold put
  split
  · next fields key =>
    cases other with
    | field name => exact Fields.get?_put_of_ne _ _ fun e => h (e ▸ rfl)
    | item _ => rfl
  · next items index =>
    cases other with
    | field _ => rfl
    | item i => exact List.getElem?_set_ne fun e : index = i => h (by rw [e])
  · rfl

/-- Which slot a segment selects is a matter of the kind of container, so overwriting does not
change it. -/
theorem slot?_put (v : Value) (slot : Slot) (new : Value) (segment : Segment) :
    (v.put slot new).slot? segment = v.slot? segment := by
  unfold put
  split
  · rfl
  · cases segment <;> rfl
  · rfl

theorem child?_put_self {v held : Value} {segment : Segment} {slot : Slot} (new : Value)
    (h : v.child? segment = some (slot, held)) :
    (v.put slot new).child? segment = some (slot, new) := by
  obtain ⟨hs, hg⟩ := child?_eq_some_iff.1 h
  exact child?_eq_some_iff.2 ⟨by rw [slot?_put, hs], get?_put_self new hg⟩

/-- What was written at a path is read there. -/
theorem resolve_assign? {v new result : Value} {path : Path}
    (h : v.assign? path new = some result) : result.resolve path = some new := by
  induction path generalizing v result with
  | nil =>
    simp only [assign?, update?, Option.some.injEq] at h
    simp [resolve, h]
  | cons segment rest ih =>
    simp only [assign?, update?_cons, Option.bind_eq_some_iff, Option.map_eq_some_iff] at h
    obtain ⟨⟨slot, held⟩, hc, inner, hi, rfl⟩ := h
    rw [resolve_cons, child?_put_self inner hc]
    exact ih hi

end Value
end Clearance
