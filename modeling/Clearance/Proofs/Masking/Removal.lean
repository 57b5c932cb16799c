import Clearance.Proofs.Masking.AllOrNothing
import Clearance.Proofs.Path.Parting

/-!
# Removing agrees with reading

A mask that removes its field works on the container of the field, where all others work on the
field itself. The two have to agree on what a field is, and they do: **a removal finds its field
exactly when the whole path resolves**, which is when any other strategy finds a value there
(`applied_eq_false_iff`), and what it takes away is the very value that the path resolves to
(`changedAt_remove`). Around the container nothing changes, and the container is left as
`Value.Loses` says: an object without the key, a list with its later items moved up by one.
-/

set_option autoImplicit false

namespace Clearance
namespace Mask

variable {mask : Mask} {v held : Value} {parent : Path} {last : Segment}

theorem applied_remove (hs : mask.strategy = .remove) (hne : mask.path ≠ []) :
    (mask.apply v).applied = .ok (v.resolve mask.path).isSome := by
  rw [applied_eq_iff]
  cases hr : v.resolve mask.path with
  | none => exact .absent hne hr
  | some held => exact .removed hne hr hs

/-- **A removal takes the value that its path resolves to out of the container of its field.** -/
theorem changedAt_remove (hs : mask.strategy = .remove) (hpath : mask.path = parent ++ [last])
    (hr : v.resolve mask.path = some held) :
    ∃ above container slot, v.locate parent = some above ∧ v.resolve parent = some container ∧
      container.child? last = some (slot, held) ∧
      Value.ChangedAt (Value.Loses slot held) above v (mask.apply v).resource := by
  have hne : mask.path ≠ [] := by simp [hpath]
  obtain ⟨place, hl, hat⟩ := Value.resolve_eq_some_iff.mp hr
  have happly : (mask.apply v).resource = v.edit .drop place := by
    rw [apply_of_addresses ⟨hne, hl⟩ hat, edit_of_remove hs]
  rw [hpath] at hl
  obtain ⟨above, container, slot, inner, below, ha, hc, hchild, hb, rfl⟩ :=
    Value.exists_of_locate_append hl
  obtain rfl : [] = below := Option.some.inj hb
  have hcontainer : v.resolve parent = some container :=
    Value.resolve_eq_some_iff.mpr ⟨above, ha, hc⟩
  have hinner : inner = held := by
    rw [hpath, Value.resolve_append, hcontainer, Option.bind_some, Value.resolve_cons, hchild] at hr
    exact Option.some.inj hr
  subst hinner
  rw [happly]
  exact ⟨above, container, slot, ha, hcontainer, hchild, Value.changedAt_drop hat⟩

/-- An object that has lost a key has nothing under it. -/
theorem child?_eq_none_of_loses {slot : Slot} {fields : List (String × Value)} {left : Value}
    (hs : (Value.object fields).slot? last = some slot)
    (h : Value.Loses slot held (.object fields) left) : left.child? last = none := by
  obtain rfl : Slot.field last.text = slot := Option.some.inj hs
  cases h with
  | field _ =>
    show (Fields.get? (Fields.erase fields last.text) last.text).map _ = none
    rw [Fields.get?_erase_self]
    rfl

end Mask
end Clearance
