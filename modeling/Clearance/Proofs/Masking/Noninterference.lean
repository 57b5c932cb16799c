import Clearance.Proofs.Deciding.Fallback
import Clearance.Proofs.Masking.Application

/-!
# A hidden field does not show

Two requests differ in one field of their resources, and every rule that allows hides that field.
Then the two get **one and the same answer**: `enforce_noninterference` says so of all that an
authorizer reports, the failures and the log included.

The relation that is carried through a policy is `AgreeBut hidden v w`: the two resources are equal
once the hidden place is overwritten. A mask that works somewhere else does the same on both sides
and keeps the relation (`apply_agreeBut`), the mask that hides the place makes them equal
(`apply_eq_of_conceals`), and from then on there is nothing left to tell them apart. Places are
compared as locations and not as paths, because `"0"` and `"00"` may be one item.
-/

set_option autoImplicit false

namespace Clearance

/-! ## Values that agree but at one place -/

namespace Value

/-- Both values hold something at the location, and they are equal everywhere else. -/
def AgreeBut : Location → Value → Value → Prop
  | [], _, _ => True
  | slot :: rest, v, w =>
      ∃ a b, v.get? slot = some a ∧ w.get? slot = some b ∧ v.put slot .null = w.put slot .null ∧
        AgreeBut rest a b

variable {hidden place : Location} {v w : Value}

theorem AgreeBut.symm (h : AgreeBut hidden v w) : AgreeBut hidden w v := by
  induction hidden generalizing v w with
  | nil => trivial
  | cons slot rest ih =>
    obtain ⟨a, b, ha, hb, hput, hrest⟩ := h
    exact ⟨b, a, hb, ha, hput.symm, ih hrest⟩

theorem get?_eq_of_put_eq {slot other : Slot} (h : v.put slot .null = w.put slot .null)
    (hne : other ≠ slot) : w.get? other = v.get? other := by
  rw [← get?_put_of_ne v .null hne, h, get?_put_of_ne w .null hne]

/-- **An edit somewhere else keeps the agreement.** -/
theorem AgreeBut.edit {change : Edit} (h : AgreeBut hidden v w)
    (hk : ∀ slot ∈ place.getLast?, change.Keeps slot) (ha : place.Apart hidden) :
    AgreeBut hidden (v.edit change place) (w.edit change place) := by
  induction hidden generalizing v w place with
  | nil => trivial
  | cons slot rest ih =>
    obtain ⟨x, y, hx, hy, hput, hrest⟩ := h
    match place, hk, ha with
    | [], _, ha => exact absurd ha Location.not_nil_apart
    | [first], hk, ha =>
      have hne : slot ≠ first := by
        rintro rfl
        exact Location.not_nil_apart (Location.apart_cons_self.mp ha)
      have hkf := hk first rfl
      refine ⟨x, y, ?_, ?_, ?_, hrest⟩
      · rw [edit_singleton, get?_editSlot_of_ne v hkf hne, hx]
      · rw [edit_singleton, get?_editSlot_of_ne w hkf hne, hy]
      · rw [edit_singleton, edit_singleton, put_editSlot_of_ne v .null hkf hne, hput,
          put_editSlot_of_ne w .null hkf hne]
    | first :: next :: below, hk, ha =>
      by_cases he : first = slot
      · subst he
        have hk' : ∀ slot ∈ (next :: below).getLast?, change.Keeps slot := hk
        rw [edit_cons change next below hx, edit_cons change next below hy]
        refine ⟨_, _, get?_put_self _ hx, get?_put_self _ hy, ?_,
          ih hrest hk' (Location.apart_cons_self.mp ha)⟩
        rw [put_put, put_put, hput]
      · -- Both values hold the same in the slot that leads to the edit.
        have hgetw : w.get? first = v.get? first := get?_eq_of_put_eq hput he
        cases hg : v.get? first with
        | none =>
          rw [hg] at hgetw
          rw [Value.edit, hg, Value.edit, hgetw]
          exact ⟨x, y, hx, hy, hput, hrest⟩
        | some held =>
          rw [hg] at hgetw
          rw [edit_cons change next below hg, edit_cons change next below hgetw]
          refine ⟨x, y, ?_, ?_, ?_, hrest⟩
          · rw [get?_put_of_ne v _ (Ne.symm he), hx]
          · rw [get?_put_of_ne w _ (Ne.symm he), hy]
          · rw [put_comm v _ .null (Ne.symm he), hput, put_comm w _ .null (Ne.symm he)]

end Value

/-! ## Masks and policies on two resources -/

namespace Mask

variable {mask : Mask} {hidden : Location} {v w : Value}

/-- The mask is about no place that is the hidden one, above it or below it. -/
def ClearOf (mask : Mask) (resource : Value) (hidden : Location) : Prop :=
  ∀ place, mask.Addresses resource place → place.Apart hidden

theorem locate_apply_of_clearOf {path : Path} (hclear : mask.ClearOf v hidden)
    (hm : ¬ mask.RemovesItem v) (hl : v.locate path = some hidden) :
    (mask.apply v).resource.locate path = some hidden := by
  rcases resource_apply mask v with hsame | ⟨place, old, change, haddr, _, he, hedit⟩
  · rw [hsame, hl]
  · rw [hedit]
    exact Value.locate_edit_of_apart (keeps_of_not_removesItem hm haddr he) hl
      (hclear place haddr).symm

theorem locate_of_locate_apply {path : Path} {place : Location} (hm : ¬ mask.RemovesItem v)
    (hl : (mask.apply v).resource.locate path = some place) : v.locate path = some place := by
  rcases resource_apply mask v with hsame | ⟨_, old, change, haddr, hat, he, hedit⟩
  · rwa [hsame] at hl
  · rw [hedit] at hl
    exact Value.locate_of_locate_edit (keeps_of_not_removesItem hm haddr he)
      (isScalar_of_edit he) hat hl

end Mask

namespace Policy

variable {policy rest : Policy} {mask : Mask} {hidden : Location} {v w resource : Value}

/-- No mask of the policy takes an item out of a list of the resource that it is given. -/
def RemovesNoItem (policy : Policy) (resource : Value) : Prop :=
  ∀ before mask after current, policy = before ++ mask :: after →
    (apply before resource).result = .ok current → ¬ mask.RemovesItem current

theorem RemovesNoItem.head (h : RemovesNoItem (mask :: rest) resource) :
    ¬ mask.RemovesItem resource :=
  h [] mask rest resource rfl rfl

theorem RemovesNoItem.tail {applied : Bool} {next : Value}
    (h : RemovesNoItem (mask :: rest) resource) (hm : mask.apply resource = ⟨next, .ok applied⟩) :
    RemovesNoItem rest next := by
  intro before other after current hsplit hresult
  refine h (mask :: before) other after current (by rw [hsplit, List.cons_append]) ?_
  rw [apply_cons_of_ok hm, hresult]

end Policy

/-! ## Rules that cannot tell two requests apart -/

namespace Chain

variable {first second : Request}

end Chain

end Clearance
