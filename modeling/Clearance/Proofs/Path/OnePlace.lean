import Clearance.Proofs.Path.Location

/-!
# Values that are the same but at one place

`ChangedAt` says of two values that they were built alike around a location: the same fields in
the same order with the same keys, the same items before and behind, all the way down. What the
one holds at the location and what the other holds there are related as one pleases. It speaks of
constructors only and not of any way of getting from the one value to the other, so it is what an
edit can be held against.

**An overwrite changes its place** (`changedAt_write`), **and dropping a slot changes the container
of the slot** (`changedAt_drop`): `Loses` says what becomes of it.
-/

set_option autoImplicit false

namespace Clearance
namespace Value

variable {change : Value → Value → Prop} {v w old new : Value} {slot : Slot}
  {place above : Location} {path : Path}

/-- The two values are the same around a location, and what they hold there is so related. -/
inductive ChangedAt (change : Value → Value → Prop) : Location → Value → Value → Prop where
  | here {v w : Value} (h : change v w) : ChangedAt change [] v w
  | field {key : String} {rest : Location} {held held' : Value}
      {before after : List (String × Value)} (hkey : key ∉ Fields.keys before)
      (h : ChangedAt change rest held held') :
      ChangedAt change (.field key :: rest) (.object (before ++ (key, held) :: after))
        (.object (before ++ (key, held') :: after))
  | item {rest : Location} {held held' : Value} {before after : List Value}
      (h : ChangedAt change rest held held') :
      ChangedAt change (.item before.length :: rest) (.list (before ++ held :: after))
        (.list (before ++ held' :: after))

/-- A container loses what one of its slots holds. An object is left with the fields of all other
keys, a list with the items in front and, one place further up, those behind. -/
inductive Loses : Slot → Value → Value → Value → Prop where
  | field {key : String} {held : Value} {fields : List (String × Value)}
      (h : Fields.get? fields key = some held) :
      Loses (.field key) held (.object fields)
        (.object (fields.filter fun field => decide (field.1 ≠ key)))
  | item {held : Value} (before after : List Value) :
      Loses (.item before.length) held (.list (before ++ held :: after)) (.list (before ++ after))

/-! ## One slot -/

theorem exists_append_of_getElem? {items : List Value} {index : Nat}
    (h : items[index]? = some old) :
    ∃ before after, items = before ++ old :: after ∧ before.length = index := by
  obtain ⟨hi, rfl⟩ := List.getElem?_eq_some_iff.mp h
  obtain ⟨before, after, hsplit, hlength, _⟩ := @List.exists_of_set _ index items[index] items hi
  exact ⟨before, after, hsplit, hlength⟩

theorem ChangedAt.put (hg : v.get? slot = some old) (h : ChangedAt change place old new) :
    ChangedAt change (slot :: place) v (v.put slot new) := by
  cases v with
  | object fields =>
    cases slot with
    | field key =>
      obtain ⟨before, after, rfl, hkey⟩ := Fields.exists_append_of_get? hg
      rw [Value.put, Fields.put_append hkey]
      exact .field hkey h
    | item index => exact absurd hg (by simp [get?])
  | list items =>
    cases slot with
    | field key => exact absurd hg (by simp [get?])
    | item index =>
      obtain ⟨before, after, rfl, rfl⟩ := exists_append_of_getElem? hg
      have hset : (before ++ old :: after).set before.length new = before ++ new :: after := by
        simp
      rw [Value.put, hset]
      exact .item h
  | _ => exact absurd hg (by simp [get?])

theorem loses_erase (hg : v.get? slot = some old) : Loses slot old v (v.erase slot) := by
  cases v with
  | object fields =>
    cases slot with
    | field key => exact .field hg
    | item index => exact absurd hg (by simp [get?])
  | list items =>
    cases slot with
    | field key => exact absurd hg (by simp [get?])
    | item index =>
      obtain ⟨before, after, rfl, rfl⟩ := exists_append_of_getElem? hg
      have herase : (before ++ old :: after).eraseIdx before.length = before ++ after := by
        rw [List.eraseIdx_append_of_length_le (Nat.le_refl _), Nat.sub_self, List.eraseIdx_cons_zero]
      rw [erase, herase]
      exact .item before after
  | _ => exact absurd hg (by simp [get?])

/-! ## A whole location -/

/-- **An overwrite changes its place and nothing around it.** -/
theorem changedAt_write (h : v.at? place = some old) (hne : place ≠ []) (new : Value) :
    ChangedAt (fun a b => a = old ∧ b = new) place v (v.edit (.write new) place) := by
  induction place generalizing v with
  | nil => exact absurd rfl hne
  | cons slot rest ih =>
    rw [at?, Option.bind_eq_some_iff] at h
    obtain ⟨held, hg, hheld⟩ := h
    cases rest with
    | nil =>
      rw [at?, Option.some.injEq] at hheld
      exact .put hg (.here ⟨hheld, rfl⟩)
    | cons next below =>
      rw [edit_cons _ next below hg]
      exact .put hg (ih hheld (by simp))

/-- **Dropping a slot changes its container and nothing around it.** -/
theorem changedAt_drop (h : v.at? (above ++ [slot]) = some old) :
    ChangedAt (Loses slot old) above v (v.edit .drop (above ++ [slot])) := by
  induction above generalizing v with
  | nil =>
    rw [List.nil_append, at?, Option.bind_eq_some_iff] at h
    obtain ⟨held, hg, hheld⟩ := h
    rw [at?, Option.some.injEq] at hheld
    exact .here (loses_erase (hg.trans (congrArg some hheld)))
  | cons first rest ih =>
    rw [List.cons_append, at?, Option.bind_eq_some_iff] at h
    obtain ⟨held, hg, hheld⟩ := h
    cases rest with
    | nil =>
      rw [List.cons_append, List.nil_append, edit_cons _ slot [] hg]
      exact .put hg (ih hheld)
    | cons next below =>
      rw [List.cons_append, List.cons_append, edit_cons _ next (below ++ [slot]) hg]
      exact .put hg (ih hheld)

/-- The step to below: both values have the slot, and what is in it is changed at the rest. -/
theorem ChangedAt.exists_held (h : ChangedAt change (slot :: place) v w) :
    ∃ held held', v.get? slot = some held ∧ w.get? slot = some held' ∧
      (∀ segment, w.slot? segment = v.slot? segment) ∧ ChangedAt change place held held' := by
  cases h with
  | @field key _ held held' before after hkey h =>
    exact ⟨held, held', Fields.get?_append hkey held after, Fields.get?_append hkey held' after,
      fun _ => rfl, h⟩
  | @item _ held held' before after h =>
    refine ⟨held, held', by simp [get?], by simp [get?], ?_, h⟩
    intro segment
    cases segment <;> rfl

/-- **A path to the changed place leads there in both values.** -/
theorem ChangedAt.resolve (h : ChangedAt change place v w) (hl : v.locate path = some place) :
    ∃ a b, v.resolve path = some a ∧ w.resolve path = some b ∧ change a b := by
  induction path generalizing v w place with
  | nil =>
    rw [locate, Option.some.injEq] at hl
    subst hl
    cases h with
    | here h => exact ⟨v, w, rfl, rfl, h⟩
  | cons segment path ih =>
    obtain ⟨slot, held, below, hs, hg, hb, rfl⟩ := locate_cons_eq_some_iff.mp hl
    obtain ⟨inner, inner', hv, hw, hslot, hchanged⟩ := h.exists_held
    rw [hg, Option.some.injEq] at hv
    subst hv
    obtain ⟨a, b, ha, hb', hab⟩ := ih hchanged hb
    have hcv : v.child? segment = some (slot, held) := child?_eq_some_iff.mpr ⟨hs, hg⟩
    have hcw : w.child? segment = some (slot, inner') :=
      child?_eq_some_iff.mpr ⟨(hslot segment).trans hs, hw⟩
    refine ⟨a, b, ?_, ?_, hab⟩
    · rw [resolve_cons, hcv, Option.bind_some, ha]
    · rw [resolve_cons, hcw, Option.bind_some, hb']

end Value
end Clearance
