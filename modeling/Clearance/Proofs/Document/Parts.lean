import Clearance.Document.Settings
import Mathlib.Data.List.Forall2

/-!
# Reading, part by part

What a document of any form is read as is put together of what its parts are read as. Here this
is said once for each kind of document, so that nothing else has to look into the readers: a
policy is read item by item (`Policy.read?_eq_some_iff`), a mask and settings field by field
(`Mask.read?_iff_parts`, `Settings.read?_iff_parts`), and **a strategy is only ever read from a
variant of its own name** (`Strategy.exists_variant?_of_read?`).
-/

set_option autoImplicit false

namespace Clearance

variable {D : Type} {form : Form D} {document : D}

/-! ## Lists -/

section Lists

variable {α β : Type} {read? : α → Option β} {xs : List α}

theorem mapM_eq_some_iff {ys : List β} :
    xs.mapM read? = some ys ↔ List.Forall₂ (fun x y => read? x = some y) xs ys := by
  induction xs generalizing ys with
  | nil => simp [eq_comm]
  | cons x xs ih =>
    simp only [List.mapM_cons, Option.bind_eq_bind, Option.bind_eq_some_iff, ih,
      List.forall₂_cons_left_iff]
    exact ⟨fun ⟨y, hy, rest, hrest, h⟩ => ⟨y, rest, hy, hrest, (Option.some.inj h).symm⟩,
      fun ⟨y, rest, hy, hrest, h⟩ => ⟨y, hy, rest, hrest, congrArg some h.symm⟩⟩

theorem mapM_eq_none_iff : xs.mapM read? = none ↔ ∃ x ∈ xs, read? x = none := by
  induction xs with
  | nil => simp
  | cons x xs ih =>
    cases h : read? x with
    | none => simp [List.mapM_cons, h]
    | some y =>
      have hrest : (x :: xs).mapM read? = (xs.mapM read?).map (y :: ·) := by
        rw [List.mapM_cons, h]
        cases xs.mapM read? <;> rfl
      rw [hrest, Option.map_eq_none_iff, ih]
      simp [h]

end Lists

/-! ## Masks -/

theorem Form.eq_of_bare {α : Type} {payload : Option D} {result read : α}
    (h : form.bare payload result = some read) : result = read := by
  unfold bare at h
  split at h
  · exact Option.some.inj h
  · exact absurd h (by simp)

theorem Strategy.exists_variant?_of_read? {strategy : Strategy}
    (h : Strategy.read? form document = some strategy) :
    ∃ payload, form.variant? document = some (strategy.name, payload) := by
  unfold read? at h
  split at h
  · next hv => obtain ⟨_, _, rfl⟩ := Option.map_eq_some_iff.mp h; exact ⟨_, hv⟩
  · next hv => obtain rfl := Form.eq_of_bare h; exact ⟨_, hv⟩
  · next hv => obtain rfl := Form.eq_of_bare h; exact ⟨_, hv⟩
  · next hv => obtain ⟨_, _, rfl⟩ := Option.map_eq_some_iff.mp h; exact ⟨_, hv⟩
  · next hv => obtain ⟨_, _, rfl⟩ := Option.map_eq_some_iff.mp h; exact ⟨_, hv⟩
  · next hv => obtain rfl := Form.eq_of_bare h; exact ⟨_, hv⟩
  · next hv => obtain rfl := Form.eq_of_bare h; exact ⟨_, hv⟩
  · exact absurd h (by simp)

theorem Mask.read?_iff_parts {mask : Mask} :
    Mask.read? form document = some mask ↔
      ∃ field strategy,
        form.record? ["field", "strategy"] document = some [some field, some strategy] ∧
        form.text? field = some mask.field ∧ Strategy.read? form strategy = some mask.strategy := by
  constructor
  · intro h
    unfold read? at h
    split at h
    · next field strategy hparts =>
      obtain ⟨name, hname, h⟩ := Option.bind_eq_some_iff.mp h
      obtain ⟨held, hheld, h⟩ := Option.bind_eq_some_iff.mp h
      obtain rfl := Option.some.inj h
      exact ⟨field, strategy, hparts, hname, hheld⟩
    · exact absurd h (by simp)
  · rintro ⟨field, strategy, hparts, hname, hheld⟩
    simp [read?, hparts, hname, hheld]

theorem Policy.read?_eq_some_iff {policy : Policy} :
    Policy.read? form document = some policy ↔
      ∃ items, form.items? document = some items ∧
        List.Forall₂ (fun item mask => Mask.read? form item = some mask) items policy := by
  simp only [read?, Option.bind_eq_some_iff, mapM_eq_some_iff]

/-! ## Settings -/

namespace Settings

theorem readAuthorizer?_iff_parts {name : String} {logsDecisions : Bool} :
    readAuthorizer? form document = some (name, logsDecisions) ↔
      ∃ name? logs?, form.record? ["name", "log_decisions"] document = some [name?, logs?] ∧
        Form.orElse "default" form.text? name? = some name ∧
        Form.orElse true form.flag? logs? = some logsDecisions := by
  constructor
  · intro h
    unfold readAuthorizer? at h
    split at h
    · next name? logs? hparts =>
      obtain ⟨name', hname, h⟩ := Option.bind_eq_some_iff.mp h
      obtain ⟨logs', hlogs, h⟩ := Option.bind_eq_some_iff.mp h
      obtain ⟨rfl, rfl⟩ := Prod.mk.inj (Option.some.inj h)
      exact ⟨name?, logs?, hparts, hname, hlogs⟩
    · exact absurd h (by simp)
  · rintro ⟨name?, logs?, hparts, hname, hlogs⟩
    simp [readAuthorizer?, hparts, default, hname, hlogs]

theorem readMasking?_iff_parts {masks : Policy} :
    readMasking? form document = some masks ↔
      ∃ masks?, form.record? ["fields"] document = some [masks?] ∧
        Form.orElse [] (Policy.read? form) masks? = some masks := by
  constructor
  · intro h
    unfold readMasking? at h
    split at h
    · next masks? hparts => exact ⟨masks?, hparts, h⟩
    · exact absurd h (by simp)
  · rintro ⟨masks?, hparts, hmasks⟩
    simp only [readMasking?, hparts]
    exact hmasks

theorem read?_iff_parts {settings : Settings} :
    Settings.read? form document = some settings ↔
      ∃ authorizer? masking?,
        form.record? ["authorizer", "masking"] document = some [authorizer?, masking?] ∧
        Form.orElse ("default", true) (readAuthorizer? form) authorizer? =
          some (settings.name, settings.logsDecisions) ∧
        Form.orElse [] (readMasking? form) masking? = some settings.masks := by
  constructor
  · intro h
    unfold read? at h
    split at h
    · next authorizer? masking? hparts =>
      obtain ⟨⟨name, logs⟩, hauthorizer, h⟩ := Option.bind_eq_some_iff.mp h
      obtain ⟨masks, hmasking, h⟩ := Option.bind_eq_some_iff.mp h
      obtain rfl := Option.some.inj h
      exact ⟨authorizer?, masking?, hparts, hauthorizer, hmasking⟩
    · exact absurd h (by simp)
  · rintro ⟨authorizer?, masking?, hparts, hauthorizer, hmasking⟩
    simp [read?, hparts, default, hauthorizer, hmasking]

end Settings

end Clearance
