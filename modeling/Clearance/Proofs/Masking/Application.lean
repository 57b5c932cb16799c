import Clearance.Proofs.Masking.Replacement

/-!
# What applying a mask comes to

A mask with a strategy for text, one that overwrites with null and one that removes take three
ways through `Mask.apply`. Seen from the resource they are one: locate the field, find the edit
for what is there (`Mask.edit`), do it. `Mask.Outcome` lists what that can come to, and the three equations
before it say when; **this is all that later files know of `Mask.apply`**.

A policy is a run of masks, each on what the one before it left. `Policy.Run` is the run of masks
that all succeed, with the event of each, and `run_or_fails` says that a policy either runs to its
end or runs up to a mask that fails there.
-/

set_option autoImplicit false

namespace Clearance

namespace Mask

variable {mask : Mask} {v old : Value}

theorem exists_splitLast?_of_ne_nil (h : mask.path ≠ []) :
    ∃ parent last, mask.path = parent ++ [last] ∧ mask.path.splitLast? = some (parent, last) := by
  cases hs : mask.path.splitLast? with
  | none => exact absurd ((Path.splitLast?_eq_none_iff mask.path).mp hs) h
  | some found =>
    obtain ⟨parent, last⟩ := found
    exact ⟨parent, last, Path.splitLast?_eq_some_iff.mp hs, rfl⟩

/-! ## The three answers of `locate` -/

theorem apply_of_path_nil (h : mask.path = []) : mask.apply v = ⟨v, .error .emptyField⟩ := by
  rw [apply, (Path.splitLast?_eq_none_iff mask.path).mpr h]

theorem apply_of_locate_none (h : v.locate mask.path = none) : mask.apply v = ⟨v, .ok false⟩ := by
  have hne : mask.path ≠ [] := by
    intro he
    rw [he] at h
    exact absurd h (by simp [Value.locate])
  obtain ⟨parent, last, hpath, hsplit⟩ := exists_splitLast?_of_ne_nil hne
  have herase : v.erase? parent last = none := by rw [Value.erase?_eq, ← hpath, h]; rfl
  have hresolve : v.resolve mask.path = none := by rw [Value.resolve_eq, h]; rfl
  rw [apply, hsplit]
  cases mask.strategy with
  | remove => simp only [herase, untouched]
  | _ => simp only [hresolve, untouched]

/-- The place that a mask is about. A mask without a field has none. -/
def Addresses (mask : Mask) (resource : Value) (place : Location) : Prop :=
  mask.path ≠ [] ∧ resource.locate mask.path = some place

theorem Addresses.ne_nil {place : Location} (h : mask.Addresses v place) : place ≠ [] := by
  rintro rfl
  exact h.1 (Value.locate_eq_some_nil_iff.mp h.2)

/-- **Applying a mask is editing at its place**, or failing there and changing nothing. -/
theorem apply_of_addresses {place : Location} (h : mask.Addresses v place)
    (ha : v.at? place = some old) :
    mask.apply v =
      match mask.edit old with
      | .error error => ⟨v, .error error⟩
      | .ok change => ⟨v.edit change place, .ok true⟩ := by
  obtain ⟨hne, hl⟩ := h
  obtain ⟨parent, last, hpath, hsplit⟩ := exists_splitLast?_of_ne_nil hne
  have herase : v.erase? parent last = some (v.edit .drop place) := by
    rw [Value.erase?_eq, ← hpath, hl]; rfl
  have hresolve : v.resolve mask.path = some old :=
    Value.resolve_eq_some_iff.mpr ⟨place, hl, ha⟩
  have hassign : ∀ new, v.assign? mask.path new = some (v.edit (.write new) place) := by
    intro new
    rw [Value.assign?_eq new hne, hl]; rfl
  rw [apply, hsplit, edit]
  cases mask.strategy with
  | remove => simp only [herase]
  | _ =>
    simp only [hresolve]
    cases mask.replacement old with
    | error error => rfl
    | ok new => simp only [hassign, Except.map]

inductive Outcome (mask : Mask) (v : Value) : Masked → Prop where
  | noField (h : mask.path = []) : Outcome mask v ⟨v, .error .emptyField⟩
  | absent (hne : mask.path ≠ []) (h : v.locate mask.path = none) : Outcome mask v ⟨v, .ok false⟩
  | refused {place : Location} {old : Value} {error : MaskError} (h : mask.Addresses v place)
      (ha : v.at? place = some old) (he : mask.edit old = .error error) :
      Outcome mask v ⟨v, .error error⟩
  | edited {place : Location} {old : Value} {change : Edit} (h : mask.Addresses v place)
      (ha : v.at? place = some old) (he : mask.edit old = .ok change) :
      Outcome mask v ⟨v.edit change place, .ok true⟩

/-- **The inversion of `apply`**: later proofs split on this and never unfold it. -/
theorem outcome_apply (mask : Mask) (v : Value) : Outcome mask v (mask.apply v) := by
  by_cases hne : mask.path = []
  · rw [apply_of_path_nil hne]
    exact .noField hne
  · cases hl : v.locate mask.path with
    | none =>
      rw [apply_of_locate_none hl]
      exact .absent hne hl
    | some place =>
      have h : mask.Addresses v place := ⟨hne, hl⟩
      obtain ⟨old, ha⟩ := Value.exists_at?_of_locate hl
      rw [apply_of_addresses h ha]
      cases he : mask.edit old with
      | error error => exact .refused h ha he
      | ok change => exact .edited h ha he

/-- What a mask leaves is what it was given, or an edit of it at the place of the mask. -/
theorem resource_apply (mask : Mask) (v : Value) :
    (mask.apply v).resource = v ∨
      ∃ place old change, mask.Addresses v place ∧ v.at? place = some old ∧
        mask.edit old = .ok change ∧ (mask.apply v).resource = v.edit change place := by
  have hout := outcome_apply mask v
  generalize mask.apply v = masked at hout ⊢
  cases hout with
  | noField _ => exact .inl rfl
  | absent _ _ => exact .inl rfl
  | refused _ _ _ => exact .inl rfl
  | edited haddr hat he => exact .inr ⟨_, _, _, haddr, hat, he, rfl⟩

/-! ## What a mask keeps and what it says -/

/-- The mask takes an item out of a list of the resource. -/
def RemovesItem (mask : Mask) (resource : Value) : Prop :=
  mask.strategy = .remove ∧ ∃ parent index, mask.Addresses resource (parent ++ [.item index])

/-- A mask that takes no item out of a list keeps the other slots where they are. -/
theorem keeps_of_not_removesItem {place : Location} {change : Edit} (hm : ¬ mask.RemovesItem v)
    (h : mask.Addresses v place) (he : mask.edit old = .ok change) :
    ∀ slot ∈ place.getLast?, change.Keeps slot := by
  intro slot hslot hdrop index hitem
  rcases eq_drop_or_write he with ⟨_, hs⟩ | ⟨new, hw, _⟩
  · obtain ⟨parent, hparent⟩ := List.getLast?_eq_some_iff.mp hslot
    rw [hparent, hitem] at h
    exact hm ⟨hs, parent, index, h⟩
  · exact absurd (hdrop.symm.trans hw) (by simp)

/-- A mask that succeeds says whether its path led anywhere in the resource it was given. -/
theorem applied_eq_isSome_resolve {applied : Bool} (h : (mask.apply v).applied = .ok applied) :
    applied = (v.resolve mask.path).isSome := by
  have hout := outcome_apply mask v
  generalize mask.apply v = masked at h hout
  cases hout with
  | noField _ => exact absurd h (by simp)
  | absent _ hl =>
    rw [Value.resolve_eq, hl, ← Except.ok.inj h]
    rfl
  | refused _ _ _ => exact absurd h (by simp)
  | edited ha _ _ => rw [Value.isSome_resolve_iff.mpr ⟨_, ha.2⟩, ← Except.ok.inj h]

theorem apply_of_applied_error {error : MaskError} (h : (mask.apply v).applied = .error error) :
    mask.apply v = ⟨v, .error error⟩ := by
  have hout := outcome_apply mask v
  generalize mask.apply v = masked at h hout
  cases hout with
  | noField _ => rw [← Except.error.inj h]
  | absent _ _ => exact absurd h (by simp)
  | refused _ _ _ => rw [← Except.error.inj h]
  | edited _ _ _ => exact absurd h (by simp)

end Mask

/-! ## Runs of masks -/

namespace Policy

/-- All masks of a policy succeed, one after another, on the way from one resource to another.
Each logs whether its path led anywhere in the resource that it was given. -/
inductive Run : Policy → Value → List Event → Value → Prop where
  | done (resource : Value) : Run [] resource [] resource
  | mask {mask : Mask} {rest : Policy} {resource next masked : Value} {applied : Bool}
      {events : List Event} (happly : mask.apply resource = ⟨next, .ok applied⟩)
      (hrest : Run rest next events masked) :
      Run (mask :: rest) resource
        (.maskEvaluated mask.field mask.strategy.name (resource.resolve mask.path).isSome :: events)
        masked

variable {policy before : Policy} {mask : Mask} {resource masked : Value} {events : List Event}

theorem apply_cons_of_ok {rest : Policy} {next : Value} {applied : Bool}
    (h : mask.apply resource = ⟨next, .ok applied⟩) :
    apply (mask :: rest) resource =
      ⟨(apply rest next).result,
        .maskEvaluated mask.field mask.strategy.name (resource.resolve mask.path).isSome
          :: (apply rest next).events⟩ := by
  have happlied : applied = (resource.resolve mask.path).isSome :=
    Mask.applied_eq_isSome_resolve (by rw [h])
  rw [apply, h, happlied]

theorem apply_of_run (h : Run policy resource events masked) :
    apply policy resource = ⟨.ok masked, events⟩ := by
  induction h with
  | done resource => rfl
  | mask happly hrest ih => rw [apply_cons_of_ok happly, ih]

/-- A mask that fails ends the policy with its error and without an event of its own. -/
theorem apply_of_run_error {after : Policy} {error : MaskError}
    (h : Run before resource events masked) (hf : (mask.apply masked).applied = .error error) :
    apply (before ++ mask :: after) resource = ⟨.error error, events⟩ := by
  induction h with
  | done resource => rw [List.nil_append, apply, Mask.apply_of_applied_error hf]
  | mask happly hrest ih => rw [List.cons_append, apply_cons_of_ok happly, ih hf]

/-- **A policy runs to its end, or up to a mask that fails there.** -/
theorem run_or_fails (policy : Policy) (resource : Value) :
    (∃ events masked, Run policy resource events masked) ∨
      ∃ before mask after events current error, policy = before ++ mask :: after ∧
        Run before resource events current ∧ (mask.apply current).applied = .error error := by
  induction policy generalizing resource with
  | nil => exact Or.inl ⟨[], resource, .done resource⟩
  | cons mask rest ih =>
    cases hm : mask.apply resource with
    | mk next outcome =>
      cases outcome with
      | error error =>
        exact Or.inr ⟨[], mask, rest, [], resource, error, rfl, .done resource, by rw [hm]⟩
      | ok applied =>
        -- What becomes of the rest on what this mask left becomes of the whole policy.
        rcases ih next with ⟨events, masked, hrun⟩ | ⟨before, failing, after, events, current,
          error, rfl, hrun, herr⟩
        · exact Or.inl ⟨_, masked, .mask hm hrun⟩
        · exact Or.inr ⟨mask :: before, failing, after, _, current, error, rfl, .mask hm hrun, herr⟩

theorem run_of_result_ok (h : (apply policy resource).result = .ok masked) :
    Run policy resource (apply policy resource).events masked := by
  rcases run_or_fails policy resource with ⟨events, masked', hrun⟩ |
    ⟨before, mask, after, events, current, error, rfl, hrun, hf⟩
  · rw [apply_of_run hrun] at h ⊢
    obtain rfl := Except.ok.inj h
    exact hrun
  · rw [apply_of_run_error hrun hf] at h
    exact absurd h (by simp)

/-- **Two policies one after the other are one policy**, in what they leave, in how they fail and
in what they log. -/
theorem apply_append_eq (first second : Policy) (resource : Value) :
    apply (first ++ second) resource =
      match (apply first resource).result with
      | .error _ => apply first resource
      | .ok masked =>
          ⟨(apply second masked).result,
            (apply first resource).events ++ (apply second masked).events⟩ := by
  induction first generalizing resource with
  | nil => rfl
  | cons mask rest ih =>
    cases hm : mask.apply resource with
    | mk next outcome =>
      cases outcome with
      | error error => simp only [List.cons_append, apply, hm]
      | ok applied =>
        rw [List.cons_append, apply_cons_of_ok hm, apply_cons_of_ok hm, ih next]
        cases hr : (apply rest next).result with
        | error error => simp only [hr]
        | ok masked => simp only [List.cons_append]

end Policy
end Clearance
