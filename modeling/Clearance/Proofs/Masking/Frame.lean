import Clearance.Proofs.Masking.AllOrNothing
import Clearance.Proofs.Masking.Commutation
import Clearance.Proofs.Masking.Noninterference
import Clearance.Trial.Masking

/-!
# A policy touches what it names and nothing else

What a policy leaves of a resource **holds nothing that was not there**: whatever path leads
somewhere in the masked resource led to the same place before. And it **leaves alone what no mask
is about**: at a place apart from those of all masks everything reads as before, along whatever
path. Both hold as long as no mask takes an item out of a list, since that moves the items behind
it to other places.

Each is a step lemma about one mask and a run lemma about a policy. What carries the second is the
first: the masks behind another one are about no places in what it leaves that they were not about
in the resource.

The trials of masking are an instance: their policies name two fields of a resource of three.
-/

set_option autoImplicit false

namespace Clearance

theorem Value.ReadsAlike.trans {path : Path} {u v w : Value} (h : ReadsAlike path u v)
    (h' : ReadsAlike path v w) : ReadsAlike path u w where
  locate := h'.locate.trans h.locate
  at? := fun place hl => (h'.at? place (h.locate.trans hl)).trans (h.at? place hl)

/-! ## One mask -/

namespace Mask

variable {mask : Mask} {v : Value} {path : Path}

/-- **A mask does not show along a path to a place that it is clear of**, nor along one that leads
nowhere. -/
theorem readsAlike_apply_of_clearOf (hm : ¬ mask.RemovesItem v)
    (hclear : ∀ place, v.locate path = some place → mask.ClearOf v place) :
    Value.ReadsAlike path v (mask.apply v).resource where
  locate := by
    cases hl : v.locate path with
    | some place => exact locate_apply_of_clearOf (hclear place hl) hm hl
    | none =>
      cases hl' : (mask.apply v).resource.locate path with
      | none => rfl
      | some place => exact absurd (hl.symm.trans (locate_of_locate_apply hm hl')) (by simp)
  at? := by
    intro place hl
    rcases resource_apply mask v with hsame | ⟨found, old, change, haddr, _, he, hedit⟩
    · rw [hsame]
    · rw [hedit]
      exact Value.at?_edit_of_apart v (keeps_of_not_removesItem hm haddr he)
        (hclear place hl found haddr).symm

end Mask

/-! ## A run of masks -/

namespace Policy

variable {policy : Policy} {resource masked : Value} {events : List Event} {path : Path}

/-- **Nothing is added**: a path that leads somewhere in what a policy left led to the same place
in what it was given. -/
theorem locate_of_locate_run {place : Location} (hrun : Run policy resource events masked)
    (hk : RemovesNoItem policy resource) (hl : masked.locate path = some place) :
    resource.locate path = some place := by
  induction hrun with
  | done resource => exact hl
  | @mask mask rest resource next masked applied events happly hrest ih =>
    have hnext : next = (mask.apply resource).resource := by rw [happly]
    have hbefore := ih (hk.tail happly) hl
    rw [hnext] at hbefore
    exact Mask.locate_of_locate_apply hk.head hbefore

/-- **Nothing else is touched**: along a path to a place that all masks are clear of, what a policy
left reads as what it was given. -/
theorem readsAlike_run (hrun : Run policy resource events masked)
    (hk : RemovesNoItem policy resource)
    (hclear : ∀ place, resource.locate path = some place →
      ∀ mask ∈ policy, mask.ClearOf resource place) :
    Value.ReadsAlike path resource masked := by
  induction hrun with
  | done resource => exact .refl path resource
  | @mask mask rest resource next masked applied events happly hrest ih =>
    have hnext : next = (mask.apply resource).resource := by rw [happly]
    have hstep : Value.ReadsAlike path resource next := by
      rw [hnext]
      exact Mask.readsAlike_apply_of_clearOf hk.head fun place hl =>
        hclear place hl mask List.mem_cons_self
    refine hstep.trans (ih (hk.tail happly) ?_)
    -- What a later mask is about now it was about before.
    intro place hl other hmem found haddr
    rw [hnext] at haddr
    exact hclear place (hstep.locate.symm.trans hl) other (List.mem_cons_of_mem mask hmem) found
      ⟨haddr.1, Mask.locate_of_locate_apply hk.head haddr.2⟩

/-- Masks that are about no items of lists in a resource take none out on the way. -/
theorem removesNoItem_of_forall (h : ∀ mask ∈ policy, ¬ mask.RemovesItem resource) :
    RemovesNoItem policy resource := by
  intro before mask after current hsplit hresult
  induction before generalizing policy resource with
  | nil =>
    obtain rfl := Except.ok.inj hresult
    exact h mask (by simp [hsplit])
  | cons first before ih =>
    subst hsplit
    cases hm : first.apply resource with
    | mk next outcome =>
      cases outcome with
      | error error =>
        rw [apply, hm] at hresult
        exact absurd hresult (by simp)
      | ok applied =>
        rw [apply_cons_of_ok hm] at hresult
        refine ih ?_ rfl hresult
        rintro other hmem ⟨hs, parent, index, haddr⟩
        have hnext : next = (first.apply resource).resource := by rw [hm]
        rw [hnext] at haddr
        -- An item that the mask would take out now it would have taken out before.
        refine h other (List.mem_cons_of_mem first hmem) ⟨hs, parent, index, haddr.1, ?_⟩
        exact Mask.locate_of_locate_apply (h first List.mem_cons_self) haddr.2

theorem exists_path_nil_of_emptyField (h : (apply policy resource).result = .error .emptyField) :
    ∃ mask ∈ policy, mask.path = [] := by
  rcases run_or_fails policy resource with ⟨events, masked, hrun⟩ |
    ⟨before, mask, after, events, current, error, rfl, hrun, hf⟩
  · rw [apply_of_run hrun] at h
    exact absurd h (by simp)
  · rw [apply_of_run_error hrun hf] at h
    rw [Except.error.inj h] at hf
    exact ⟨mask, by simp, Mask.applied_eq_emptyField_iff.mp hf⟩

end Policy

/-! ## The trials of masking -/

theorem Value.at?_field (v : Value) (key : String) : v.at? [.field key] = v.field? key := by
  cases v with
  | object fields => cases h : Fields.get? fields key <;> simp [at?, get?, field?, h]
  | _ => rfl

namespace Trial

theorem Secret.same_toValue (secret : Secret) : secret.toValue.same secret.toValue = true := by
  cases secret with
  | text s => simp [toValue, Value.same]
  | number n => simp [toValue, Value.same, Number.same]
  | flag b => simp [toValue, Value.same]

namespace MaskingInput

theorem fieldCount_put (v : Value) (slot : Slot) (new : Value) :
    fieldCount (v.put slot new) = fieldCount v := by
  cases v with
  | object fields =>
    cases slot with
    | field key =>
      have hkeys := congrArg List.length (Fields.keys_put fields key new)
      simpa [Fields.keys, Value.put, fieldCount] using hkeys
    | item index => rfl
  | list items => cases slot <;> rfl
  | _ => rfl

theorem fieldCount_edit_le (change : Edit) (v : Value) (place : Location) :
    fieldCount (v.edit change place) ≤ fieldCount v := by
  match place with
  | [] => exact Nat.le_refl _
  | [slot] =>
    cases change with
    | write new => exact Nat.le_of_eq (fieldCount_put v slot new)
    | drop =>
      cases v with
      | object fields =>
        cases slot with
        | field key => exact List.length_filter_le _ fields
        | item index => exact Nat.le_refl _
      | list items => cases slot <;> exact Nat.le_refl _
      | _ => exact Nat.le_refl _
  | slot :: next :: rest =>
    cases hg : v.get? slot with
    | none => exact Nat.le_of_eq (by rw [Value.edit_cons_of_none change hg (by simp)])
    | some held =>
      rw [Value.edit_cons change next rest hg]
      exact Nat.le_of_eq (fieldCount_put v slot _)

theorem fieldCount_apply_le (mask : Mask) (v : Value) :
    fieldCount (mask.apply v).resource ≤ fieldCount v := by
  rcases Mask.resource_apply mask v with hsame | ⟨place, old, change, _, _, _, hedit⟩
  · exact Nat.le_of_eq (congrArg fieldCount hsame)
  · rw [hedit]
    exact fieldCount_edit_le change v place

theorem fieldCount_run_le {policy : Policy} {resource masked : Value} {events : List Event}
    (hrun : Policy.Run policy resource events masked) :
    fieldCount masked ≤ fieldCount resource := by
  induction hrun with
  | done resource => exact Nat.le_refl _
  | @mask mask rest resource next masked applied events happly hrest ih =>
    have hstep := fieldCount_apply_le mask resource
    rw [happly] at hstep
    exact Nat.le_trans ih hstep

variable {input : MaskingInput} {mask : Mask}

theorem resource_eq (input : MaskingInput) :
    input.resource =
      .object [("nested", .object [("secret", input.secret.toValue)]),
        ("secret", input.secret.toValue), ("type", .text "person")] := by
  have hsecret : "secret" < "type" := by decide
  have hnested : "nested" < "secret" := by decide
  simp only [resource, Value.ofFields, Fields.ofList, List.foldl_cons, List.foldl_nil,
    Fields.insert_nil]
  rw [Fields.insert_cons_of_lt hsecret, Fields.insert_cons_of_lt hnested]

theorem path_of_mem_policy (h : mask ∈ input.policy) :
    mask.path = [.key "secret"] ∨ mask.path = [.key "nested", .key "secret"] := by
  obtain ⟨⟨strategy, nested⟩, _, rfl⟩ := List.mem_map.mp h
  cases nested with
  | false =>
    refine .inl ?_
    show Path.ofDotted "secret" = [.key "secret"]
    decide
  | true =>
    refine .inr ?_
    show Path.ofDotted "nested.secret" = [.key "nested", .key "secret"]
    decide

/-- The masks of a trial are about the two fields that hold the secret. -/
theorem place_of_mem_policy {place : Location} (h : mask ∈ input.policy)
    (ha : mask.Addresses input.resource place) :
    place = [.field "secret"] ∨ place = [.field "nested", .field "secret"] := by
  have hl := ha.2
  rw [resource_eq] at hl
  rcases path_of_mem_policy h with hp | hp
  · rw [hp] at hl
    exact .inl (Option.some.inj hl).symm
  · rw [hp] at hl
    exact .inr (Option.some.inj hl).symm

theorem removesNoItem (input : MaskingInput) :
    Policy.RemovesNoItem input.policy input.resource := by
  refine Policy.removesNoItem_of_forall ?_
  rintro mask hmem ⟨_, parent, index, haddr⟩
  rcases place_of_mem_policy hmem haddr with hplace | hplace
  · exact absurd (congrArg List.getLast? hplace) (by simp)
  · exact absurd (congrArg List.getLast? hplace) (by simp)

theorem type_of_run {masked : Value} {events : List Event}
    (hrun : Policy.Run input.policy input.resource events masked) :
    masked.field? "type" = some (.text "person") := by
  have hlocate : input.resource.locate [.key "type"] = some [.field "type"] := by
    rw [resource_eq]
    rfl
  have hclear : ∀ place, input.resource.locate [.key "type"] = some place →
      ∀ mask ∈ input.policy, mask.ClearOf input.resource place := by
    intro place hl mask hmem found haddr
    obtain rfl := Option.some.inj (hlocate.symm.trans hl)
    rcases place_of_mem_policy hmem haddr with rfl | rfl
    · exact ⟨by decide, by decide⟩
    · exact ⟨by decide, by decide⟩
  have hframe := (Policy.readsAlike_run hrun (removesNoItem input) hclear).at? _ hlocate
  rw [← Value.at?_field, hframe, resource_eq]
  rfl

theorem maskedHolds_of_run {masked : Value} {events : List Event}
    (hrun : Policy.Run input.policy input.resource events masked) :
    input.maskedHolds masked = true := by
  have hcount : fieldCount masked ≤ 3 := by
    have hle := fieldCount_run_le hrun
    rw [resource_eq] at hle
    exact hle
  have hsecret : Value.sameOption (input.resource.field? "secret")
      ((input.resource.field? "nested").bind (·.field? "secret")) = true := by
    rw [resource_eq]
    exact Secret.same_toValue input.secret
  rw [maskedHolds, type_of_run hrun, hsecret]
  simp [Value.sameOption, Value.same, hcount]

/-- The masks of a trial fail for the secret only, never for want of a field. -/
theorem run_ne_emptyField (input : MaskingInput) : input.run.result ≠ .error .emptyField := by
  intro h
  obtain ⟨mask, hmem, hpath⟩ := Policy.exists_path_nil_of_emptyField h
  rcases path_of_mem_policy hmem with hp | hp
  · exact absurd (hpath.symm.trans hp) (by simp)
  · exact absurd (hpath.symm.trans hp) (by simp)

theorem holds_eq_true (input : MaskingInput) : input.holds = true := by
  have hne := run_ne_emptyField input
  unfold holds
  split
  · next masked h => exact maskedHolds_of_run (Policy.run_of_result_ok h)
  · next h => exact absurd h hne
  · rfl

end MaskingInput
end Trial

/-! ## All policies -/

/-- **A policy touches only what it names and invents nothing.** Whatever path leads somewhere in
the resource that a policy left led somewhere in the resource that it was given, and a path whose
place in the latter is neither that of a mask nor above or below one reads the same in both. So the
trials of masking hold, and none of them fails for want of a field. -/
theorem masking_touches_named_only :
    (∀ (policy : Policy) (resource masked : Value),
      (policy.apply resource).result = .ok masked → policy.RemovesNoItem resource →
      (∀ path, (masked.resolve path).isSome = true → (resource.resolve path).isSome = true) ∧
        ∀ path, (∀ place, resource.locate path = some place →
            ∀ mask ∈ policy, mask.ClearOf resource place) →
          masked.resolve path = resource.resolve path) ∧
    ∀ input : Trial.MaskingInput,
      input.holds = true ∧ input.run.result ≠ .error .emptyField := by
  refine ⟨?_, fun input => ⟨input.holds_eq_true, input.run_ne_emptyField⟩⟩
  intro policy resource masked h hk
  have hrun := Policy.run_of_result_ok h
  refine ⟨?_, fun path hclear => (Policy.readsAlike_run hrun hk hclear).resolve⟩
  intro path hsome
  obtain ⟨place, hl⟩ := Value.isSome_resolve_iff.mp hsome
  exact Value.isSome_resolve_iff.mpr ⟨place, Policy.locate_of_locate_run hrun hk hl⟩

/-- One mask takes a field away, the other names an account that is not there. -/
def firstOnly : Policy := [withoutFirst, ⟨"accounts.7.number", .null⟩]

def firstMasked : Value :=
  .object [("accounts", .list [.object [], .object [("number", .nat 2)]])]

theorem place_of_mem_firstOnly {mask : Mask} {place : Location} (h : mask ∈ firstOnly)
    (ha : mask.Addresses accounts place) :
    place = [.field "accounts", .item 0, .field "number"] := by
  have hmask : mask = withoutFirst ∨ mask = ⟨"accounts.7.number", .null⟩ := by
    simpa [firstOnly] using h
  rcases hmask with rfl | rfl
  · exact Option.some.inj (ha.2.symm.trans rfl)
  · have hnone : accounts.locate (Mask.path ⟨"accounts.7.number", .null⟩) = none := rfl
    exact absurd (ha.2.symm.trans hnone) (by simp)

theorem firstOnly_removesNoItem : firstOnly.RemovesNoItem accounts := by
  refine Policy.removesNoItem_of_forall ?_
  rintro mask hmem ⟨_, parent, index, haddr⟩
  exact absurd (congrArg List.getLast? (place_of_mem_firstOnly hmem haddr)) (by simp)

/-- The second account reads as before, also along a path that spells its index out as one. -/
theorem second_account_untouched :
    (firstOnly.apply accounts).result = .ok firstMasked ∧ firstOnly.RemovesNoItem accounts ∧
      (accounts.resolve [.key "accounts", .key "00"]).isSome = true ∧
      firstMasked.resolve [.key "accounts", .index 1, .key "number"] = some (.nat 2) := by
  have hresult : (firstOnly.apply accounts).result = .ok firstMasked := rfl
  obtain ⟨hadded, htouched⟩ := masking_touches_named_only.1 firstOnly accounts firstMasked hresult
    firstOnly_removesNoItem
  refine ⟨hresult, firstOnly_removesNoItem, hadded _ rfl, ?_⟩
  rw [htouched]
  · rfl
  · intro place hl mask hmem found haddr
    obtain rfl : [.field "accounts", .item 1, .field "number"] = place := Option.some.inj hl
    rw [place_of_mem_firstOnly hmem haddr]
    exact ⟨by decide, by decide⟩

end Clearance
