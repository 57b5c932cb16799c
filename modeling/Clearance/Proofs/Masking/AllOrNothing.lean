import Clearance.Proofs.Masking.Application
import Clearance.Proofs.Path.OnePlace

/-!
# A mask does its work or does nothing

What a mask answers hangs on three things, in this order: whether it names a field at all, what its
path leads to in the resource, and whether it refuses, takes away or replaces that. `Answers` lists
the conditions, and **a mask answers as they say and only so** (`applied_eq_iff`).

Whatever the answer is, if it is not success, the resource is what it was (`resource_eq`). And
success of a mask that does not remove its field **replaces what stands at the one place that the
mask addresses and nothing else** (`changedAt_apply`).
-/

set_option autoImplicit false

namespace Clearance

namespace Mask

variable {mask : Mask} {v old new : Value} {error : MaskError}

/-! ## What a mask answers -/

theorem Addresses.resolve {place : Location} (h : mask.Addresses v place)
    (ha : v.at? place = some old) : v.resolve mask.path = some old :=
  Value.resolve_eq_some_iff.mpr ⟨place, h.2, ha⟩

/-- What a mask answers. A mask without a field is refused whatever the resource is, one whose path
leads nowhere is passed over, and where it leads somewhere the value there decides. -/
inductive Answers (mask : Mask) (v : Value) : Except MaskError Bool → Prop where
  | noField (h : mask.path = []) : Answers mask v (.error .emptyField)
  | absent (hne : mask.path ≠ []) (h : v.resolve mask.path = none) : Answers mask v (.ok false)
  | refused {old : Value} {error : MaskError} (hne : mask.path ≠ [])
      (h : v.resolve mask.path = some old) (hr : mask.Refuses old error) :
      Answers mask v (.error error)
  | removed {old : Value} (hne : mask.path ≠ []) (h : v.resolve mask.path = some old)
      (hs : mask.strategy = .remove) : Answers mask v (.ok true)
  | replaced {old new : Value} (hne : mask.path ≠ []) (h : v.resolve mask.path = some old)
      (hr : mask.Replaces old new) : Answers mask v (.ok true)

theorem answers_applied (mask : Mask) (v : Value) : mask.Answers v (mask.apply v).applied := by
  have hout := outcome_apply mask v
  generalize mask.apply v = masked at hout
  cases hout with
  | noField hp => exact .noField hp
  | absent hne hl => exact .absent hne (by rw [Value.resolve_eq, hl]; rfl)
  | @refused place old error haddr hat he =>
    rcases edit_cases mask old with ⟨found, hr, he'⟩ | ⟨_, he'⟩ | ⟨_, _, he'⟩
    · obtain rfl := Except.error.inj (he.symm.trans he')
      exact .refused haddr.1 (haddr.resolve hat) hr
    · exact absurd (he.symm.trans he') (by simp)
    · exact absurd (he.symm.trans he') (by simp)
  | @edited place old change haddr hat he =>
    rcases edit_cases mask old with ⟨_, _, he'⟩ | ⟨hs, _⟩ | ⟨new, hr, _⟩
    · exact absurd (he.symm.trans he') (by simp)
    · exact .removed haddr.1 (haddr.resolve hat) hs
    · exact .replaced haddr.1 (haddr.resolve hat) hr

/-- A path that resolves leads to a place, and the edit of what is there decides. -/
theorem applied_of_resolve (hne : mask.path ≠ []) (h : v.resolve mask.path = some old) :
    (mask.apply v).applied = (mask.edit old).map fun _ => true := by
  obtain ⟨place, hl, hat⟩ := Value.resolve_eq_some_iff.mp h
  rw [apply_of_addresses ⟨hne, hl⟩ hat]
  cases mask.edit old with
  | error error => rfl
  | ok change => rfl

/-- **A mask answers as these conditions say**, and only so. -/
theorem applied_eq_iff {answer : Except MaskError Bool} :
    (mask.apply v).applied = answer ↔ mask.Answers v answer := by
  constructor
  · rintro rfl
    exact answers_applied mask v
  · intro h
    cases h with
    | noField hp => rw [apply_of_path_nil hp]
    | absent _ hr => rw [apply_of_locate_none (Value.locate_of_resolve_none hr)]
    | refused hne hr href => rw [applied_of_resolve hne hr, edit_of_refuses href]; rfl
    | removed hne hr hs => rw [applied_of_resolve hne hr, edit_of_remove hs]; rfl
    | replaced hne hr hrep => rw [applied_of_resolve hne hr, edit_of_replaces hrep]; rfl

/-- A mask is refused for want of a field exactly if it has none. -/
theorem applied_eq_emptyField_iff :
    (mask.apply v).applied = .error .emptyField ↔ mask.path = [] := by
  rw [applied_eq_iff]
  constructor
  · intro h
    cases h with
    | noField hp => exact hp
    | refused _ _ hr => cases hr
  · exact .noField

/-- Whatever its strategy, a mask passes over its field exactly if the path does not resolve. -/
theorem applied_eq_false_iff (hne : mask.path ≠ []) :
    (mask.apply v).applied = .ok false ↔ v.resolve mask.path = none := by
  rw [applied_eq_iff]
  constructor
  · intro h
    cases h with
    | absent _ hr => exact hr
  · exact .absent hne

/-! ## What a mask leaves -/

theorem resource_eq (h : (mask.apply v).applied ≠ .ok true) : (mask.apply v).resource = v := by
  have hout := outcome_apply mask v
  generalize mask.apply v = masked at h hout
  cases hout with
  | noField _ => rfl
  | absent _ _ => rfl
  | refused _ _ _ => rfl
  | edited _ _ _ => exact absurd rfl h

/-- **A mask that overwrites its field changes the one place that it addresses.** -/
theorem changedAt_apply (h : (mask.apply v).applied = .ok true) (hs : mask.strategy ≠ .remove) :
    ∃ place old new, mask.Addresses v place ∧ v.resolve mask.path = some old ∧
      mask.Replaces old new ∧
      Value.ChangedAt (fun a b => a = old ∧ b = new) place v (mask.apply v).resource := by
  have hout := outcome_apply mask v
  generalize mask.apply v = masked at h hout ⊢
  cases hout with
  | noField _ => exact absurd h (by simp)
  | absent _ _ => exact absurd h (by simp)
  | refused _ _ _ => exact absurd h (by simp)
  | @edited place old change haddr hat he =>
    rcases edit_cases mask old with ⟨_, _, he'⟩ | ⟨hs', _⟩ | ⟨new, hn, he'⟩
    · exact absurd (he.symm.trans he') (by simp)
    · exact absurd hs' hs
    · obtain rfl := Except.ok.inj (he.symm.trans he')
      exact ⟨place, old, new, haddr, haddr.resolve hat, hn,
        Value.changedAt_write hat haddr.ne_nil new⟩

/-- **A mask does its work or does nothing.** It answers as `Answers` says and only so: it is
refused for want of a field exactly if its dotted field has no segment, else passed over exactly if
its path does not resolve, else refused exactly if it works on texts and the value there has none,
or if its pattern does not fit the text. Unless it succeeds the resource is what it was. And if it
succeeds without removing its field, the path resolves to null or to the masked text of the old
value afterwards, and the resource is the same around that one place. -/
theorem apply_is_all_or_nothing (mask : Mask) (resource : Value) :
    (∀ answer, (mask.apply resource).applied = answer ↔ mask.Answers resource answer) ∧
    ((mask.apply resource).applied ≠ .ok true → (mask.apply resource).resource = resource) ∧
    ((mask.apply resource).applied = .ok true → mask.strategy ≠ .remove →
      ∃ place old new, resource.locate mask.path = some place ∧
        resource.resolve mask.path = some old ∧ mask.Replaces old new ∧
        (mask.apply resource).resource.resolve mask.path = some new ∧
        Value.ChangedAt (fun a b => a = old ∧ b = new) place resource
          (mask.apply resource).resource) := by
  refine ⟨fun _ => applied_eq_iff, resource_eq, ?_⟩
  intro h hs
  obtain ⟨place, old, new, haddr, hr, hreplaces, hchanged⟩ := changedAt_apply h hs
  obtain ⟨_, found, _, hnew, _, hfound⟩ := hchanged.resolve haddr.2
  rw [hfound] at hnew
  exact ⟨place, old, new, haddr.2, hr, hreplaces, hnew, hchanged⟩

/-- The first has a flag where the second has a number. -/
def people : Value :=
  .object [("people", .list [.object [("ssn", .bool true)], .object [("ssn", .nat 123456789)]])]

def firstNumber : Mask := ⟨"people.0.ssn", .redact .ssn⟩

def secondNumber : Mask := ⟨"people.+1.ssn", .redact .ssn⟩

theorem second_number_masked :
    (secondNumber.apply people).applied = .ok true ∧ secondNumber.strategy ≠ .remove ∧
      (secondNumber.apply people).resource.resolve secondNumber.path =
        some (.text "***-**-6789") ∧
      (firstNumber.apply people).applied =
        .error (.unsupported "people.0.ssn" .boolean (.redact .ssn)) ∧
      (firstNumber.apply people).resource = people := by
  obtain ⟨hanswers, _, hsucceeds⟩ := apply_is_all_or_nothing secondNumber people
  obtain ⟨hanswers', hfails, _⟩ := apply_is_all_or_nothing firstNumber people
  have hreplaces : secondNumber.Replaces (.nat 123456789) (.text "***-**-6789") :=
    .text rfl (.number _) (by rfl)
  have hdone : (secondNumber.apply people).applied = .ok true :=
    (hanswers _).mpr (.replaced (by decide) rfl hreplaces)
  have hrefused : (firstNumber.apply people).applied =
      .error (.unsupported "people.0.ssn" .boolean (.redact .ssn)) :=
    (hanswers' _).mpr (.refused (by decide) rfl (.unsupported rfl (.bool true)))
  refine ⟨hdone, by decide, ?_, hrefused, hfails (by rw [hrefused]; simp)⟩
  obtain ⟨_, old, new, _, hold, hnew, hresolve, _⟩ := hsucceeds hdone (by decide)
  obtain rfl : Value.nat 123456789 = old := Option.some.inj hold
  have hsame := (edit_of_replaces hreplaces).symm.trans (edit_of_replaces hnew)
  rw [hresolve, ← Edit.write.inj (Except.ok.inj hsame)]

end Mask
end Clearance
