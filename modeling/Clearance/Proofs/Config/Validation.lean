import Clearance.Proofs.Config.Loading
import Clearance.Proofs.Path.Dotted

/-!
# Validation finds the masks that would fail

A mask whose field is dots alone fails whatever it is applied to, and it is the one kind of mask
that settings must not have. Validation looks for it in the fields, without a resource at hand.
**It accepts settings exactly if there is no resource on which their masks fail for want of a
field** (`Settings.validate_eq_ok_iff`). The resource that gives a bad mask away is null: every
other mask passes over null, so none in front of the bad one can fail first, or take away what it
would fail on.

The mask that validation names is the first bad one, and a policy that is applied to null stops at
that very mask (`Policy.apply_null_eq`).
-/

set_option autoImplicit false

namespace Clearance

/-- The mask names no field: its field is dots alone, or the empty text. -/
def Mask.Nameless (mask : Mask) : Prop := ∀ c ∈ mask.field.toList, c = '.'

theorem Mask.nameless_iff {mask : Mask} : mask.Nameless ↔ mask.path = [] :=
  Path.ofDotted_eq_nil_iff.symm

/-! ## Masks on null -/

theorem Mask.apply_null {mask : Mask} (h : ¬ mask.Nameless) :
    mask.apply .null = ⟨.null, .ok false⟩ := by
  obtain ⟨segment, rest, hpath⟩ := List.exists_cons_of_ne_nil (mt nameless_iff.mpr h)
  exact apply_of_locate_none (by rw [hpath]; rfl)

namespace Policy

variable {policy before : Policy} {mask : Mask}

theorem exists_run_null (h : ∀ mask ∈ policy, ¬ mask.Nameless) :
    ∃ events, Run policy .null events .null := by
  induction policy with
  | nil => exact ⟨[], .done .null⟩
  | cons mask rest ih =>
    obtain ⟨hmask, hrest⟩ := List.forall_mem_cons.mp h
    obtain ⟨events, hrun⟩ := ih hrest
    exact ⟨_, .mask (Mask.apply_null hmask) hrun⟩

/-- **On null a policy stops at its first mask without a field.** -/
theorem apply_null_eq (after : Policy) (hbefore : ∀ earlier ∈ before, ¬ earlier.Nameless)
    (h : mask.Nameless) :
    ∃ events, Run before .null events .null ∧ (mask.apply .null).applied = .error .emptyField ∧
      apply (before ++ mask :: after) .null = ⟨.error .emptyField, events⟩ := by
  obtain ⟨events, hrun⟩ := exists_run_null hbefore
  have hfails : (mask.apply .null).applied = .error .emptyField :=
    Mask.applied_eq_emptyField_iff.mpr (Mask.nameless_iff.mp h)
  exact ⟨events, hrun, hfails, apply_of_run_error hrun hfails⟩

end Policy

/-! ## What validation finds -/

namespace Settings

variable {settings : Settings}

theorem validate_of_blank (h : Text.isAllBlank settings.name = true) :
    settings.validate = .error .blankName := by
  rw [validate, if_pos h]

/-- Settings with a name are refused for their first mask without a field, or not at all. -/
theorem validate_cases (h : Text.isAllBlank settings.name = false) :
    (settings.validate = .ok () ∧ ∀ mask ∈ settings.masks, ¬ mask.Nameless) ∨
      ∃ before mask after, settings.masks = before ++ mask :: after ∧
        (∀ earlier ∈ before, ¬ earlier.Nameless) ∧ mask.Nameless ∧
        settings.validate = .error (.noField before.length) := by
  rw [validate, if_neg (by simp [h])]
  cases hfind : settings.masks.findIdx? (·.path.isEmpty) with
  | none =>
    refine .inl ⟨rfl, fun mask hmem hnameless => ?_⟩
    have hnamed := List.findIdx?_eq_none_iff.mp hfind mask hmem
    rw [Mask.nameless_iff.mp hnameless] at hnamed
    exact absurd hnamed (by simp)
  | some index =>
    obtain ⟨hlt, hempty, hfirst⟩ := List.findIdx?_eq_some_iff_getElem.mp hfind
    have hlength : (settings.masks.take index).length = index :=
      List.length_take_of_le (Nat.le_of_lt hlt)
    refine .inr ⟨settings.masks.take index, settings.masks[index], settings.masks.drop (index + 1),
      ?_, ?_, Mask.nameless_iff.mpr (List.isEmpty_iff.mp hempty), by rw [hlength]⟩
    · rw [List.getElem_cons_drop, List.take_append_drop]
    · intro earlier hmem hnameless
      obtain ⟨i, hi, rfl⟩ := List.mem_take_iff_getElem.mp hmem
      refine hfirst i (by omega) ?_
      rw [Mask.nameless_iff.mp hnameless]
      rfl

/-- Settings with a name are valid exactly if their masks have a field on every resource. -/
theorem validate_eq_ok_iff (h : Text.isAllBlank settings.name = false) :
    settings.validate = .ok () ↔
      ¬ ∃ resource, (settings.masks.apply resource).result = .error .emptyField := by
  rcases validate_cases h with
    ⟨hvalid, hall⟩ | ⟨before, mask, after, hmasks, hbefore, hmask, herror⟩
  · refine iff_of_true hvalid ?_
    rintro ⟨resource, hfails⟩
    obtain ⟨mask, hmem, hpath⟩ := Policy.exists_path_nil_of_emptyField hfails
    exact hall mask hmem (Mask.nameless_iff.mpr hpath)
  · obtain ⟨events, -, -, hstops⟩ := Policy.apply_null_eq after hbefore hmask
    refine iff_of_false (by simp [herror]) (not_not_intro ⟨.null, ?_⟩)
    rw [hmasks, hstops]

end Settings

/-- **Validation finds the masks that fail for want of a field.** Settings with a name are valid
exactly if there is no resource on which their masks fail so. If they are refused, it is for the
first mask whose field is dots alone, or empty, and applied to null the masks stop at that very
mask. Settings without a name are refused for the name, whatever their masks are. -/
theorem validation_finds_failing_masks (settings : Settings) :
    ((∃ c ∈ settings.name.toList, Text.isBlank c = false) →
      (settings.validate = .ok () ↔
        ¬ ∃ resource, (settings.masks.apply resource).result = .error .emptyField) ∧
      ∀ invalid, settings.validate = .error invalid →
        ∃ before mask after, settings.masks = before ++ mask :: after ∧
          invalid = .noField before.length ∧
          (∀ earlier ∈ before, ∃ c ∈ earlier.field.toList, c ≠ '.') ∧
          (∀ c ∈ mask.field.toList, c = '.') ∧
          ∃ events, Policy.Run before .null events .null ∧
            (mask.apply .null).applied = .error .emptyField ∧
            settings.masks.apply .null = ⟨.error .emptyField, events⟩) ∧
      ((∀ c ∈ settings.name.toList, Text.isBlank c = true) →
        settings.validate = .error .blankName) := by
  refine ⟨fun hname => ?_, fun hblank => ?_⟩
  · have hname : Text.isAllBlank settings.name = false := by
      simpa [Text.isAllBlank] using hname
    refine ⟨Settings.validate_eq_ok_iff hname, fun invalid herror => ?_⟩
    rcases Settings.validate_cases hname with
      ⟨hvalid, -⟩ | ⟨before, mask, after, hmasks, hbefore, hmask, hfound⟩
    · rw [hvalid] at herror
      simp at herror
    · obtain ⟨events, hrun, hfails, hstops⟩ := Policy.apply_null_eq after hbefore hmask
      rw [hfound] at herror
      refine ⟨before, mask, after, hmasks, by simpa using herror.symm, ?_, hmask, events, hrun,
        hfails, by rw [hmasks, hstops]⟩
      intro earlier hmem
      simpa [Mask.Nameless] using hbefore earlier hmem
  · exact Settings.validate_of_blank (by simpa [Text.isAllBlank] using hblank)

/-- Masks of which the second and the third name no field. -/
def unnamedMasks : Settings :=
  { name := "billing", masks := [⟨"ssn", .remove⟩, ⟨"..", .null⟩, ⟨"", .hash⟩] }

theorem unnamedMasks_refused :
    unnamedMasks.validate = .error (.noField 1) ∧
      (∃ resource, (unnamedMasks.masks.apply resource).result = .error .emptyField) ∧
      (∃ before mask after, unnamedMasks.masks = before ++ mask :: after ∧
        before.length = 1 ∧ ∀ c ∈ mask.field.toList, c = '.') ∧
      { unnamedMasks with name := " \t" }.validate = .error .blankName := by
  have hname : ∃ c ∈ unnamedMasks.name.toList, Text.isBlank c = false :=
    ⟨'b', by decide +kernel, by decide⟩
  have hrefused : unnamedMasks.validate = .error (.noField 1) := by decide +kernel
  obtain ⟨hiff, hfirst⟩ := (validation_finds_failing_masks unnamedMasks).1 hname
  have hblank : ∀ c ∈ " \t".toList, Text.isBlank c = true :=
    List.all_eq_true.mp (by decide +kernel)
  refine ⟨hrefused, ?_, ?_, (validation_finds_failing_masks _).2 hblank⟩
  · by_contra hnone
    have hvalid := hiff.mpr hnone
    rw [hrefused] at hvalid
    simp at hvalid
  · obtain ⟨before, mask, after, hmasks, hindex, -, hdots, -⟩ := hfirst _ hrefused
    exact ⟨before, mask, after, hmasks, by simpa using hindex.symm, hdots⟩

end Clearance
