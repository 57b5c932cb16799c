import Clearance.Masking.Policy
import Clearance.Proofs.Path.Location

/-!
# What a mask does to the value at its place

Apart from where it stands in a resource, a value is refused by a mask, taken away or replaced.
`Refuses` and `Replaces` say when and by what, in terms of the text that a value has, if it has
one, and of what the strategy makes of a text. `Mask.edit` is the edit that comes of it, and
**there are no more than these three cases** (`edit_cases`); later files split on them and look
into no strategy.
-/

set_option autoImplicit false

namespace Clearance

/-! ## Texts -/

namespace Value

/-- The text of a value: a string is its own, and a number has the text that it is written as. -/
inductive HasText : Value → String → Prop where
  | text (s : String) : HasText (.text s) s
  | number (n : Number) : HasText (.number n) n.text

/-- A value that has no text, by its kind. -/
inductive Unmaskable : Value → UnmaskableKind → Prop where
  | null : Unmaskable .null .null
  | bool (b : Bool) : Unmaskable (.bool b) .boolean
  | list (items : List Value) : Unmaskable (.list items) .array
  | object (fields : List (String × Value)) : Unmaskable (.object fields) .object

theorem maskableText_eq_ok_iff {v : Value} {s : String} :
    v.maskableText = .ok s ↔ v.HasText s := by
  constructor
  · intro h
    cases v with
    | text t => exact Except.ok.inj h ▸ .text t
    | number n => exact Except.ok.inj h ▸ .number n
    | _ => exact absurd h (by simp [maskableText])
  · intro h
    cases h with
    | text s => rfl
    | number n => rfl

theorem maskableText_eq_error_iff {v : Value} {kind : UnmaskableKind} :
    v.maskableText = .error kind ↔ v.Unmaskable kind := by
  constructor
  · intro h
    cases v with
    | null => exact Except.error.inj h ▸ .null
    | bool b => exact Except.error.inj h ▸ .bool b
    | list items => exact Except.error.inj h ▸ .list items
    | object fields => exact Except.error.inj h ▸ .object fields
    | _ => exact absurd h (by simp [maskableText])
  · intro h
    cases h with
    | null => rfl
    | bool b => rfl
    | list items => rfl
    | object fields => rfl

theorem hasText_or_unmaskable (v : Value) : (∃ s, v.HasText s) ∨ ∃ kind, v.Unmaskable kind := by
  cases h : v.maskableText with
  | ok s => exact .inl ⟨s, maskableText_eq_ok_iff.mp h⟩
  | error kind => exact .inr ⟨kind, maskableText_eq_error_iff.mp h⟩

end Value

/-- Redaction is the one strategy that can fail on a text, and it fails as its pattern does. -/
theorem Strategy.maskText_eq_error_iff {strategy : Strategy} {s : String} {pattern : Pattern}
    {reason : Mismatch} :
    strategy.maskText s = .error (pattern, reason) ↔
      strategy = .redact pattern ∧ Masking.redact pattern s.toList = .error reason := by
  cases strategy with
  | redact p =>
    rw [maskText]
    cases hr : Masking.redact p s.toList with
    | ok masked =>
      constructor
      · intro h
        exact absurd h (by simp)
      · rintro ⟨hp, hr'⟩
        obtain rfl := Strategy.redact.inj hp
        exact absurd (hr.symm.trans hr') (by simp)
    | error found =>
      constructor
      · intro h
        obtain ⟨rfl, rfl⟩ := Prod.mk.inj (Except.error.inj h)
        exact ⟨rfl, hr⟩
      · rintro ⟨hp, hr'⟩
        obtain rfl := Strategy.redact.inj hp
        obtain rfl := Except.error.inj (hr.symm.trans hr')
        rfl
  | _ => simp [maskText]

/-! ## Values under a mask -/

namespace Mask

variable {mask : Mask} {old new : Value} {error : MaskError} {change : Edit}

/-- What a mask puts in place of a value: null if that is its strategy, else the masked text. -/
inductive Replaces (mask : Mask) : Value → Value → Prop where
  | null {old : Value} (h : mask.strategy = .null) : Replaces mask old .null
  | text {old : Value} {s masked : String} (h : mask.strategy.isStructural = false)
      (ht : old.HasText s) (hm : mask.strategy.maskText s = .ok masked) :
      Replaces mask old (.text masked)

/-- Why a mask refuses a value. -/
inductive Refuses (mask : Mask) : Value → MaskError → Prop where
  | unsupported {old : Value} {kind : UnmaskableKind} (h : mask.strategy.isStructural = false)
      (hk : old.Unmaskable kind) : Refuses mask old (.unsupported mask.field kind mask.strategy)
  | patternMismatch {old : Value} {s : String} {pattern : Pattern} {reason : Mismatch}
      (h : mask.strategy = .redact pattern) (ht : old.HasText s)
      (hr : Masking.redact pattern s.toList = .error reason) :
      Refuses mask old (.patternMismatch mask.field pattern reason)

/-- The edit that a mask makes of a value, whatever the place. -/
def edit (mask : Mask) (old : Value) : Except MaskError Edit :=
  match mask.strategy with
  | .remove => .ok .drop
  | _ => (mask.replacement old).map .write

theorem edit_of_unmaskable {kind : UnmaskableKind} (h : mask.strategy.isStructural = false)
    (hk : old.Unmaskable kind) :
    mask.edit old = .error (.unsupported mask.field kind mask.strategy) := by
  have htext := Value.maskableText_eq_error_iff.mpr hk
  cases hs : mask.strategy with
  | null => exact absurd h (by simp [hs, Strategy.isStructural])
  | remove => exact absurd h (by simp [hs, Strategy.isStructural])
  | _ => simp only [edit, replacement, hs, htext, Except.map]

theorem edit_of_hasText {s : String} (h : mask.strategy.isStructural = false)
    (ht : old.HasText s) :
    mask.edit old = (mask.maskText s).map fun masked => .write (.text masked) := by
  have htext := Value.maskableText_eq_ok_iff.mpr ht
  cases hs : mask.strategy with
  | null => exact absurd h (by simp [hs, Strategy.isStructural])
  | remove => exact absurd h (by simp [hs, Strategy.isStructural])
  | _ =>
    simp only [edit, replacement, hs, htext]
    cases mask.maskText s with
    | ok masked => rfl
    | error error => rfl

theorem edit_of_remove (h : mask.strategy = .remove) (old : Value) : mask.edit old = .ok .drop := by
  rw [edit, h]

theorem edit_of_refuses (h : mask.Refuses old error) : mask.edit old = .error error := by
  cases h with
  | unsupported hs hk => exact edit_of_unmaskable hs hk
  | patternMismatch hp ht hr =>
    have hm := Strategy.maskText_eq_error_iff.mpr ⟨hp, hr⟩
    have hs : mask.strategy.isStructural = false := by rw [hp]; rfl
    rw [edit_of_hasText hs ht, maskText, hm]
    rfl

theorem edit_of_replaces (h : mask.Replaces old new) : mask.edit old = .ok (.write new) := by
  cases h with
  | null hs => simp only [edit, replacement, hs, Except.map]
  | text hs ht hm =>
    rw [edit_of_hasText hs ht, maskText, hm]
    rfl

/-- **A mask refuses a value, takes it away or replaces it**, and its edit is accordingly. -/
theorem edit_cases (mask : Mask) (old : Value) :
    (∃ error, mask.Refuses old error ∧ mask.edit old = .error error) ∨
      (mask.strategy = .remove ∧ mask.edit old = .ok .drop) ∨
        ∃ new, mask.Replaces old new ∧ mask.edit old = .ok (.write new) := by
  by_cases hs : mask.strategy.isStructural = false
  · rcases Value.hasText_or_unmaskable old with ⟨s, ht⟩ | ⟨kind, hk⟩
    · cases hm : mask.strategy.maskText s with
      | ok masked =>
        have hreplaces : mask.Replaces old (.text masked) := .text hs ht hm
        exact .inr (.inr ⟨_, hreplaces, edit_of_replaces hreplaces⟩)
      | error refusal =>
        obtain ⟨pattern, reason⟩ := refusal
        obtain ⟨hp, hr⟩ := Strategy.maskText_eq_error_iff.mp hm
        have hrefuses : mask.Refuses old _ := .patternMismatch hp ht hr
        exact .inl ⟨_, hrefuses, edit_of_refuses hrefuses⟩
    · have hrefuses : mask.Refuses old _ := .unsupported hs hk
      exact .inl ⟨_, hrefuses, edit_of_refuses hrefuses⟩
  · -- Only two strategies are left, and neither looks at the value.
    cases hstrategy : mask.strategy with
    | null => exact .inr (.inr ⟨.null, .null hstrategy, edit_of_replaces (.null hstrategy)⟩)
    | remove => exact .inr (.inl ⟨rfl, edit_of_remove hstrategy old⟩)
    | _ => exact absurd (by rw [hstrategy]; rfl) hs

/-! ## What the edit of a mask is like -/

theorem eq_drop_or_write (h : mask.edit old = .ok change) :
    (change = .drop ∧ mask.strategy = .remove) ∨
      ∃ new, change = .write new ∧ mask.Replaces old new := by
  rcases edit_cases mask old with ⟨_, _, he⟩ | ⟨hs, he⟩ | ⟨new, hr, he⟩
  · exact absurd (he.symm.trans h) (by simp)
  · exact .inl ⟨(Except.ok.inj (he.symm.trans h)).symm, hs⟩
  · exact .inr ⟨new, (Except.ok.inj (he.symm.trans h)).symm, hr⟩

theorem Replaces.isScalar (h : mask.Replaces old new) : new.IsScalar := by
  intro segment
  cases h with
  | null _ => rfl
  | text _ _ _ => rfl

theorem isScalar_of_edit (h : mask.edit old = .ok change) :
    ∀ new, change = .write new → new.IsScalar := by
  rintro new rfl
  rcases eq_drop_or_write h with ⟨hdrop, _⟩ | ⟨written, hw, hr⟩
  · exact absurd hdrop (by simp)
  · rw [Edit.write.inj hw]
    exact hr.isScalar

end Mask
end Clearance
