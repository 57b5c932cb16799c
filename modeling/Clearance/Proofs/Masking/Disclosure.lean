import Clearance.Proofs.Masking.AllOrNothing
import Clearance.Proofs.Masking.Remainder

/-!
# What the errors of a mask disclose

Errors of masks end up in logs, so they must not say what the mask would have hidden. What an error
may depend on, beside the mask, is its `Concern`: of a value without a text its kind, of a text
under a pattern of digits their number, of an address where its first at sign stands. **A mask
refuses a value by its concern with it and by nothing else** (`refuses_iff`), so values of the same
concern are refused with the same error.
-/

set_option autoImplicit false

namespace Clearance

/-- What a refusal may depend on. -/
inductive Concern where
  | nothing
  | kind (kind : UnmaskableKind)
  | digits (count : Nat)
  | address (fault : Option Mismatch)
  deriving DecidableEq

namespace Pattern

/-- What a pattern looks at to tell whether it fits a text. -/
def concern (pattern : Pattern) (text : String) : Concern :=
  match pattern with
  | .email => .address (addressFault? text)
  | .custom _ => .nothing
  | .ssn | .phone | .creditCard => .digits (digitCount text)

/-- Why the pattern does not fit a text of this concern. -/
def fault? (pattern : Pattern) : Concern → Option Mismatch
  | .address fault => fault
  | .digits count => pattern.digitShape?.bind fun shape =>
      if shape.accepts count then none else some (shape.mismatch count)
  | .nothing | .kind _ => none

variable {pattern : Pattern} {text : String} {reason : Mismatch}

theorem redactDigits_eq_error_iff {shape : DigitShape} (h : pattern.digitShape? = some shape) :
    Masking.redact pattern text.toList = .error reason ↔
      pattern.fault? (.digits (digitCount text)) = some reason := by
  rw [shape.redact_eq h, Masking.redactDigits, length_digitsOf, fault?, h, Option.bind_some]
  cases shape.accepts (digitCount text) with
  | false => simp
  | true => simp

theorem redact_eq_error_iff :
    Masking.redact pattern text.toList = .error reason ↔
      pattern.fault? (pattern.concern text) = some reason := by
  cases pattern with
  | email => exact redactEmail_eq_error_iff
  | custom replacement => simp [Masking.redact, concern, fault?]
  | ssn => exact redactDigits_eq_error_iff rfl
  | phone => exact redactDigits_eq_error_iff rfl
  | creditCard => exact redactDigits_eq_error_iff rfl

end Pattern

namespace Mask

/-- What a mask looks at to tell whether to refuse a value. -/
def concern (mask : Mask) (v : Value) : Concern :=
  match mask.strategy, v.maskableText with
  | .null, _ | .remove, _ => .nothing
  | _, .error kind => .kind kind
  | .redact pattern, .ok text => pattern.concern text
  | _, .ok _ => .nothing

/-- The error of a mask that meets a value of this concern, if it refuses it. -/
def complaint? (mask : Mask) (concern : Concern) : Option MaskError :=
  match concern, mask.strategy with
  | .kind kind, strategy => some (.unsupported mask.field kind strategy)
  | concern, .redact pattern =>
      (pattern.fault? concern).map (.patternMismatch mask.field pattern)
  | _, _ => none

variable {mask : Mask} {v w old : Value} {error : MaskError} {pattern : Pattern}

theorem concern_of_unmaskable {kind : UnmaskableKind} (h : mask.strategy.isStructural = false)
    (hk : old.Unmaskable kind) : mask.concern old = .kind kind := by
  have htext := Value.maskableText_eq_error_iff.mpr hk
  cases hs : mask.strategy with
  | null => exact absurd h (by simp [hs, Strategy.isStructural])
  | remove => exact absurd h (by simp [hs, Strategy.isStructural])
  | _ => simp only [concern, hs, htext]

theorem concern_of_redact {text : String} (h : mask.strategy = .redact pattern)
    (ht : old.HasText text) : mask.concern old = pattern.concern text := by
  simp only [concern, h, Value.maskableText_eq_ok_iff.mpr ht]

/-- Only redaction looks at a text before it masks it. -/
theorem concern_cases (mask : Mask) (old : Value) :
    (∃ kind, mask.strategy.isStructural = false ∧ old.Unmaskable kind) ∨
      (∃ pattern text, mask.strategy = .redact pattern ∧ old.HasText text) ∨
        mask.concern old = .nothing := by
  rcases Value.hasText_or_unmaskable old with ⟨text, ht⟩ | ⟨kind, hk⟩
  · refine .inr ?_
    cases hs : mask.strategy with
    | redact pattern => exact .inl ⟨pattern, text, rfl, ht⟩
    | _ => exact .inr (by simp only [concern, hs, Value.maskableText_eq_ok_iff.mpr ht])
  · cases hs : mask.strategy with
    | null => exact .inr (.inr (by simp only [concern, hs]))
    | remove => exact .inr (.inr (by simp only [concern, hs]))
    | _ => exact .inl ⟨kind, rfl, hk⟩

theorem complaint?_nothing (mask : Mask) : mask.complaint? .nothing = none := by
  cases hs : mask.strategy with
  | redact pattern => simp [complaint?, hs, Pattern.fault?]
  | _ => simp [complaint?, hs]

theorem complaint?_concern (h : mask.strategy = .redact pattern) (text : String) :
    mask.complaint? (pattern.concern text) =
      (pattern.fault? (pattern.concern text)).map (.patternMismatch mask.field pattern) := by
  cases pattern with
  | _ => simp only [complaint?, h, Pattern.concern]

/-- **A mask refuses a value by its concern with it.** -/
theorem refuses_iff :
    mask.Refuses old error ↔ mask.complaint? (mask.concern old) = some error := by
  constructor
  · intro h
    cases h with
    | unsupported hs hk => rw [concern_of_unmaskable hs hk, complaint?]
    | patternMismatch hp ht hr =>
      rw [concern_of_redact hp ht, complaint?_concern hp, Pattern.redact_eq_error_iff.mp hr]
      rfl
  · intro h
    rcases concern_cases mask old with ⟨kind, hs, hk⟩ | ⟨pattern, text, hp, ht⟩ | hnothing
    · rw [concern_of_unmaskable hs hk, complaint?] at h
      obtain rfl := Option.some.inj h
      exact .unsupported hs hk
    · rw [concern_of_redact hp ht, complaint?_concern hp, Option.map_eq_some_iff] at h
      obtain ⟨reason, hfault, rfl⟩ := h
      exact .patternMismatch hp ht (Pattern.redact_eq_error_iff.mpr hfault)
    · rw [hnothing, complaint?_nothing] at h
      exact absurd h (by simp)

/-- Where a mask fails, its error is for want of a field or of the concern with what is there. -/
theorem applied_eq_error_iff :
    (mask.apply v).applied = .error error ↔
      (mask.path = [] ∧ error = .emptyField) ∨
        (mask.path ≠ [] ∧ ∃ old, v.resolve mask.path = some old ∧
          mask.complaint? (mask.concern old) = some error) := by
  rw [applied_eq_iff]
  constructor
  · intro h
    cases h with
    | noField hp => exact .inl ⟨hp, rfl⟩
    | refused hne hr href => exact .inr ⟨hne, _, hr, refuses_iff.mp href⟩
  · rintro (⟨hp, rfl⟩ | ⟨hne, old, hr, hc⟩)
    · exact .noField hp
    · exact .refused hne hr (refuses_iff.mpr hc)

/-- **Redaction of digits and the errors of masks disclose a remainder only.** A pattern of digits
accepts a text exactly if it has as many decimal digits as the pattern asks for, and then leaves
its stars and the last four of these digits, which a slice of bytes that begins four bytes before
their end gives. So texts with as many digits and the same last four of them are treated alike, and
of rejected texts those with as many digits. A text that is rejected as an address is rejected for
the place of its first at sign. And a mask fails by its field and by its concern with what is at
its path, a kind, a count of digits or such a place, and so alike for values of one concern. -/
theorem redaction_and_errors_disclose_remainder :
    (∀ (pattern : Pattern) (shape : DigitShape), pattern.digitShape? = some shape →
      (∀ text masked, (Strategy.redact pattern).maskText text = .ok masked ↔
        shape.accepts (digitCount text) = true ∧ masked = shape.stars ++ lastFour text) ∧
      (∀ text refusal, (Strategy.redact pattern).maskText text = .error refusal ↔
        ¬ shape.accepts (digitCount text) = true ∧
          refusal = (pattern, shape.mismatch (digitCount text))) ∧
      (∀ text, shape.accepts (digitCount text) = true →
        (lastFour text).length = 4 ∧
          (digitText text).utf8ByteSize = digitCount text ∧
          sliceFrom? (digitText text) (digitCount text - 4) = some (lastFour text)) ∧
      (∀ text text', digitCount text = digitCount text' → lastFour text = lastFour text' →
        (Strategy.redact pattern).maskText text = (Strategy.redact pattern).maskText text') ∧
      ∀ text text', digitCount text = digitCount text' →
        ¬ shape.accepts (digitCount text) = true →
          (Strategy.redact pattern).maskText text = (Strategy.redact pattern).maskText text') ∧
    (∀ text refusal, (Strategy.redact .email).maskText text = .error refusal ↔
      ∃ reason, addressFault? text = some reason ∧ refusal = (.email, reason)) ∧
    (∀ (mask : Mask) (v : Value) (error : MaskError),
      (mask.apply v).applied = .error error ↔
        (mask.path = [] ∧ error = .emptyField) ∨
          (mask.path ≠ [] ∧ ∃ old, v.resolve mask.path = some old ∧
            mask.complaint? (mask.concern old) = some error)) ∧
    ∀ (mask : Mask) (v w old old' : Value) (error : MaskError),
      v.resolve mask.path = some old → w.resolve mask.path = some old' →
        mask.concern old = mask.concern old' →
          (mask.apply v).applied = .error error → (mask.apply w).applied = .error error := by
  refine ⟨?digits, ?email, fun mask v error => applied_eq_error_iff, ?alike⟩
  case digits =>
    intro pattern shape h
    refine ⟨?ok, ?error, ?slice, ?same, ?rejected⟩
    case ok =>
      intro text masked
      rw [DigitShape.maskText_eq h]
      split
      · next haccepts => simp [haccepts, eq_comm]
      · next hrejects => simp [hrejects]
    case error =>
      intro text refusal
      rw [DigitShape.maskText_eq h]
      split
      · next haccepts => simp [haccepts]
      · next hrejects => simp [hrejects, eq_comm]
    case slice =>
      intro text haccepts
      exact ⟨length_lastFour (DigitShape.four_le_of_accepts h haccepts),
        utf8ByteSize_digitText text, sliceFrom?_digitText text⟩
    case same =>
      intro text text' hcount hlast
      rw [DigitShape.maskText_eq h, DigitShape.maskText_eq h, hcount, hlast]
    case rejected =>
      intro text text' hcount hrejects
      rw [DigitShape.maskText_eq h, DigitShape.maskText_eq h, if_neg hrejects, ← hcount,
        if_neg hrejects]
  case email =>
    intro text refusal
    obtain ⟨pattern, reason⟩ := refusal
    rw [Strategy.maskText_eq_error_iff]
    constructor
    · rintro ⟨hp, hr⟩
      obtain rfl := Strategy.redact.inj hp
      exact ⟨reason, redactEmail_eq_error_iff.mp hr, rfl⟩
    · rintro ⟨found, hfault, heq⟩
      obtain ⟨rfl, rfl⟩ := Prod.mk.inj heq
      exact ⟨rfl, redactEmail_eq_error_iff.mpr hfault⟩
  case alike =>
    intro mask v w old old' error hv hw hsame hfails
    rw [applied_eq_error_iff] at hfails ⊢
    rcases hfails with hempty | ⟨hne, found, hr, hcomplaint⟩
    · exact .inl hempty
    · obtain rfl := Option.some.inj (hv.symm.trans hr)
      exact .inr ⟨hne, old', hw, hsame ▸ hcomplaint⟩

/-- Nine decimal digits among other characters, one of which is a digit of another script. -/
def separated : String := "٣ 123–45/6789"

def shortNumber (text : String) : Value := .object [("ssn", .text text)]

def ssnMask : Mask := ⟨"ssn", .redact .ssn⟩

theorem separated_remainder :
    (Strategy.redact .ssn).maskText separated = .ok "***-**-6789" ∧
      sliceFrom? (digitText separated) 5 = some "6789" ∧
      (Strategy.redact .ssn).maskText separated = (Strategy.redact .ssn).maskText "x123456789" ∧
      (Strategy.redact .ssn).maskText "1–2" = (Strategy.redact .ssn).maskText "34" ∧
      (Strategy.redact .email).maskText "john@" = .error (.email, .noDomain) ∧
      (ssnMask.apply (shortNumber "34")).applied =
        .error (.patternMismatch "ssn" .ssn (.ssnDigits 2)) := by
  obtain ⟨hdigits, hemail, hfails, halike⟩ := redaction_and_errors_disclose_remainder
  obtain ⟨hok, _, hslice, hsame, hrejected⟩ := hdigits .ssn _ rfl
  have hresolve : ∀ text, (shortNumber text).resolve ssnMask.path = some (.text text) := by
    intro text
    rfl
  have hother : (ssnMask.apply (shortNumber "1–2")).applied =
      .error (.patternMismatch "ssn" .ssn (.ssnDigits 2)) :=
    (hfails _ _ _).mpr (.inr ⟨by decide, _, hresolve _, by rfl⟩)
  refine ⟨(hok _ _).mpr ⟨by rfl, by rfl⟩, (hslice separated (by rfl)).2.2,
    hsame _ _ (by rfl) (by rfl), hrejected _ _ (by rfl) (by decide),
    (hemail _ _).mpr ⟨_, by rfl, rfl⟩, halike ssnMask _ _ _ _ _ (hresolve _) (hresolve _) ?_ hother⟩
  rfl

end Mask
end Clearance
