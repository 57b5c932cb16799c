import Mathlib.Data.String.Basic
import Clearance.Masking.Redaction

/-!
# What redaction leaves of a text

Redaction looks at a text through a narrow opening. The patterns of digits see the decimal digits
in it, and of these **only how many there are and which are the last four**; the pattern of an
address sees where the first at sign stands. This file says what each of them makes of what it
sees, and what it complains of.

The last four digits are also what a slice of bytes gives. Decimal digits take one byte each
(`utf8ByteSize_digits`), so a slice of the digits that starts four bytes before their end is in
range and starts at a character (`sliceFrom?_digitText`).
-/

set_option autoImplicit false

namespace Clearance

/-! ## Digits of a text -/

/-- The decimal digits of a text, one after the other. -/
def digitText (text : String) : String := String.ofList (Masking.digitsOf text.toList)

def digitCount (text : String) : Nat := (digitText text).length

/-- The last four of the digits of a text, in order; all of them if there are fewer. -/
def lastFour (text : String) : String :=
  String.ofList (Masking.takeLast 4 (Masking.digitsOf text.toList))

/-- The slice of a text from a byte on, if that is in range and starts at a character. -/
def sliceFrom? (text : String) (byte : Nat) : Option String :=
  if h : String.Pos.Raw.IsValid text ⟨byte⟩ then some (text.sliceFrom (text.pos ⟨byte⟩ h)).copy
  else none

theorem length_digitsOf (text : String) :
    (Masking.digitsOf text.toList).length = digitCount text := by
  rw [digitCount, digitText, String.length_ofList]

theorem length_lastFour {text : String} (h : 4 ≤ digitCount text) : (lastFour text).length = 4 := by
  rw [lastFour, String.length_ofList, Masking.takeLast, List.length_drop, length_digitsOf]
  omega

theorem utf8Size_of_isDigit {c : Char} (h : c.isDigit = true) : c.utf8Size = 1 := by
  simp only [Char.isDigit, Bool.and_eq_true, decide_eq_true_eq] at h
  exact Char.utf8Size_eq_one_iff.mpr (UInt32.le_trans h.2 (by decide))

theorem utf8ByteSize_of_forall {chars : List Char} (h : ∀ c ∈ chars, c.utf8Size = 1) :
    (String.ofList chars).utf8ByteSize = chars.length := by
  rw [String.utf8ByteSize_ofList]
  induction chars with
  | nil => rfl
  | cons c rest ih =>
    rw [List.forall_mem_cons] at h
    rw [String.utf8Len_cons, ih h.2, h.1, List.length_cons]

/-- Decimal digits take one byte each. -/
theorem utf8ByteSize_digits {digits : List Char} (h : ∀ c ∈ digits, c.isDigit = true) :
    (String.ofList digits).utf8ByteSize = digits.length :=
  utf8ByteSize_of_forall fun c hmem => utf8Size_of_isDigit (h c hmem)

theorem isDigit_of_mem_digitsOf {text : List Char} {c : Char} (h : c ∈ Masking.digitsOf text) :
    c.isDigit = true :=
  (List.mem_filter.mp h).2

theorem utf8ByteSize_digitText (text : String) :
    (digitText text).utf8ByteSize = digitCount text := by
  rw [digitText, utf8ByteSize_digits fun _ => isDigit_of_mem_digitsOf, length_digitsOf]

/-- A character ends where the first of two texts does. -/
theorem isValid_append (front last : String) :
    String.Pos.Raw.IsValid (front ++ last) ⟨front.utf8ByteSize⟩ :=
  String.Pos.Raw.isValid_iff_exists_append.mpr ⟨front, last, rfl, rfl⟩

theorem sliceFrom?_append (front last : String) :
    sliceFrom? (front ++ last) front.utf8ByteSize = some last := by
  have h := isValid_append front last
  have hsplits : ((front ++ last).pos ⟨front.utf8ByteSize⟩ h).Splits front last := ⟨rfl, rfl⟩
  rw [sliceFrom?, dif_pos h, hsplits.copy_sliceFrom_eq]

/-- What begins four bytes before the end of the digits are the last four of them. -/
theorem sliceFrom?_digitText (text : String) :
    sliceFrom? (digitText text) (digitCount text - 4) = some (lastFour text) := by
  rw [← length_digitsOf, digitText, lastFour, Masking.takeLast]
  have hdigits : ∀ c ∈ Masking.digitsOf text.toList, c.isDigit = true := fun _ =>
    isDigit_of_mem_digitsOf
  generalize Masking.digitsOf text.toList = digits at hdigits ⊢
  have hfront : ∀ c ∈ digits.take (digits.length - 4), c.isDigit = true := fun c hmem =>
    hdigits c (List.mem_of_mem_take hmem)
  have hslice := sliceFrom?_append (String.ofList (digits.take (digits.length - 4)))
    (String.ofList (digits.drop (digits.length - 4)))
  rwa [← String.ofList_append, List.take_append_drop, utf8ByteSize_digits hfront,
    List.length_take_of_le (Nat.sub_le _ _)] at hslice

/-! ## Patterns of digits -/

/-- A pattern of digits: what it puts in front of the last four, how many digits it asks for, and
what it says of any other count. -/
structure DigitShape where
  stars : String
  fewest : Nat
  most : Option Nat
  mismatch : Nat → Mismatch

/-- The patterns that look at digits: nine, ten or more, thirteen to nineteen. -/
def Pattern.digitShape? : Pattern → Option DigitShape
  | .ssn => some ⟨"***-**-", 9, some 9, .ssnDigits⟩
  | .phone => some ⟨"***-***-", 10, none, .phoneDigits⟩
  | .creditCard => some ⟨"****-****-****-", 13, some 19, .cardDigits⟩
  | .email | .custom _ => none

def DigitShape.accepts (shape : DigitShape) (count : Nat) : Bool :=
  decide (shape.fewest ≤ count) && shape.most.all fun most => decide (count ≤ most)

namespace DigitShape

variable {shape : DigitShape} {pattern : Pattern} {text : String}

theorem accepts_iff {count : Nat} :
    shape.accepts count = true ↔
      shape.fewest ≤ count ∧ ∀ most, shape.most = some most → count ≤ most := by
  rw [accepts, Bool.and_eq_true, decide_eq_true_eq, Option.all_eq_true]
  simp only [decide_eq_true_eq]

/-- There are four digits to keep in whatever is accepted. -/
theorem four_le_of_accepts (h : pattern.digitShape? = some shape) {count : Nat}
    (haccepts : shape.accepts count = true) : 4 ≤ count := by
  have hfewest := (accepts_iff.mp haccepts).1
  cases pattern with
  | email => exact absurd h (by simp [Pattern.digitShape?])
  | custom _ => exact absurd h (by simp [Pattern.digitShape?])
  | _ =>
    obtain rfl := Option.some.inj h
    exact Nat.le_trans (by decide) hfewest

theorem redact_eq (h : pattern.digitShape? = some shape) (text : List Char) :
    Masking.redact pattern text =
      Masking.redactDigits shape.stars shape.accepts shape.mismatch text := by
  cases pattern with
  | ssn =>
    obtain rfl := Option.some.inj h
    have haccepts : accepts ⟨"***-**-", 9, some 9, .ssnDigits⟩ = (· == 9) := by
      funext count
      rw [Bool.eq_iff_iff, accepts_iff, beq_iff_eq]
      simp only [Option.some.injEq, forall_eq']
      omega
    rw [haccepts]
    rfl
  | phone =>
    obtain rfl := Option.some.inj h
    have haccepts : accepts ⟨"***-***-", 10, none, .phoneDigits⟩ = (10 ≤ ·) := by
      funext count
      simp [accepts]
    rw [haccepts]
    rfl
  | creditCard =>
    obtain rfl := Option.some.inj h
    rfl
  | email => exact absurd h (by simp [Pattern.digitShape?])
  | custom _ => exact absurd h (by simp [Pattern.digitShape?])

/-- **A pattern of digits keeps the last four or tells their number.** -/
theorem maskText_eq (h : pattern.digitShape? = some shape) (text : String) :
    (Strategy.redact pattern).maskText text =
      if shape.accepts (digitCount text) then .ok (shape.stars ++ lastFour text)
      else .error (pattern, shape.mismatch (digitCount text)) := by
  rw [Strategy.maskText, redact_eq h, Masking.redactDigits, length_digitsOf]
  cases shape.accepts (digitCount text) with
  | false => rfl
  | true =>
    simp only [if_true]
    rw [lastFour, String.ofList_append, String.ofList_toList]

end DigitShape

/-! ## Addresses -/

/-- What is wrong with a text as an address, by its first at sign. -/
def addressFault? (text : String) : Option Mismatch :=
  if '@' ∉ text.toList then some .noAtSign
  else if text.toList.idxOf '@' = 0 then some .noLocalPart
  else if text.toList.idxOf '@' + 1 = text.length then some .noDomain
  else none

/-- What stands before and after the first at sign, if there is one. -/
theorem span_atSign {front : List Char} (h : '@' ∉ front) (rest : List Char)
    (hrest : ∀ c ∈ rest.head?, c = '@') :
    (front ++ rest).takeWhile (fun c => decide (c ≠ '@')) = front ∧
      (front ++ rest).dropWhile (fun c => decide (c ≠ '@')) = rest := by
  have hfront : ∀ c ∈ front, decide (c ≠ '@') = true := by
    intro c hmem
    rw [decide_eq_true_eq]
    rintro rfl
    exact h hmem
  rw [List.takeWhile_append_of_pos hfront, List.dropWhile_append_of_pos hfront]
  cases rest with
  | nil => exact ⟨List.append_nil _, rfl⟩
  | cons c domain =>
    obtain rfl := hrest c rfl
    exact ⟨by simp, by simp⟩

theorem redactEmail_of_notMem {text : List Char} (h : '@' ∉ text) :
    Masking.redactEmail text = .error .noAtSign := by
  obtain ⟨_, hdrop⟩ := span_atSign h [] (by simp)
  rw [List.append_nil] at hdrop
  rw [Masking.redactEmail, hdrop]

/-- The first at sign splits an address, also if there are others behind it. -/
theorem redactEmail_append {front : List Char} (h : '@' ∉ front) (domain : List Char) :
    Masking.redactEmail (front ++ '@' :: domain) =
      match front, domain with
      | [], _ => .error .noLocalPart
      | _ :: _, [] => .error .noDomain
      | first :: _, domain => .ok (first :: "***@".toList ++ domain) := by
  obtain ⟨htake, hdrop⟩ := span_atSign h ('@' :: domain) (by simp)
  rw [Masking.redactEmail, htake, hdrop]
  cases front with
  | nil => rfl
  | cons first middle =>
    cases domain with
    | nil => rfl
    | cons c rest => rfl

/-- **Redaction refuses an address for its fault.** -/
theorem redactEmail_eq_error_iff {text : String} {reason : Mismatch} :
    Masking.redactEmail text.toList = .error reason ↔ addressFault? text = some reason := by
  rw [addressFault?, ← String.length_toList]
  generalize text.toList = chars
  by_cases hmem : '@' ∈ chars
  · obtain ⟨front, domain, rfl, hfront⟩ := List.eq_append_cons_of_mem hmem
    have hidx : (front ++ '@' :: domain).idxOf '@' = front.length := by
      rw [List.idxOf_append_of_notMem hfront, List.idxOf_cons_self, Nat.add_zero]
    rw [redactEmail_append hfront, if_neg (not_not.mpr hmem), hidx]
    cases front with
    | nil => simp
    | cons first middle =>
      cases domain with
      | nil => simp
      | cons c rest => simp
  · rw [redactEmail_of_notMem hmem, if_pos hmem]
    simp

end Clearance
