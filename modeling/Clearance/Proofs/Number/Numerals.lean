import Mathlib.Data.List.Induction
import Clearance.Path
import Clearance.Proofs.Number.Written

/-!
# Texts that are read as a number

A number is read from more texts than it is written as. Digits are read wherever there is one or
more of them and nothing else, and **apart from zeros in front they are the digits that the number
is written with** (`isDecimal_iff`): there is no limit on the zeros, and no two numbers have a text
in common. A key that stands for an index, a `Numeral`, may have one plus sign before the digits.

The value of a numeral is exact, however long it is. Read into 64 bits it is that value or nothing
(`unsigned?_eq`), never another one.
-/

set_option autoImplicit false

namespace Clearance
namespace Number

/-- Decimal digits, one or more, and the number that they stand for. -/
structure IsDecimal (digits : List Char) (n : Nat) : Prop where
  ne_nil : digits ≠ []
  isDigit : ∀ c ∈ digits, c.isDigit = true
  value : Nat.ofDigitChars 10 digits 0 = n

variable {digits text : List Char} {n : Nat} {c : Char}

theorem natural?_eq_some_iff : natural? text = some n ↔ IsDecimal text n := by
  rw [natural?]
  constructor
  · intro h
    obtain ⟨⟨hne, hdigits⟩, hvalue⟩ := Option.ite_none_right_eq_some.mp h
    exact ⟨hne, List.all_eq_true.mp hdigits, Option.some.inj hvalue⟩
  · intro h
    rw [if_pos ⟨h.ne_nil, List.all_eq_true.mpr h.isDigit⟩, h.value]

theorem isDecimal_toDigits (n : Nat) : IsDecimal (Nat.toDigits 10 n) n :=
  natural?_eq_some_iff.mp (natural?_toDigits n)

/-! ## Zeros in front -/

theorem exists_digitChar_of_isDigit (h : c.isDigit = true) :
    ∃ digit < 10, c = Nat.digitChar digit := by
  obtain ⟨hlow, hhigh⟩ := Char.isDigit_iff_toNat.mp h
  have hlow : 48 ≤ c.toNat := hlow
  have hhigh : c.toNat ≤ 57 := hhigh
  refine ⟨c.toNat - 48, by omega, Char.toNat_inj.mp ?_⟩
  rw [Nat.toNat_digitChar_of_lt_ten (by omega)]
  omega

theorem ofDigitChars_concat {digit : Nat} (h : digit < 10) (front : List Char) :
    Nat.ofDigitChars 10 (front ++ [Nat.digitChar digit]) 0 =
      10 * Nat.ofDigitChars 10 front 0 + digit := by
  rw [Nat.ofDigitChars_append, Nat.ofDigitChars_cons_digitChar_of_lt_ten h, Nat.ofDigitChars_nil]

/-- Zeros in front do not count. -/
theorem isDecimal_zeros (zeros n : Nat) :
    IsDecimal (List.replicate zeros '0' ++ Nat.toDigits 10 n) n where
  ne_nil := List.append_ne_nil_of_right_ne_nil _ Nat.toDigits_ne_nil
  isDigit := by
    intro c hmem
    rcases List.mem_append.mp hmem with hzero | hdigit
    · rw [List.eq_of_mem_replicate hzero]
      rfl
    · exact isDigit_of_mem_digits hdigit
  value := by
    rw [Nat.ofDigitChars_append, Nat.ofDigitChars_replicate_zero, Nat.mul_zero,
      Nat.ofDigitChars_ten_toDigits]

/-- The induction takes the digits from the end, as they are written. -/
theorem exists_zeros (hne : digits ≠ []) (h : ∀ c ∈ digits, c.isDigit = true) :
    ∃ zeros, digits =
      List.replicate zeros '0' ++ Nat.toDigits 10 (Nat.ofDigitChars 10 digits 0) := by
  induction digits using List.reverseRecOn with
  | nil => exact absurd rfl hne
  | append_singleton front c ih =>
    obtain ⟨digit, hdigit, rfl⟩ := exists_digitChar_of_isDigit (h c (by simp))
    rw [ofDigitChars_concat hdigit]
    by_cases hnil : front = []
    · subst hnil
      refine ⟨0, ?_⟩
      rw [Nat.ofDigitChars_nil, Nat.mul_zero, Nat.zero_add, Nat.toDigits_of_lt_base hdigit]
      rfl
    · obtain ⟨zeros, hfront⟩ := ih hnil fun c hmem => h c (List.mem_append_left _ hmem)
      generalize Nat.ofDigitChars 10 front 0 = value at hfront ⊢
      subst hfront
      rcases Nat.eq_zero_or_pos value with hzero | hpos
      · -- All in front are zeros, the digit of the zero that they stand for included.
        subst hzero
        refine ⟨zeros + 1, ?_⟩
        rw [Nat.mul_zero, Nat.zero_add, Nat.toDigits_of_lt_base hdigit, Nat.toDigits_zero,
          List.replicate_succ']
      · refine ⟨zeros, ?_⟩
        rw [← Nat.toDigits_append_toDigits (by decide) hpos hdigit,
          Nat.toDigits_of_lt_base hdigit, List.append_assoc]

/-- **Digits stand for a number exactly if they are its own digits behind some zeros.** -/
theorem isDecimal_iff :
    IsDecimal digits n ↔ ∃ zeros, digits = List.replicate zeros '0' ++ Nat.toDigits 10 n := by
  constructor
  · intro h
    obtain ⟨zeros, hzeros⟩ := exists_zeros h.ne_nil h.isDigit
    rw [h.value] at hzeros
    exact ⟨zeros, hzeros⟩
  · rintro ⟨zeros, rfl⟩
    exact isDecimal_zeros zeros n

/-! ## Numerals -/

/-- Decimal digits, behind a plus sign or none, and the number that they stand for. -/
inductive Numeral : List Char → Nat → Prop where
  | bare {digits : List Char} {n : Nat} (h : IsDecimal digits n) : Numeral digits n
  | plus {digits : List Char} {n : Nat} (h : IsDecimal digits n) : Numeral ('+' :: digits) n

/-- The numerals of a number are its own digits with zeros in front, any number of them, and these
with a plus sign in front. -/
theorem numeral_iff :
    Numeral text n ↔
      ∃ zeros, text = List.replicate zeros '0' ++ Nat.toDigits 10 n ∨
        text = '+' :: (List.replicate zeros '0' ++ Nat.toDigits 10 n) := by
  constructor
  · intro h
    cases h with
    | bare h =>
      obtain ⟨zeros, hzeros⟩ := isDecimal_iff.mp h
      exact ⟨zeros, .inl hzeros⟩
    | plus h =>
      obtain ⟨zeros, hzeros⟩ := isDecimal_iff.mp h
      exact ⟨zeros, .inr (by rw [hzeros])⟩
  · rintro ⟨zeros, rfl | rfl⟩
    · exact .bare (isDecimal_zeros zeros n)
    · exact .plus (isDecimal_zeros zeros n)

theorem not_isDecimal_plus : ¬ IsDecimal ('+' :: digits) n := by
  intro h
  exact absurd (h.isDigit '+' List.mem_cons_self) (by decide)

theorem index?_eq_some_iff : index? text = some n ↔ Numeral text n := by
  unfold index?
  split
  · rw [natural?_eq_some_iff]
    constructor
    · exact .plus
    · intro h
      cases h with
      | bare h => exact absurd h not_isDecimal_plus
      | plus h => exact h
  · next hplus =>
    rw [natural?_eq_some_iff]
    constructor
    · exact .bare
    · intro h
      cases h with
      | bare h => exact h
      | plus h => exact absurd rfl (hplus _)

theorem index?_toString (n : Nat) : index? (toString n).toList = some n := by
  refine index?_eq_some_iff.mpr (.bare ?_)
  rw [Nat.toString_eq_ofList_toDigits, String.toList_ofList]
  exact isDecimal_toDigits n

/-- **Reading into 64 bits gives the index or nothing.** -/
theorem unsigned?_eq (text : List Char) : unsigned? text = (index? text).filter fitsUnsigned := by
  cases text with
  | nil => rfl
  | cons c digits =>
    by_cases hc : c = '+'
    · subst hc
      rfl
    · simp [unsigned?, index?, hc]

end Number
end Clearance
