import Clearance.Number.Layout
import Clearance.Number.Reading
import Clearance.Text.Blank

/-!
# Numbers as they are written

A natural number is written as its digits, and an integer with a minus in front if it is below
zero. **What is written reads back** (`natural?_toDigits`, `signed?_toString`), an integer only if
64 bits hold it. And something is always written: no number, not even a float that no decimal was
found for, is text of blanks alone (`visible_toString`, `Layout.visible_plain`).
-/

set_option autoImplicit false

namespace Clearance
namespace Number

theorem isDigit_of_mem_digits {n : Nat} {c : Char} (h : c ∈ Nat.toDigits 10 n) :
    c.isDigit = true := Nat.isDigit_of_mem_toDigits (by decide) (by decide) h

theorem notMem_digits {n : Nat} {c : Char} (h : c.isDigit = false) : c ∉ Nat.toDigits 10 n :=
  fun hmem => absurd (isDigit_of_mem_digits hmem) (by simp [h])

theorem natural?_toDigits (n : Nat) : natural? (Nat.toDigits 10 n) = some n := by
  rw [natural?, if_pos ⟨Nat.toDigits_ne_nil, List.all_eq_true.mpr fun _ => isDigit_of_mem_digits⟩,
    Nat.ofDigitChars_ten_toDigits]

theorem sign_of_isDigit {text : List Char} (h : ∀ c ∈ text, c.isDigit = true) :
    sign text = (false, text) := by
  unfold sign
  split
  · exact absurd (h '-' List.mem_cons_self) (by decide)
  · exact absurd (h '+' List.mem_cons_self) (by decide)
  · rfl

theorem toList_toString_ofNat (n : Nat) : (toString (Int.ofNat n)).toList = Nat.toDigits 10 n := by
  rw [show toString (Int.ofNat n) = toString n from rfl]
  simp

theorem toList_toString_negSucc (n : Nat) :
    (toString (Int.negSucc n)).toList = '-' :: Nat.toDigits 10 (n + 1) := by
  rw [show toString (Int.negSucc n) = "-" ++ toString (n + 1) from rfl]
  simp

theorem exists_cons_toString (n : Int) :
    ∃ c rest, (toString n).toList = c :: rest ∧ (c = '-' ∨ c.isDigit = true) := by
  cases n with
  | ofNat n =>
    obtain ⟨c, rest, hcons⟩ := List.exists_cons_of_ne_nil (Nat.toDigits_ne_nil (b := 10) (n := n))
    refine ⟨c, rest, by rw [toList_toString_ofNat, hcons], .inr ?_⟩
    exact isDigit_of_mem_digits (hcons ▸ List.mem_cons_self)
  | negSucc n => exact ⟨'-', _, toList_toString_negSucc n, .inl rfl⟩

theorem signed?_toString {n : Int} (h : fitsSigned n = true) :
    signed? (toString n).toList = some n := by
  cases n with
  | ofNat n =>
    rw [toList_toString_ofNat, signed?, sign_of_isDigit fun _ => isDigit_of_mem_digits]
    simp only [natural?_toDigits, Option.map_some]
    exact Option.filter_eq_some_iff.mpr ⟨rfl, h⟩
  | negSucc n =>
    rw [toList_toString_negSucc, signed?, sign]
    simp only [natural?_toDigits, Option.map_some]
    exact Option.filter_eq_some_iff.mpr ⟨rfl, h⟩

theorem fitsSigned_of_signed? {text : List Char} {n : Int} (h : signed? text = some n) :
    fitsSigned n = true := (Option.filter_eq_some_iff.mp h).2

end Number

/-! ## Something is written -/

/-- There is something to be seen of a text: not all of it is blank. -/
def Text.Visible (text : List Char) : Prop := ∃ c ∈ text, isBlank c = false

namespace Text

theorem isBlank_of_isDigit {c : Char} (h : c.isDigit = true) : isBlank c = false := by
  have hlow : 48 ≤ c.toNat := (Char.isDigit_iff_toNat.mp h).1
  have hhigh : c.toNat ≤ 57 := (Char.isDigit_iff_toNat.mp h).2
  simp only [isBlank, Bool.or_eq_false_iff, Bool.and_eq_false_iff, decide_eq_false_iff_not,
    beq_eq_false_iff_ne]
  omega

theorem visible_of_isDigit {text : List Char} (hne : text ≠ [])
    (h : ∀ c ∈ text, c.isDigit = true) : Visible text := by
  obtain ⟨c, hmem⟩ := List.exists_mem_of_ne_nil text hne
  exact ⟨c, hmem, isBlank_of_isDigit (h c hmem)⟩

theorem Visible.append_left {first : List Char} (h : Visible first) (second : List Char) :
    Visible (first ++ second) := by
  obtain ⟨c, hmem, hc⟩ := h
  exact ⟨c, List.mem_append_left _ hmem, hc⟩

theorem Visible.append_right {second : List Char} (h : Visible second) (first : List Char) :
    Visible (first ++ second) := by
  obtain ⟨c, hmem, hc⟩ := h
  exact ⟨c, List.mem_append_right _ hmem, hc⟩

end Text

namespace Number

theorem visible_toString (n : Int) : Text.Visible (toString n).toList := by
  obtain ⟨c, rest, hcons, hc⟩ := exists_cons_toString n
  refine ⟨c, by rw [hcons]; exact List.mem_cons_self, ?_⟩
  rcases hc with rfl | hdigit
  · decide
  · exact Text.isBlank_of_isDigit hdigit

end Number

namespace Decimal

theorem lt_of_mem_digitsOf {n digit : Nat} (h : digit ∈ digitsOf n) : digit < 10 := by
  obtain ⟨c, hmem, rfl⟩ := List.mem_map.mp h
  have hhigh : c.toNat ≤ 57 := (Char.isDigit_iff_toNat.mp (Number.isDigit_of_mem_digits hmem)).2
  have hzero : '0'.toNat = 48 := rfl
  omega

theorem lt_of_mem_ofScaled {n digit : Nat} {power : Int} (h : digit ∈ (ofScaled n power).digits) :
    digit < 10 := by
  have hmem : digit ∈ trim (digitsOf n) := h
  rw [trim, List.mem_reverse] at hmem
  exact lt_of_mem_digitsOf (List.mem_reverse.mp ((List.dropWhile_sublist _).mem hmem))

end Decimal

namespace Double

/-- Whichever neighbour on the grid is taken, its digits are those of a whole number. -/
theorem exists_ofScaled_of_decimalOfCount? {tie : Tie} {d : Double} {count : Nat} {x : Decimal}
    (h : d.decimalOfCount? tie count = some x) : ∃ n power, x = .ofScaled n power := by
  unfold decimalOfCount? at h
  extract_lets at h
  split at h
  extract_lets at h
  split at h
  · exact ⟨_, _, (Option.some.inj h).symm⟩
  · split at h
    · exact ⟨_, _, (Option.some.inj h).symm⟩
    · split at h
      · exact ⟨_, _, (Option.some.inj h).symm⟩
      · exact absurd h (by simp)

theorem lt_of_mem_shortest {tie : Tie} {d : Double} {digit : Nat}
    (h : digit ∈ (d.shortest tie).digits) : digit < 10 := by
  unfold shortest at h
  cases hfind : (List.range 17).findSome? fun i => d.decimalOfCount? tie (i + 1) with
  | none => simp [hfind] at h
  | some x =>
    rw [hfind, Option.getD_some] at h
    obtain ⟨i, -, hi⟩ := List.exists_of_findSome?_eq_some hfind
    obtain ⟨n, power, rfl⟩ := exists_ofScaled_of_decimalOfCount? hi
    exact Decimal.lt_of_mem_ofScaled h

end Double

namespace Layout

theorem isDigit_digitChar {digit : Nat} (h : digit < 10) : (digitChar digit).isDigit = true := by
  have hall : ∀ digit < 10, (digitChar digit).isDigit = true := by decide
  exact hall digit h

theorem visible_full {layout : Layout} {x : Decimal} (h : ∀ digit ∈ x.digits, digit < 10) :
    Text.Visible (layout.full x).toList := by
  simp only [full]
  by_cases hsmall : x.exponent < 0
  · rw [if_pos hsmall]
    exact ⟨'0', by simp, by decide⟩
  · rw [if_neg hsmall]
    by_cases hlength : (x.digits.map digitChar).length ≤ (x.exponent + 1).toNat
    · rw [if_pos hlength, String.toList_append, String.toList_ofList]
      -- The digits and the zeros behind them are one character at least.
      refine (Text.visible_of_isDigit ?_ fun c hmem => ?_).append_left _
      · intro hnil
        have hzero := congrArg List.length hnil
        simp only [List.length_append, List.length_replicate, List.length_nil] at hzero
        omega
      · rcases List.mem_append.mp hmem with hdigit | hpad
        · obtain ⟨digit, hin, rfl⟩ := List.mem_map.mp hdigit
          exact isDigit_digitChar (h digit hin)
        · rw [List.eq_of_mem_replicate hpad]
          decide
    · rw [if_neg hlength]
      exact ⟨'.', by simp, by decide⟩

theorem visible_plain (d : Double) : Text.Visible (plain.text d).toList := by
  unfold text
  split
  · exact ⟨'N', by simp, by decide⟩
  · extract_lets sign
    split
    · exact ⟨'i', by simp, by decide⟩
    · split
      · exact ⟨'0', by simp [plain], by decide⟩
      · rw [String.toList_append]
        exact (visible_full fun _ => Double.lt_of_mem_shortest).append_right _

end Layout
end Clearance
