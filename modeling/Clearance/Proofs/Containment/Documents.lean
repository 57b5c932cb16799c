import Clearance.Json.Reader
import Clearance.Proofs.Containment.Equality

/-!
# Values from documents

A value that is read from text is well-formed, so what is said of well-formed values is said of
every value that a document can hold. Objects are put in order as they are read, of two fields
with one key the later one staying, and a float is rounded from a decimal, **which never gives
anything but a number** (`Double.isNaN_ofDecimal`): one that is too large becomes infinite, and
that the reader refuses.
-/

set_option autoImplicit false

namespace Clearance

/-! ## Floats -/

namespace Double

theorem magnitude_ofMagnitude (negative : Bool) {magnitude : Nat} (h : magnitude < signBit) :
    (ofMagnitude negative magnitude).magnitude = magnitude := by
  rw [signBit] at h
  cases negative with
  | false =>
    simp only [ofMagnitude, Double.magnitude, signBit, UInt64.toNat_ofNat', Bool.false_eq_true,
      if_false]
    omega
  | true =>
    simp only [ofMagnitude, Double.magnitude, signBit, UInt64.toNat_ofNat', if_true]
    omega

theorem isNaN_ofMagnitude (negative : Bool) {magnitude : Nat}
    (h : magnitude ≤ infiniteMagnitude) : (ofMagnitude negative magnitude).isNaN = false := by
  have hlt : magnitude < signBit := Nat.lt_of_le_of_lt h (by decide)
  rw [isNaN, magnitude_ofMagnitude negative hlt]
  simpa using h

theorem isNaN_ofRatio (negative : Bool) (numerator denominator : Nat) :
    (ofRatio negative numerator denominator).isNaN = false := by
  unfold ofRatio
  split
  · exact isNaN_ofMagnitude negative (Nat.zero_le _)
  · exact isNaN_ofMagnitude negative (Nat.min_le_right _ _)

/-- A decimal is always some number, if only an infinite one. -/
theorem isNaN_ofDecimal (negative : Bool) (digits : Nat) (exponent : Int) :
    (ofDecimal negative digits exponent).isNaN = false := by
  unfold ofDecimal
  dsimp only
  split
  · exact isNaN_ofMagnitude negative (Nat.zero_le _)
  · split
    · exact isNaN_ofMagnitude negative (Nat.le_refl _)
    · split
      · exact isNaN_ofMagnitude negative (Nat.zero_le _)
      · exact isNaN_ofRatio negative _ _

end Double

/-! ## Readers -/

namespace Json

/-- What a reader builds of what another reader read. -/
theorem exists_of_map {α β : Type} {read : Option α} {build : α → β × List Char} {built : β}
    {rest : List Char} (h : read.map build = some (built, rest)) :
    ∃ part, read = some part ∧ (build part).1 = built := by
  obtain ⟨part, hread, hbuild⟩ := Option.map_eq_some_iff.mp h
  exact ⟨part, hread, by rw [hbuild]⟩

theorem Literal.wellFormed_number {literal : Literal} {n : Number}
    (h : literal.number? = some n) : (Value.number n).WellFormed := by
  unfold number? at h
  dsimp only at h
  split at h
  · obtain rfl := Option.some.inj h
    exact .integer _
  · split at h
    · obtain rfl := Option.some.inj h
      exact .integer _
    · split at h
      · exact absurd h (by simp)
      · obtain rfl := Option.some.inj h
        exact .float (Double.isNaN_ofDecimal _ _ _)

theorem wellFormed_number {text rest : List Char} {n : Number}
    (h : number? text = some (n, rest)) : (Value.number n).WellFormed := by
  simp only [number?, Option.bind_eq_bind, Option.bind_eq_some_iff] at h
  obtain ⟨_, _, h⟩ := h
  split at h
  · exact absurd h (by simp)
  · simp only [Option.bind_eq_some_iff] at h
    obtain ⟨_, _, _, _, m, hm, h⟩ := h
    obtain ⟨rfl, _⟩ := Prod.mk.inj (Option.some.inj h)
    exact Literal.wellFormed_number hm

/-- With so much fuel the readers of nested text give well-formed values only. -/
structure ReadsWellFormed (fuel : Nat) : Prop where
  value : ∀ text v rest, value? fuel text = some (v, rest) → v.WellFormed
  items : ∀ text items rest, items? fuel text = some (items, rest) →
    ∀ item ∈ items, item.WellFormed
  fields : ∀ text fields rest, fields? fuel text = some (fields, rest) →
    ∀ field ∈ fields, field.2.WellFormed

variable {fuel : Nat} {text rest : List Char}

theorem ReadsWellFormed.value_succ (ih : ReadsWellFormed fuel) {v : Value}
    (h : value? (fuel + 1) text = some (v, rest)) : v.WellFormed := by
  unfold value? at h
  split at h
  · obtain ⟨_, _, rfl⟩ := exists_of_map h
    exact .null
  · obtain ⟨_, _, rfl⟩ := exists_of_map h
    exact .bool true
  · obtain ⟨_, _, rfl⟩ := exists_of_map h
    exact .bool false
  · obtain ⟨_, _, rfl⟩ := exists_of_map h
    exact .text _
  · split at h
    · obtain ⟨rfl, _⟩ := Prod.mk.inj (Option.some.inj h)
      exact .list fun item hmem => absurd hmem List.not_mem_nil
    · obtain ⟨_, hitems, rfl⟩ := exists_of_map h
      exact .list (ih.items _ _ _ hitems)
  · split at h
    · obtain ⟨rfl, _⟩ := Prod.mk.inj (Option.some.inj h)
      exact .object List.Pairwise.nil fun field hmem => absurd hmem List.not_mem_nil
    · obtain ⟨_, hfields, rfl⟩ := exists_of_map h
      exact Value.wellFormed_ofFields (ih.fields _ _ _ hfields)
  · obtain ⟨_, hn, rfl⟩ := exists_of_map h
    exact wellFormed_number hn

theorem ReadsWellFormed.items_succ (ih : ReadsWellFormed fuel) {items : List Value}
    (h : items? (fuel + 1) text = some (items, rest)) : ∀ item ∈ items, item.WellFormed := by
  simp only [items?, Option.bind_eq_bind, Option.bind_eq_some_iff] at h
  obtain ⟨⟨first, _⟩, hfirst, h⟩ := h
  have hwf := ih.value _ _ _ hfirst
  intro item hmem
  split at h
  · obtain ⟨⟨others, _⟩, hothers, h⟩ := Option.bind_eq_some_iff.mp h
    obtain ⟨rfl, _⟩ := Prod.mk.inj (Option.some.inj h)
    rcases List.mem_cons.mp hmem with rfl | hmem
    · exact hwf
    · exact ih.items _ _ _ hothers item hmem
  · obtain ⟨rfl, _⟩ := Prod.mk.inj (Option.some.inj h)
    obtain rfl := List.mem_singleton.mp hmem
    exact hwf
  · exact absurd h (by simp)

theorem ReadsWellFormed.fields_succ (ih : ReadsWellFormed fuel) {fields : List (String × Value)}
    (h : fields? (fuel + 1) text = some (fields, rest)) :
    ∀ field ∈ fields, field.2.WellFormed := by
  unfold fields? at h
  split at h
  · simp only [Option.bind_eq_bind, Option.bind_eq_some_iff] at h
    obtain ⟨_, _, h⟩ := h
    split at h
    · obtain ⟨⟨held, _⟩, hheld, h⟩ := Option.bind_eq_some_iff.mp h
      have hwf := ih.value _ _ _ hheld
      intro field hmem
      dsimp only at h
      split at h
      · obtain ⟨⟨others, _⟩, hothers, h⟩ := Option.bind_eq_some_iff.mp h
        obtain ⟨rfl, _⟩ := Prod.mk.inj (Option.some.inj h)
        rcases List.mem_cons.mp hmem with rfl | hmem
        · exact hwf
        · exact ih.fields _ _ _ hothers field hmem
      · obtain ⟨rfl, _⟩ := Prod.mk.inj (Option.some.inj h)
        obtain rfl := List.mem_singleton.mp hmem
        exact hwf
      · exact absurd h (by simp)
    · exact absurd h (by simp)
  · exact absurd h (by simp)

/-- The readers of nested text call each other with less fuel, so one induction is about all of
them. -/
theorem readsWellFormed (fuel : Nat) : ReadsWellFormed fuel := by
  induction fuel with
  | zero =>
    refine ⟨?_, ?_, ?_⟩
    · intro text v rest h
      exact absurd h (by simp [value?])
    · intro text items rest h
      exact absurd h (by simp [items?])
    · intro text fields rest h
      exact absurd h (by simp [fields?])
  | succ fuel ih =>
    exact ⟨fun _ _ _ => ih.value_succ, fun _ _ _ => ih.items_succ, fun _ _ _ => ih.fields_succ⟩

/-- **Every value that is read from text is well-formed.** -/
theorem wellFormed_of_read? {text : String} {v : Value} (h : read? text = some v) :
    v.WellFormed := by
  unfold read? at h
  split at h
  · next found rest hfound =>
    split at h
    · obtain rfl := Option.some.inj h
      exact (readsWellFormed _).value _ _ _ hfound
    · exact absurd h (by simp)
  · exact absurd h (by simp)

end Json
end Clearance
