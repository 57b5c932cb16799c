import Mathlib.Data.List.Forall2
import Clearance.Value

/-!
# Equality of values

Rules and masks see values through `Value.same`, which walks two values side by side, the fields
of two objects in the order in which they stand. What it is meant to decide is said here without
that walk: `Equal` compares lists by what stands at an index and objects **by what a key looks up,
whatever the order**, all the way down and with nothing left over on either side.

The two agree on values as documents have them (`same_iff_equal`). `WellFormed` says what that
takes: keys in increasing order, so that the walk meets each key on both sides at once, and no
float that is not a number, since such a float does not even equal itself.
-/

set_option autoImplicit false

namespace Clearance

/-! ## Two lists of fields side by side -/

namespace Fields

variable {α β : Type} {fields : List (String × α)} {others : List (String × β)}

theorem Sorted.nodup (h : Sorted fields) : (keys fields).Nodup := by
  refine List.Pairwise.imp ?_ h
  intro k l hlt hkl
  exact String.lt_irrefl k (hkl ▸ hlt)

/-- The order leaves no choice: two sorted lists of fields with the same keys have them at the
same places. -/
theorem Sorted.keys_eq (hf : Sorted fields) (ho : Sorted others)
    (h : ∀ key, key ∈ keys fields ↔ key ∈ keys others) : keys fields = keys others := by
  have hperm : (keys fields).Perm (keys others) :=
    (List.perm_ext_iff_of_nodup hf.nodup ho.nodup).mpr h
  refine hperm.eq_of_pairwise ?_ hf ho
  intro k l _ _ hkl hlk
  exact absurd hlk (String.lt_asymm hkl)

/-- The fields of two lists, one by one: the same key, and what they hold is so related. -/
def SideBySide (related : α → β → Prop) : List (String × α) → List (String × β) → Prop :=
  List.Forall₂ fun field other => field.1 = other.1 ∧ related field.2 other.2

variable {related : α → β → Prop}

theorem SideBySide.keys_eq (h : SideBySide related fields others) : keys fields = keys others := by
  induction h with
  | nil => rfl
  | cons hfield _ ih => rw [keys, keys, List.map_cons, List.map_cons, hfield.1]; exact congrArg _ ih

theorem SideBySide.get? (h : SideBySide related fields others) {key : String} {held : α} {held' : β}
    (hf : Fields.get? fields key = some held) (ho : Fields.get? others key = some held') :
    related held held' := by
  induction h with
  | nil => exact absurd hf (by simp)
  | @cons field other rest rest' hfield _ ih =>
    obtain ⟨k, v⟩ := field
    obtain ⟨l, w⟩ := other
    obtain ⟨hkey : k = l, hvw : related v w⟩ := hfield
    subst hkey
    rw [get?_cons] at hf ho
    by_cases hk : k = key
    · rw [if_pos hk, Option.some.injEq] at hf ho
      rw [← hf, ← ho]
      exact hvw
    · rw [if_neg hk] at hf ho
      exact ih hf ho

/-- Lookups that are related key by key are fields that are related one by one, if the keys stand
at the same places and none of them twice. -/
theorem sideBySide_of_get? (hnodup : (keys fields).Nodup) (hkeys : keys fields = keys others)
    (h : ∀ key held held', Fields.get? fields key = some held →
      Fields.get? others key = some held' → related held held') :
    SideBySide related fields others := by
  induction fields generalizing others with
  | nil =>
    cases others with
    | nil => exact .nil
    | cons other rest' => exact absurd hkeys (by simp [keys])
  | cons field rest ih =>
    cases others with
    | nil => exact absurd hkeys (by simp [keys])
    | cons other rest' =>
      obtain ⟨k, v⟩ := field
      obtain ⟨l, w⟩ := other
      obtain ⟨hkl : k = l, hrest : keys rest = keys rest'⟩ := List.cons.inj hkeys
      subst hkl
      obtain ⟨hnot, hnodup⟩ := List.nodup_cons.mp hnodup
      refine .cons ⟨rfl, h k v w (by simp [get?_cons]) (by simp [get?_cons])⟩ ?_
      refine ih hnodup hrest ?_
      intro key held held' hf ho
      -- The first key is not among the others, so it hides none of them.
      have hne : k ≠ key := by
        rintro rfl
        exact hnot (mem_keys_iff.mpr (by simp [hf]))
      exact h key held held' (by rw [get?_cons, if_neg hne, hf]) (by rw [get?_cons, if_neg hne, ho])

end Fields

namespace Value

variable {v w : Value}

/-! ## Deep equality -/

/-- Two values are equal: scalars of one kind that are the same, lists of one length with equal
items at each index, objects with the same keys and equal values under each key. Of floats, the
two zeros are equal too. -/
inductive Equal : Value → Value → Prop where
  | null : Equal .null .null
  | bool (b : Bool) : Equal (.bool b) (.bool b)
  | integer (n : Int) : Equal (.number (.integer n)) (.number (.integer n))
  | float {d e : Double} (h : d = e ∨ d.isZero = true ∧ e.isZero = true) :
      Equal (.number (.float d)) (.number (.float e))
  | text (s : String) : Equal (.text s) (.text s)
  | list {items others : List Value} (hlength : items.length = others.length)
      (h : ∀ (index : Nat) (item other : Value), items[index]? = some item →
        others[index]? = some other → Equal item other) : Equal (.list items) (.list others)
  | object {fields others : List (String × Value)}
      (hkeys : ∀ key, key ∈ Fields.keys fields ↔ key ∈ Fields.keys others)
      (h : ∀ key held held', Fields.get? fields key = some held →
        Fields.get? others key = some held' → Equal held held') :
      Equal (.object fields) (.object others)

/-- A value as documents have it: the keys of its objects stand in increasing order, and each of
its floats is a number. -/
inductive WellFormed : Value → Prop where
  | null : WellFormed .null
  | bool (b : Bool) : WellFormed (.bool b)
  | integer (n : Int) : WellFormed (.number (.integer n))
  | float {d : Double} (h : d.isNaN = false) : WellFormed (.number (.float d))
  | text (s : String) : WellFormed (.text s)
  | list {items : List Value} (h : ∀ item ∈ items, WellFormed item) : WellFormed (.list items)
  | object {fields : List (String × Value)} (hsorted : Fields.Sorted fields)
      (h : ∀ field ∈ fields, WellFormed field.2) : WellFormed (.object fields)

theorem wellFormed_ofFields {fields : List (String × Value)}
    (h : ∀ field ∈ fields, field.2.WellFormed) : (ofFields fields).WellFormed :=
  .object (Fields.sorted_ofList fields) fun field hmem => h field (Fields.mem_of_mem_ofList hmem)

/-! ## The walk -/

theorem sameItems_iff {items others : List Value} :
    sameItems items others = true ↔
      List.Forall₂ (fun item other => item.same other = true) items others := by
  induction items generalizing others with
  | nil =>
    cases others with
    | nil => simp [sameItems]
    | cons other rest' => simp [sameItems]
  | cons item rest ih =>
    cases others with
    | nil => simp [sameItems]
    | cons other rest' => simp [sameItems, ih]

theorem sameFields_iff {fields others : List (String × Value)} :
    sameFields fields others = true ↔
      Fields.SideBySide (fun held held' => held.same held' = true) fields others := by
  rw [Fields.SideBySide]
  induction fields generalizing others with
  | nil =>
    cases others with
    | nil => simp [sameFields]
    | cons other rest' => simp [sameFields]
  | cons field rest ih =>
    cases others with
    | nil => simp [sameFields]
    | cons other rest' => simp [sameFields, ih]

theorem same_float_iff {d e : Double} (hd : d.isNaN = false) (he : e.isNaN = false) :
    same (.number (.float d)) (.number (.float e)) = true ↔
      d = e ∨ d.isZero = true ∧ e.isZero = true := by
  simp [same, Number.same, Double.same, hd, he]

/-! ## Equality by the walk is deep equality -/

theorem Equal.same (h : v.Equal w) (hv : v.WellFormed) (hw : w.WellFormed) :
    v.same w = true := by
  induction h with
  | null => rfl
  | bool b => simp [Value.same]
  | integer n => simp [Value.same, Number.same]
  | float h =>
    cases hv with
    | float hd =>
      cases hw with
      | float he => exact (same_float_iff hd he).mpr h
  | text s => simp [Value.same]
  | @list items others hlength _ ih =>
    cases hv with
    | list hitems =>
      cases hw with
      | list hothers =>
        rw [Value.same, sameItems_iff, List.forall₂_iff_get]
        refine ⟨hlength, ?_⟩
        intro index hi ho
        exact ih index _ _ (List.getElem?_eq_getElem hi) (List.getElem?_eq_getElem ho)
          (hitems _ (List.getElem_mem hi)) (hothers _ (List.getElem_mem ho))
  | @object fields others hkeys _ ih =>
    cases hv with
    | object hsorted hfields =>
      cases hw with
      | object hsorted' hothers =>
        rw [Value.same, sameFields_iff]
        refine Fields.sideBySide_of_get? hsorted.nodup (hsorted.keys_eq hsorted' hkeys) ?_
        intro key held held' hf ho
        exact ih key held held' hf ho (hfields _ (Fields.mem_of_get? hf))
          (hothers _ (Fields.mem_of_get? ho))

theorem equal_of_same (hv : v.WellFormed) (hw : w.WellFormed) (h : v.same w = true) :
    v.Equal w := by
  induction hv generalizing w with
  | null =>
    cases hw with
    | null => exact .null
    | _ => exact absurd h (by simp [Value.same])
  | bool b =>
    cases hw with
    | bool c =>
      obtain rfl : b = c := by simpa [Value.same] using h
      exact .bool b
    | _ => exact absurd h (by simp [Value.same])
  | integer n =>
    cases hw with
    | integer m =>
      obtain rfl : n = m := by simpa [Value.same, Number.same] using h
      exact .integer n
    | _ => exact absurd h (by simp [Value.same, Number.same])
  | float hd =>
    cases hw with
    | float he => exact .float ((same_float_iff hd he).mp h)
    | _ => exact absurd h (by simp [Value.same, Number.same])
  | text s =>
    cases hw with
    | text t =>
      obtain rfl : s = t := by simpa [Value.same] using h
      exact .text s
    | _ => exact absurd h (by simp [Value.same])
  | list _ ih =>
    cases hw with
    | list hothers =>
      rw [Value.same, sameItems_iff, List.forall₂_iff_get] at h
      refine .list h.1 ?_
      intro index item other hi ho
      obtain ⟨hilt, rfl⟩ := List.getElem?_eq_some_iff.mp hi
      obtain ⟨holt, rfl⟩ := List.getElem?_eq_some_iff.mp ho
      exact ih _ (List.getElem_mem hilt) (hothers _ (List.getElem_mem holt)) (h.2 index hilt holt)
    | _ => exact absurd h (by simp [Value.same])
  | object _ _ ih =>
    cases hw with
    | object _ hothers =>
      rw [Value.same, sameFields_iff] at h
      refine .object (fun key => by rw [h.keys_eq]) ?_
      intro key held held' hf ho
      exact ih _ (Fields.mem_of_get? hf) (hothers _ (Fields.mem_of_get? ho)) (h.get? hf ho)
    | _ => exact absurd h (by simp [Value.same])

/-- **Values are the same exactly if they are deeply equal.** -/
theorem same_iff_equal (hv : v.WellFormed) (hw : w.WellFormed) :
    v.same w = true ↔ v.Equal w :=
  ⟨equal_of_same hv hw, fun h => h.same hv hw⟩

theorem WellFormed.equal_self (h : v.WellFormed) : v.Equal v := by
  induction h with
  | null => exact .null
  | bool b => exact .bool b
  | integer n => exact .integer n
  | float _ => exact .float (.inl rfl)
  | text s => exact .text s
  | list _ ih =>
    refine .list rfl ?_
    intro index item other hi ho
    obtain rfl := Option.some.inj (hi.symm.trans ho)
    exact ih item (List.mem_of_getElem? hi)
  | object _ _ ih =>
    refine .object (fun _ => Iff.rfl) ?_
    intro key held held' hf ho
    obtain rfl := Option.some.inj (hf.symm.trans ho)
    exact ih _ (Fields.mem_of_get? hf)

/-- A value is the same as itself. The one exception, a float that is not a number, is ruled out. -/
theorem WellFormed.same_self (h : v.WellFormed) : v.same v = true :=
  h.equal_self.same h h

end Value
end Clearance
