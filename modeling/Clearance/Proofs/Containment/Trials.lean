import Clearance.Proofs.Containment.Documents
import Clearance.Proofs.Containment.Membership
import Clearance.Trial.Containment

/-!
# Values contain themselves

What stands at a path is contained there: a value that is no list contains itself, and a list each
of its items, whatever they are. Both come down to one fact, that **a well-formed value matches
itself** (`WellFormed.matches_self`), by its fields if it is an object and as a whole if not; a list
needs it for all of its items at once, so well-formedness has to pass from a value to whatever a
path leads to (`WellFormed.resolve`).

The trials of containment check these laws on values that are grown from seeds. A seed gives a
well-formed value at any depth (`Seed.wellFormed_valueAt`), also where fields of it share a key or
lie too deep, and so no trial fails.
-/

set_option autoImplicit false

namespace Clearance

namespace Value

variable {v held object target item : Value} {slot : Slot} {path : Path} {items : List Value}

/-! ## What well-formed values hold -/

theorem WellFormed.get? (h : v.WellFormed) (hg : v.get? slot = some held) : held.WellFormed := by
  cases h with
  | object _ hfields =>
    cases slot with
    | field key => exact hfields _ (Fields.mem_of_get? hg)
    | item index => exact absurd hg (by simp [Value.get?])
  | list hitems =>
    cases slot with
    | field key => exact absurd hg (by simp [Value.get?])
    | item index => exact hitems held (List.mem_of_getElem? hg)
  | _ => exact absurd hg (by simp [Value.get?])

theorem WellFormed.resolve (h : v.WellFormed) (hr : v.resolve path = some held) :
    held.WellFormed := by
  induction path generalizing v with
  | nil =>
    obtain rfl := Option.some.inj hr
    exact h
  | cons segment rest ih =>
    rw [resolve_cons, Option.bind_eq_some_iff] at hr
    obtain ⟨⟨slot, inner⟩, hchild, hrest⟩ := hr
    exact ih (h.get? (child?_eq_some_iff.mp hchild).2) hrest

theorem WellFormed.of_mem (h : (Value.list items).WellFormed) (hmem : item ∈ items) :
    item.WellFormed := by
  cases h with
  | list hitems => exact hitems item hmem

/-- **A well-formed value matches itself.** -/
theorem WellFormed.matches_self (h : v.WellFormed) : v.Matches v := by
  cases v with
  | object fields =>
    refine .record ?_
    intro key value hkey
    have hheld : (Value.object fields).get? (.field key) = some value := hkey
    exact ⟨value, hkey, (h.get? hheld).same_self⟩
  | _ => exact .whole (by simp [isObject]) h.same_self

/-! ## What stands at a path -/

theorem contains_of_resolve_none (h : object.resolve path = none) (pattern : Value) :
    object.contains path pattern = false := by
  rw [contains, h]

theorem contains_self (h : object.WellFormed) (hr : object.resolve path = some target)
    (hlist : ∀ items, target ≠ .list items) : object.contains path target = true :=
  (contains_single_iff hr hlist).mpr (h.resolve hr).matches_self

theorem contains_item (h : object.WellFormed) (hr : object.resolve path = some (.list items))
    (hmem : item ∈ items) : object.contains path item = true :=
  (contains_list_iff hr).mpr ⟨item, hmem, ((h.resolve hr).of_mem hmem).matches_self⟩

theorem matches_empty_iff : v.Matches (.object []) ↔ v.isObject = true := by
  rw [matches_object_iff]
  constructor
  · rintro ⟨fields, rfl, _⟩
    rfl
  · intro h
    cases v with
    | object fields => exact ⟨fields, rfl, fun key value hkey => absurd hkey (by simp)⟩
    | _ => exact absurd h (by simp [isObject])

/-- The empty pattern asks for nothing but a record. -/
theorem contains_empty_iff (hr : object.resolve path = some target) :
    object.contains path (.object []) = true ↔ target.elements.any isObject = true := by
  simp only [contains_iff, offers_iff, matches_empty_iff, List.any_eq_true]
  constructor
  · rintro ⟨element, ⟨found, hfound, hmem⟩, hobject⟩
    obtain rfl := Option.some.inj (hr.symm.trans hfound)
    exact ⟨element, hmem, hobject⟩
  · rintro ⟨element, hmem, hobject⟩
    exact ⟨element, ⟨target, hr, hmem⟩, hobject⟩

/-- So it is contained where the path leads to a record or to a list that has one. -/
theorem contains_empty_iff_resolve :
    object.contains path (.object []) = true ↔
      (∃ fields, object.resolve path = some (.object fields)) ∨
        ∃ items fields, object.resolve path = some (.list items) ∧ .object fields ∈ items := by
  constructor
  · intro h
    obtain ⟨element, hoffers, hmatches⟩ := contains_iff.mp h
    obtain ⟨fields, rfl, _⟩ := matches_object_iff.mp hmatches
    cases hoffers with
    | item hr hmem => exact .inr ⟨_, fields, hr, hmem⟩
    | single hr _ => exact .inl ⟨fields, hr⟩
  · have hmatches : ∀ fields, (Value.object fields).Matches (.object []) := fun fields =>
      matches_empty_iff.mpr rfl
    rintro (⟨fields, hr⟩ | ⟨items, fields, hr, hmem⟩)
    · exact contains_iff.mpr ⟨_, .single hr (by simp), hmatches fields⟩
    · exact contains_iff.mpr ⟨_, .item hr hmem, hmatches fields⟩

end Value

/-! ## The trials of containment -/

namespace Trial

namespace Seed

mutual

theorem wellFormed_valueAt (depth : Nat) : ∀ seed : Seed, (seed.valueAt depth).WellFormed
  | .null => by
    rw [valueAt]
    exact .null
  | .bool b => by
    rw [valueAt]
    split
    · exact .null
    · exact .bool b
  | .number n => by
    rw [valueAt]
    split
    · exact .null
    · exact .integer n
  | .text n => by
    rw [valueAt]
    split
    · exact .null
    · exact .text _
  | .list items => by
    rw [valueAt]
    split
    · exact .null
    · exact .list (wellFormed_itemsAt (depth + 1) items)
  | .object fields => by
    rw [valueAt]
    split
    · exact .null
    · exact Value.wellFormed_ofFields (wellFormed_fieldsAt (depth + 1) fields)

theorem wellFormed_itemsAt (depth : Nat) :
    ∀ items : List Seed, ∀ v ∈ itemsAt depth items, v.WellFormed
  | [] => by
    intro v hmem
    exact absurd hmem (by simp [itemsAt])
  | item :: rest => by
    intro v hmem
    rw [itemsAt, List.mem_cons] at hmem
    rcases hmem with rfl | hmem
    · exact wellFormed_valueAt depth item
    · exact wellFormed_itemsAt depth rest v hmem

theorem wellFormed_fieldsAt (depth : Nat) :
    ∀ fields : List (Nat × Seed), ∀ field ∈ fieldsAt depth fields, field.2.WellFormed
  | [] => by
    intro field hmem
    exact absurd hmem (by simp [fieldsAt])
  | (key, held) :: rest => by
    intro field hmem
    rw [fieldsAt, List.mem_cons] at hmem
    rcases hmem with rfl | hmem
    · exact wellFormed_valueAt depth held
    · exact wellFormed_fieldsAt depth rest field hmem

end

end Seed

/-- The laws hold at every path of a well-formed value, whatever pattern was looked for. -/
theorem containmentHolds_eq_true {object : Value} (h : object.WellFormed) (path : Path)
    (pattern : Value) : containmentHolds object path (object.contains path pattern) = true := by
  unfold containmentHolds
  split
  · next hr => rw [Value.contains_of_resolve_none hr]; rfl
  · next target hr =>
    rw [Bool.and_eq_true]
    refine ⟨?_, ?_⟩
    · split
      · next items =>
        rw [List.all_eq_true]
        intro item hmem
        exact Value.contains_item h hr hmem
      · next hlist => exact Value.contains_self h hr fun items hitems => hlist items hitems
    · rw [beq_iff_eq, Bool.eq_iff_iff]
      exact Value.contains_empty_iff hr

/-- **No trial of containment fails, and what it checks holds of every value.** Whatever the seeds
and the steps are, the laws hold of what grows from them. They are laws of all values: a path that
leads nowhere contains nothing, and the empty pattern is contained exactly where the path leads to
a record or to a list that has one. Of a well-formed value, as every value read from text is, what
a path leads to is contained there if it is no list, and if it is one, so is each of its items. -/
theorem containment_laws_hold :
    (∀ input : ContainmentInput, input.holds = true) ∧
    (∀ (object : Value) (path : Path), object.resolve path = none →
      ∀ pattern, object.contains path pattern = false) ∧
    (∀ (object : Value) (path : Path),
      object.contains path (.object []) = true ↔
        (∃ fields, object.resolve path = some (.object fields)) ∨
          ∃ items fields, object.resolve path = some (.list items) ∧
            Value.object fields ∈ items) ∧
    (∀ (text : String) (object : Value), Json.read? text = some object → object.WellFormed) ∧
    (∀ (object : Value) (path : Path) (target : Value), object.WellFormed →
      object.resolve path = some target → (∀ items, target ≠ .list items) →
        object.contains path target = true) ∧
    ∀ (object : Value) (path : Path) (items : List Value), object.WellFormed →
      object.resolve path = some (.list items) →
        ∀ item ∈ items, object.contains path item = true := by
  refine ⟨?trials, fun object path => Value.contains_of_resolve_none, ?empty,
    fun text object => Json.wellFormed_of_read?,
    fun object path target h hr hlist => Value.contains_self h hr hlist,
    fun object path items h hr item hmem => Value.contains_item h hr hmem⟩
  case trials =>
    intro input
    exact containmentHolds_eq_true (Seed.wellFormed_valueAt 0 input.object) input.segments
      input.pattern.toValue
  case empty =>
    intro object path
    exact Value.contains_empty_iff_resolve

/-- The innermost number of this record lies too deep to stay, and one field is given twice. -/
def nested : Seed :=
  .object [(0, .list [.null, .list [.list [.list [.number 5]]], .object []]), (1, .bool true),
    (7, .text 2)]

theorem nested_laws_hold :
    (ContainmentInput.mk nested [.key 6, .index 1] (.number 5)).holds = true ∧
      nested.toValue.contains [.key "k2"] .null = false ∧
      nested.toValue.contains [.key "k0"] (.object []) = true ∧
      (Value.list [.null]).contains [] .null = true ∧
      nested.toValue.contains [.key "k1"] (.text "k2") = true ∧
      nested.toValue.contains [.key "k0"] (.list [.list [.list [.null]]]) = true := by
  obtain ⟨htrials, hnowhere, hempty, hread, hself, hitems⟩ := containment_laws_hold
  have hwf : nested.toValue.WellFormed := Seed.wellFormed_valueAt 0 nested
  have hgroups : nested.toValue.resolve [.key "k0"] =
      some (.list [.null, .list [.list [.list [.null]]], .object []]) := rfl
  have htext : nested.toValue.resolve [.key "k1"] = some (.text "k2") := rfl
  refine ⟨htrials _, hnowhere _ [.key "k2"] rfl .null,
    (hempty _ _).mpr (.inr ⟨_, [], hgroups, by simp⟩),
    hitems _ [] [.null] (hread "[null]" _ rfl) rfl .null (List.mem_singleton_self _),
    hself _ _ _ hwf htext (by simp), hitems _ _ _ hwf hgroups _ (by simp)⟩

end Trial

end Clearance
