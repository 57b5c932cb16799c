import Clearance.Containment
import Clearance.Proofs.Containment.Equality

/-!
# What a path contains

Containment is a membership test. A path offers elements, the items of the list that it leads to
or the one other value, and **a pattern is contained exactly if an offered element matches it**
(`contains_iff`). `Matches` is partial at the top and exact below: a record has to hold what an
object pattern asks for and may hold more, and everything else is compared as a whole.

Rules rely on what follows for inputs that grow. A pattern that asks for less, a list that has
more items and a record that has more fields are contained, contain and match at least as much as
before. All of it comes from one fact about lookups, `Fields.Within`, and from there being no other
way into a containment than through an offered element.
-/

set_option autoImplicit false

namespace Clearance

namespace Fields

variable {α : Type} {fields : List (String × α)} {key : String}

/-- The second list of fields holds whatever the first holds, and may hold more. -/
def Within (small large : List (String × α)) : Prop :=
  ∀ key held, get? small key = some held → get? large key = some held

theorem within_insert (h : get? fields key = none) (new : α) :
    Within fields (insert fields key new) := by
  intro other held hheld
  have hne : other ≠ key := by
    rintro rfl
    exact absurd (hheld.symm.trans h) (by simp)
  rw [get?_insert_of_ne fields new hne, hheld]

variable {first second union : List (String × α)}

theorem within_union_left
    (hunion : ∀ key, get? union key = (get? first key).or (get? second key)) :
    Within first union := by
  intro key held hheld
  rw [hunion, hheld, Option.some_or]

theorem within_union_right
    (hdisjoint : ∀ key, get? first key = none ∨ get? second key = none)
    (hunion : ∀ key, get? union key = (get? first key).or (get? second key)) :
    Within second union := by
  intro key held hheld
  have hnone : get? first key = none := (hdisjoint key).resolve_right (by simp [hheld])
  rw [hunion, hnone, Option.none_or, hheld]

end Fields

namespace Value

variable {object other element pattern target : Value} {path : Path}
  {fields wanted fewer : List (String × Value)} {items more : List Value}

/-! ## What a path offers -/

/-- A path offers the items of a list that it leads to, and any other value by itself. -/
inductive Offers (object : Value) (path : Path) (element : Value) : Prop where
  | item {items : List Value} (h : object.resolve path = some (.list items))
      (hmem : element ∈ items)
  | single (h : object.resolve path = some element) (hlist : ∀ items, element ≠ .list items)

theorem offers_iff :
    object.Offers path element ↔
      ∃ target, object.resolve path = some target ∧ element ∈ target.elements := by
  constructor
  · intro h
    cases h with
    | item h hmem => exact ⟨_, h, hmem⟩
    | single h hlist =>
      refine ⟨element, h, ?_⟩
      cases element with
      | list items => exact absurd rfl (hlist items)
      | _ => exact List.mem_singleton_self _
  · rintro ⟨target, h, hmem⟩
    cases target with
    | list items => exact .item h hmem
    | _ =>
      obtain rfl := List.mem_singleton.mp hmem
      exact .single h (by simp)

theorem offers_list_iff (h : object.resolve path = some (.list items)) :
    object.Offers path element ↔ element ∈ items := by
  constructor
  · intro hoffers
    obtain ⟨target, hr, hmem⟩ := offers_iff.mp hoffers
    obtain rfl := Option.some.inj (h.symm.trans hr)
    exact hmem
  · exact .item h

theorem offers_single_iff (h : object.resolve path = some target)
    (hlist : ∀ items, target ≠ .list items) : object.Offers path element ↔ element = target := by
  constructor
  · intro hoffers
    cases hoffers with
    | item hr _ => exact absurd (Option.some.inj (h.symm.trans hr)) (hlist _)
    | single hr _ => exact Option.some.inj (hr.symm.trans h)
  · rintro rfl
    exact .single h hlist

/-! ## Matching one element -/

/-- The fields hold every field of a pattern with an equal value. -/
def HoldsAll (fields wanted : List (String × Value)) : Prop :=
  ∀ key value, Fields.get? wanted key = some value →
    ∃ held, Fields.get? fields key = some held ∧ held.same value = true

/-- An element matches a pattern: if both are objects, by holding all of its fields, and else by
being equal to it. -/
inductive Matches : Value → Value → Prop where
  | record {fields wanted : List (String × Value)} (h : HoldsAll fields wanted) :
      Matches (.object fields) (.object wanted)
  | whole {element pattern : Value} (h : ¬ (element.isObject = true ∧ pattern.isObject = true))
      (hsame : element.same pattern = true) : Matches element pattern

theorem holdsAll_iff : holdsAll fields wanted = true ↔ HoldsAll fields wanted := by
  rw [holdsAll, List.all_eq_true]
  constructor
  · intro h key value hw
    have hkey := h key (Fields.mem_keys_iff.mpr (by simp [hw]))
    rw [hw] at hkey
    cases hf : Fields.get? fields key with
    | none =>
      rw [hf] at hkey
      exact absurd hkey (by simp [sameOption])
    | some held =>
      rw [hf] at hkey
      exact ⟨held, rfl, hkey⟩
  · intro h key hmem
    obtain ⟨value, hw⟩ := Option.isSome_iff_exists.mp (Fields.mem_keys_iff.mp hmem)
    obtain ⟨held, hf, hsame⟩ := h key value hw
    rw [hf, hw]
    exact hsame

theorem matchesPattern_iff : element.matchesPattern pattern = true ↔ element.Matches pattern := by
  unfold matchesPattern
  split
  · constructor
    · intro h
      exact .record (holdsAll_iff.mp h)
    · intro h
      cases h with
      | record h => exact holdsAll_iff.mpr h
      | whole h _ => exact absurd ⟨rfl, rfl⟩ h
  · next hnot =>
    constructor
    · intro h
      refine .whole ?_ h
      rintro ⟨he, hp⟩
      cases element with
      | object fields =>
        cases pattern with
        | object wanted => exact hnot fields wanted rfl rfl
        | _ => exact absurd hp (by simp [isObject])
      | _ => exact absurd he (by simp [isObject])
    · intro h
      cases h with
      | record _ => exact absurd rfl (hnot _ _ rfl)
      | whole _ hsame => exact hsame

/-- Only a record matches an object pattern. -/
theorem matches_object_iff :
    element.Matches (.object wanted) ↔
      ∃ fields, element = .object fields ∧ HoldsAll fields wanted := by
  constructor
  · intro h
    cases h with
    | record h => exact ⟨_, rfl, h⟩
    | whole h hsame =>
      cases element with
      | object fields => exact absurd ⟨rfl, rfl⟩ h
      | _ => exact absurd hsame (by simp [same])
  · rintro ⟨fields, rfl, h⟩
    exact .record h

theorem HoldsAll.of_within (h : HoldsAll fields wanted) (hw : Fields.Within fewer wanted) :
    HoldsAll fields fewer := by
  intro key value hf
  exact h key value (hw key value hf)

theorem HoldsAll.grow {grown : List (String × Value)} (h : HoldsAll fields wanted)
    (hw : Fields.Within fields grown) : HoldsAll grown wanted := by
  intro key value hwanted
  obtain ⟨held, hf, hsame⟩ := h key value hwanted
  exact ⟨held, hw key held hf, hsame⟩

/-! ## Containment -/

/-- **A pattern is contained exactly if an offered element matches it.** -/
theorem contains_iff :
    object.contains path pattern = true ↔
      ∃ element, object.Offers path element ∧ element.Matches pattern := by
  simp only [offers_iff, ← matchesPattern_iff]
  rw [contains]
  cases object.resolve path with
  | none => simp
  | some target => simp

theorem contains_list_iff (h : object.resolve path = some (.list items)) :
    object.contains path pattern = true ↔ ∃ item ∈ items, item.Matches pattern := by
  simp only [contains_iff, offers_list_iff h]

theorem contains_single_iff (h : object.resolve path = some target)
    (hlist : ∀ items, target ≠ .list items) :
    object.contains path pattern = true ↔ target.Matches pattern := by
  simp only [contains_iff, offers_single_iff h hlist]
  exact ⟨fun ⟨_, he, hm⟩ => he ▸ hm, fun hm => ⟨target, rfl, hm⟩⟩

theorem contains_of_within (hw : Fields.Within fewer wanted)
    (h : object.contains path (.object wanted) = true) :
    object.contains path (.object fewer) = true := by
  obtain ⟨element, hoffers, hmatches⟩ := contains_iff.mp h
  obtain ⟨fields, rfl, hall⟩ := matches_object_iff.mp hmatches
  exact contains_iff.mpr ⟨_, hoffers, .record (hall.of_within hw)⟩

theorem contains_append {first second : Value} {path₁ path₂ : Path}
    (h₁ : first.resolve path₁ = some (.list items)) (h₂ : second.resolve path₂ = some (.list more))
    (h : object.resolve path = some (.list (items ++ more))) (pattern : Value) :
    object.contains path pattern =
      (first.contains path₁ pattern || second.contains path₂ pattern) := by
  rw [Bool.eq_iff_iff, Bool.or_eq_true, contains_list_iff h, contains_list_iff h₁,
    contains_list_iff h₂]
  simp only [List.mem_append, or_and_right, exists_or]

/-- A record contains two patterns without a common key exactly if it contains their union. -/
theorem contains_union_iff {first second union : List (String × Value)}
    (h : object.resolve path = some (.object fields))
    (hdisjoint : ∀ key, Fields.get? first key = none ∨ Fields.get? second key = none)
    (hunion : ∀ key, Fields.get? union key =
      (Fields.get? first key).or (Fields.get? second key)) :
    object.contains path (.object union) = true ↔
      object.contains path (.object first) = true ∧
        object.contains path (.object second) = true := by
  constructor
  · intro hcontains
    exact ⟨contains_of_within (Fields.within_union_left hunion) hcontains,
      contains_of_within (Fields.within_union_right hdisjoint hunion) hcontains⟩
  · rintro ⟨hc₁, hc₂⟩
    -- There is one record only, so the two patterns are matched by the same one.
    have hlist : ∀ items, Value.object fields ≠ .list items := by simp
    rw [contains_single_iff h hlist] at hc₁ hc₂ ⊢
    cases hc₁ with
    | whole hne _ => exact absurd ⟨rfl, rfl⟩ hne
    | record hall₁ =>
      cases hc₂ with
      | whole hne _ => exact absurd ⟨rfl, rfl⟩ hne
      | record hall₂ =>
        refine .record ?_
        intro key value hkey
        rw [hunion, Option.or_eq_some_iff] at hkey
        rcases hkey with hkey | ⟨_, hkey⟩
        · exact hall₁ key value hkey
        · exact hall₂ key value hkey

/-! ## All laws together -/

/-- **Containment is membership with a partial match at the top.** A pattern is contained exactly
if the path leads to a list of which an item matches it or to another value that matches it, where
what is compared as a whole is deeply equal or not. So a pattern that asks for less is contained
where one was that asks for more; a list with more items, added wherever, contains what the list
contained before, and the items of two lists together what either contains; a record that matched
still matches with a fresh key in it; and a single record contains the union of two patterns
without a common key exactly if it contains both. -/
theorem contains_is_partial_membership :
    (∀ v w : Value, v.WellFormed → w.WellFormed → (v.same w = true ↔ v.Equal w)) ∧
    (∀ (object : Value) (path : Path) (pattern : Value),
      object.contains path pattern = true ↔
        ∃ element, object.Offers path element ∧ element.Matches pattern) ∧
    (∀ (object : Value) (path : Path) (wanted fewer : List (String × Value)),
      Fields.Within fewer wanted → object.contains path (.object wanted) = true →
        object.contains path (.object fewer) = true) ∧
    (∀ (object grown : Value) (path path' : Path) (items more : List Value) (pattern : Value),
      object.resolve path = some (.list items) → grown.resolve path' = some (.list more) →
        items ⊆ more → object.contains path pattern = true →
          grown.contains path' pattern = true) ∧
    (∀ (first second both : Value) (path₁ path₂ path : Path) (items more : List Value)
      (pattern : Value),
      first.resolve path₁ = some (.list items) → second.resolve path₂ = some (.list more) →
        both.resolve path = some (.list (items ++ more)) →
          both.contains path pattern =
            (first.contains path₁ pattern || second.contains path₂ pattern)) ∧
    (∀ (fields : List (String × Value)) (key : String) (new grown : Value) (path : Path)
      (wanted : List (String × Value)),
      Fields.get? fields key = none → Matches (.object fields) (.object wanted) →
        grown.Offers path (.object (Fields.insert fields key new)) →
          grown.contains path (.object wanted) = true) ∧
    ∀ (object : Value) (path : Path) (fields first second union : List (String × Value)),
      object.resolve path = some (.object fields) →
        (∀ key, Fields.get? first key = none ∨ Fields.get? second key = none) →
          (∀ key, Fields.get? union key =
            (Fields.get? first key).or (Fields.get? second key)) →
          (object.contains path (.object union) = true ↔
            object.contains path (.object first) = true ∧
              object.contains path (.object second) = true) := by
  refine ⟨fun v w hv hw => same_iff_equal hv hw, fun object path pattern => contains_iff,
    fun object path wanted fewer hw h => contains_of_within hw h, ?more,
    fun first second both path₁ path₂ path items more pattern h₁ h₂ h =>
      contains_append h₁ h₂ h pattern, ?fresh,
    fun object path fields first second union h hd hu => contains_union_iff h hd hu⟩
  case more =>
    intro object grown path path' items more pattern h hgrown hsubset hcontains
    obtain ⟨item, hmem, hmatches⟩ := (contains_list_iff h).mp hcontains
    exact (contains_list_iff hgrown).mpr ⟨item, hsubset hmem, hmatches⟩
  case fresh =>
    intro fields key new grown path wanted hfresh hmatches hoffers
    obtain ⟨_, hrecord, hall⟩ := matches_object_iff.mp hmatches
    obtain rfl := Value.object.inj hrecord
    exact contains_iff.mpr ⟨_, hoffers, .record (hall.grow (Fields.within_insert hfresh new))⟩

def payroll : List (String × Value) := [("key", .text "payroll"), ("type", .text "group")]

def groups : List Value := [.list [], .object payroll]

/-- Someone in a main group and in a list of groups. -/
def staff : Value := .object [("main", .object payroll), ("memberOf", .list groups)]

/-- The list has a group more in front and at its end the payroll with a size. -/
def promoted : Value :=
  .object [("memberOf", .list (.text "board" :: groups ++
    [.object (Fields.insert payroll "size" (.nat 3))]))]

/-- One zero, with or without a sign. -/
def zeros (negative : Bool) : Value := .list [.number (.float (.zero negative))]

theorem wellFormed_zeros (negative : Bool) : (zeros negative).WellFormed := by
  refine .list ?_
  intro item hmem
  obtain rfl := List.mem_singleton.mp hmem
  cases negative with
  | false => exact .float (by decide)
  | true => exact .float (by decide)

/-- The payroll is asked for in two parts, its key and its type. -/
theorem get?_payroll (key : String) :
    (Fields.get? [("key", Value.text "payroll")] key = none ∨
        Fields.get? [("type", Value.text "group")] key = none) ∧
      Fields.get? payroll key =
        (Fields.get? [("key", Value.text "payroll")] key).or
          (Fields.get? [("type", Value.text "group")] key) := by
  by_cases hkey : "key" = key
  · subst hkey
    exact ⟨.inr rfl, rfl⟩
  · have hnone : Fields.get? [("key", Value.text "payroll")] key = none := by
      simp [Fields.get?_cons, hkey]
    exact ⟨.inl hnone, by simp [payroll, Fields.get?_cons, hkey]⟩

theorem payroll_contained :
    (zeros false).Equal (zeros true) ∧
      staff.contains [.key "memberOf"] (.list []) = true ∧
      staff.contains [.key "memberOf"] (.object [("type", .text "group")]) = true ∧
      promoted.contains [.key "memberOf"] (.list []) = true ∧
      (Value.list (groups ++ [.text "board"])).contains [] (.text "board") = true ∧
      promoted.contains [.key "memberOf"] (.object payroll) = true ∧
      staff.contains [.key "main"] (.object payroll) = true := by
  obtain ⟨hsame, hiff, hfewer, hmore, happend, hfresh, hunion⟩ := contains_is_partial_membership
  have hlist : staff.contains [.key "memberOf"] (.list []) = true :=
    (hiff staff [.key "memberOf"] (.list [])).mpr
      ⟨.list [], .item rfl List.mem_cons_self, .whole (by simp [isObject]) rfl⟩
  have hwithin : Fields.Within [("type", .text "group")] payroll :=
    Fields.within_union_right (fun key => (get?_payroll key).1) fun key => (get?_payroll key).2
  have hsubset : groups ⊆ .text "board" :: groups ++
      [.object (Fields.insert payroll "size" (.nat 3))] := by
    intro item hmem
    exact List.mem_cons_of_mem _ (List.mem_append_left _ hmem)
  have hpayroll : HoldsAll payroll payroll := holdsAll_iff.mp rfl
  have hoffers : promoted.Offers [.key "memberOf"]
      (.object (Fields.insert payroll "size" (.nat 3))) :=
    .item rfl (List.mem_append_right _ (List.mem_singleton_self _))
  refine ⟨(hsame _ _ (wellFormed_zeros false) (wellFormed_zeros true)).mp (by decide), hlist,
    hfewer staff [.key "memberOf"] payroll _ hwithin rfl,
    hmore staff promoted _ _ groups _ (.list []) rfl rfl hsubset hlist, ?_,
    hfresh payroll "size" (.nat 3) promoted _ payroll (by decide) (.record hpayroll) hoffers,
    (hunion staff [.key "main"] payroll _ _ payroll rfl (fun key => (get?_payroll key).1)
      fun key => (get?_payroll key).2).mpr ⟨rfl, rfl⟩⟩
  rw [happend staff (.list [.text "board"]) _ [.key "memberOf"] [] [] groups [.text "board"]
    (.text "board") rfl rfl rfl]
  rfl

end Value
end Clearance
