import Clearance.Path.Access

/-!
# Locations

Two paths with different segments may lead to one place: on a list, `"0"`, `"00"` and the index
`0` select the same item. What tells places apart is the **location**, the slots that a path walks
through in a given value. Here every way of using a path is brought down to its location: reading
(`resolve_eq`), overwriting (`assign?_eq`) and removing (`erase?_eq`) are all "locate, then act
there", and the two that change something are one operation, `edit`.

**An edit is felt only at its own place, above it and below it.** At a location apart from it
everything reads as before (`at?_edit_of_apart`) and is still led to by the same paths
(`locate_edit_of_apart`), and an edit that puts a scalar in place makes no new places
(`locate_of_locate_edit`). There is one exception, and it is the condition `Edit.Keeps` of these
lemmas: taking an item out of a list moves the items after it.
-/

set_option autoImplicit false

namespace Clearance

/-- The slots from the root of a value to a place in it. -/
abbrev Location := List Slot

/-- Neither location is the other, above it or below it. -/
def Location.Apart (first second : Location) : Prop :=
  ¬ first <+: second ∧ ¬ second <+: first

namespace Location

theorem Apart.symm {first second : Location} (h : first.Apart second) : second.Apart first :=
  ⟨h.2, h.1⟩

theorem not_apart_nil {location : Location} : ¬ Apart location [] :=
  fun h => h.2 (List.nil_prefix)

theorem not_nil_apart {location : Location} : ¬ Apart [] location :=
  fun h => h.1 (List.nil_prefix)

theorem apart_cons_self {slot : Slot} {first second : Location} :
    Apart (slot :: first) (slot :: second) ↔ Apart first second := by
  simp [Apart, List.cons_prefix_cons]

end Location

/-! ## Slots -/

inductive Edit where
  | write (new : Value)
  | drop

/-- The edit leaves the other slots of the container where they are. -/
def Edit.Keeps (edit : Edit) (slot : Slot) : Prop :=
  edit = .drop → ∀ index, slot ≠ .item index

namespace Value

def editSlot (edit : Edit) (v : Value) (slot : Slot) : Value :=
  match edit with
  | .write new => v.put slot new
  | .drop => v.erase slot

theorem put_put (v : Value) (slot : Slot) (first second : Value) :
    (v.put slot first).put slot second = v.put slot second := by
  cases v with
  | object fields =>
    cases slot with
    | field key => simp [put, Fields.put_put]
    | item index => rfl
  | list items =>
    cases slot with
    | field key => rfl
    | item index => simp [put, List.set_set]
  | _ => rfl

theorem put_comm (v : Value) {slot other : Slot} (first second : Value) (h : other ≠ slot) :
    (v.put slot first).put other second = (v.put other second).put slot first := by
  cases v with
  | object fields =>
    cases slot with
    | field key =>
      cases other with
      | field key' =>
        simp only [put]
        rw [Fields.put_comm fields first second fun e : key' = key => h (by rw [e])]
      | item index => rfl
    | item index => cases other <;> rfl
  | list items =>
    cases slot with
    | field key => cases other <;> rfl
    | item index =>
      cases other with
      | field key => rfl
      | item index' =>
        simp only [put]
        rw [List.set_comm _ _ fun e : index = index' => h (by rw [e])]
  | _ => rfl

theorem slot?_editSlot (edit : Edit) (v : Value) (slot : Slot) (segment : Segment) :
    (v.editSlot edit slot).slot? segment = v.slot? segment := by
  cases edit with
  | write new => exact slot?_put v slot new segment
  | drop =>
    cases v with
    | object fields => cases slot <;> cases segment <;> rfl
    | list items => cases slot <;> cases segment <;> rfl
    | _ => rfl

theorem get?_editSlot_of_ne {edit : Edit} (v : Value) {slot other : Slot}
    (hk : edit.Keeps slot) (h : other ≠ slot) :
    (v.editSlot edit slot).get? other = v.get? other := by
  cases edit with
  | write new => exact get?_put_of_ne v new h
  | drop =>
    cases slot with
    | item index => exact absurd rfl (hk rfl index)
    | field key =>
      cases v with
      | object fields =>
        cases other with
        | field key' => exact Fields.get?_erase_of_ne fields fun e : key' = key => h (by rw [e])
        | item index => rfl
      | _ => rfl

theorem put_editSlot_of_ne {edit : Edit} (v : Value) {slot other : Slot} (new : Value)
    (hk : edit.Keeps slot) (h : other ≠ slot) :
    (v.editSlot edit slot).put other new = (v.put other new).editSlot edit slot := by
  cases edit with
  | write first => exact put_comm v first new h
  | drop =>
    cases slot with
    | item index => exact absurd rfl (hk rfl index)
    | field key =>
      cases v with
      | object fields =>
        cases other with
        | field key' =>
          simp only [editSlot, put, erase]
          rw [Fields.put_erase_of_ne fields new fun e : key' = key => h (by rw [e])]
        | item index => rfl
      | list items => cases other <;> rfl
      | _ => rfl

/-! ## Reading and editing at a location -/

/-- The location that a path leads to. -/
def locate : Value → Path → Option Location
  | _, [] => some []
  | v, segment :: rest =>
      (v.child? segment).bind fun found => (locate found.2 rest).map (found.1 :: ·)

def at? : Value → Location → Option Value
  | v, [] => some v
  | v, slot :: rest => (v.get? slot).bind fun held => at? held rest

/-- Does an edit to the last slot of a location. The root is no slot, and where nothing is there
is nothing to edit. -/
def edit (change : Edit) : Value → Location → Value
  | v, [] => v
  | v, [slot] => v.editSlot change slot
  | v, slot :: next :: rest =>
      match v.get? slot with
      | none => v
      | some held => v.put slot (edit change held (next :: rest))

theorem edit_singleton (change : Edit) (v : Value) (slot : Slot) :
    v.edit change [slot] = v.editSlot change slot := rfl

theorem edit_cons {v held : Value} {slot : Slot} (change : Edit) (next : Slot) (rest : Location)
    (h : v.get? slot = some held) :
    v.edit change (slot :: next :: rest) = v.put slot (held.edit change (next :: rest)) := by
  rw [edit, h]

theorem locate_cons_eq_some_iff {v : Value} {segment : Segment} {rest : Path}
    {location : Location} :
    v.locate (segment :: rest) = some location ↔
      ∃ slot held below, v.slot? segment = some slot ∧ v.get? slot = some held ∧
        held.locate rest = some below ∧ slot :: below = location := by
  simp only [locate, Option.bind_eq_some_iff, Option.map_eq_some_iff, Prod.exists,
    child?_eq_some_iff]
  constructor
  · rintro ⟨slot, held, ⟨hs, hg⟩, below, hl, he⟩
    exact ⟨slot, held, below, hs, hg, hl, he⟩
  · rintro ⟨slot, held, below, hs, hg, hl, he⟩
    exact ⟨slot, held, ⟨hs, hg⟩, below, hl, he⟩

theorem locate_eq_some_nil_iff {v : Value} {path : Path} : v.locate path = some [] ↔ path = [] := by
  cases path with
  | nil => simp [locate]
  | cons segment rest =>
    constructor
    · intro h
      obtain ⟨_, _, _, _, _, _, he⟩ := locate_cons_eq_some_iff.mp h
      exact absurd he (by simp)
    · intro h
      exact absurd h (by simp)

/-- **Reading is locating, then looking.** -/
theorem resolve_eq (v : Value) (path : Path) :
    v.resolve path = (v.locate path).bind fun location => v.at? location := by
  induction path generalizing v with
  | nil => rfl
  | cons segment rest ih =>
    rw [resolve_cons, locate]
    cases hc : v.child? segment with
    | none => rfl
    | some found =>
      obtain ⟨slot, held⟩ := found
      simp only [Option.bind_some, ih held]
      cases held.locate rest with
      | none => rfl
      | some below => simp [at?, (child?_eq_some_iff.mp hc).2]

theorem exists_at?_of_locate {v : Value} {path : Path} {location : Location}
    (h : v.locate path = some location) : ∃ held, v.at? location = some held := by
  induction path generalizing v location with
  | nil =>
    rw [locate, Option.some.injEq] at h
    exact ⟨v, by rw [← h, at?]⟩
  | cons segment rest ih =>
    obtain ⟨slot, held, below, _, hg, hl, rfl⟩ := locate_cons_eq_some_iff.mp h
    obtain ⟨found, hf⟩ := ih hl
    exact ⟨found, by rw [at?, hg, Option.bind_some, hf]⟩

theorem resolve_eq_some_iff {v held : Value} {path : Path} :
    v.resolve path = some held ↔
      ∃ location, v.locate path = some location ∧ v.at? location = some held := by
  rw [resolve_eq, Option.bind_eq_some_iff]

theorem locate_of_resolve_none {v : Value} {path : Path} (h : v.resolve path = none) :
    v.locate path = none := by
  cases hl : v.locate path with
  | none => rfl
  | some location =>
    obtain ⟨held, hh⟩ := exists_at?_of_locate hl
    exact absurd (h.symm.trans (resolve_eq_some_iff.mpr ⟨location, hl, hh⟩)) (by simp)

theorem isSome_resolve_iff {v : Value} {path : Path} :
    (v.resolve path).isSome = true ↔ ∃ location, v.locate path = some location := by
  rw [resolve_eq]
  cases hl : v.locate path with
  | none => simp
  | some location =>
    obtain ⟨held, hh⟩ := exists_at?_of_locate hl
    simp [hh]

/-- **Changing along a path is locating, then editing**, if the last step of the change is an edit
of the slot that the last segment selects. -/
theorem update?_eq (change : Value → Option Value) (edit : Edit) (last : Segment)
    (hlast : ∀ v : Value, change v =
      (v.child? last).map fun found => v.editSlot edit found.1)
    (v : Value) (parent : Path) :
    v.update? change parent =
      (v.locate (parent ++ [last])).map fun location => v.edit edit location := by
  induction parent generalizing v with
  | nil =>
    rw [update?, hlast, List.nil_append, locate]
    cases v.child? last with
    | none => rfl
    | some found => rfl
  | cons segment rest ih =>
    rw [update?_cons, List.cons_append, locate]
    cases hc : v.child? segment with
    | none => rfl
    | some found =>
      obtain ⟨slot, held⟩ := found
      have hget := (child?_eq_some_iff.mp hc).2
      simp only [Option.bind_some, ih held]
      cases hl : held.locate (rest ++ [last]) with
      | none => rfl
      | some below =>
        -- There is a segment left, so the change is not to the slot of this one.
        cases below with
        | nil => exact absurd (locate_eq_some_nil_iff.mp hl) (by simp)
        | cons next below => simp [edit_cons edit next below hget]

/-- **Overwriting is locating, then writing.** -/
theorem assign?_eq {v : Value} {path : Path} (new : Value) (h : path ≠ []) :
    v.assign? path new = (v.locate path).map fun location => v.edit (.write new) location := by
  obtain ⟨parent, last, rfl⟩ : ∃ parent last, path = parent ++ [last] :=
    ⟨path.dropLast, path.getLast h, (List.dropLast_concat_getLast h).symm⟩
  rw [← update?_eq (fun container => (container.child? last).map fun found =>
    container.put found.1 new) (.write new) last (fun _ => rfl)]
  clear h
  -- The path of an overwrite ends at what is overwritten, so its last step is taken apart here.
  rw [assign?]
  induction parent generalizing v with
  | nil =>
    rw [List.nil_append, update?_cons, update?]
    cases v.child? last <;> rfl
  | cons segment rest ih => simp only [List.cons_append, update?_cons, ih]

/-- **Removing is locating, then dropping.** -/
theorem erase?_eq (v : Value) (parent : Path) (last : Segment) :
    v.erase? parent last =
      (v.locate (parent ++ [last])).map fun location => v.edit .drop location :=
  update?_eq _ .drop last (fun _ => rfl) v parent

/-! ## What an edit leaves alone -/

variable {change : Edit} {place other : Location}

/-- **An edit leaves every location apart from it as it was.** -/
theorem at?_edit_of_apart (v : Value) (hk : ∀ slot ∈ place.getLast?, change.Keeps slot)
    (h : other.Apart place) : (v.edit change place).at? other = v.at? other := by
  induction place generalizing v other with
  | nil => rfl
  | cons slot rest ih =>
    cases other with
    | nil => exact absurd h Location.not_nil_apart
    | cons first below =>
      cases rest with
      | nil =>
        have hne : first ≠ slot := by
          rintro rfl
          exact Location.not_apart_nil (Location.apart_cons_self.mp h)
        rw [edit_singleton, at?, get?_editSlot_of_ne v (hk slot rfl) hne, at?]
      | cons next rest =>
        cases hg : v.get? slot with
        | none => rw [edit, hg]
        | some held =>
          rw [edit_cons change next rest hg, at?, at?]
          by_cases he : first = slot
          · subst he
            rw [get?_put_self _ hg, hg, Option.bind_some, Option.bind_some]
            exact ih held hk (Location.apart_cons_self.mp h)
          · rw [get?_put_of_ne v _ he]

/-- **The paths that lead to a location apart from an edit still lead there.** -/
theorem locate_edit_of_apart {v : Value} {path : Path}
    (hk : ∀ slot ∈ place.getLast?, change.Keeps slot) (hl : v.locate path = some other)
    (h : other.Apart place) : (v.edit change place).locate path = some other := by
  induction path generalizing v other place with
  | nil =>
    rw [locate, Option.some.injEq] at hl
    subst hl
    exact absurd h Location.not_nil_apart
  | cons segment path ih =>
    obtain ⟨first, held, below, hs, hg, hb, rfl⟩ := locate_cons_eq_some_iff.mp hl
    match place, hk, h with
    | [], _, h => exact absurd h Location.not_apart_nil
    | [slot], hk, h =>
      have hne : first ≠ slot := by
        rintro rfl
        exact Location.not_apart_nil (Location.apart_cons_self.mp h)
      refine locate_cons_eq_some_iff.mpr ⟨first, held, below, ?_, ?_, hb, rfl⟩
      · rw [edit_singleton, slot?_editSlot, hs]
      · rw [edit_singleton, get?_editSlot_of_ne v (hk slot rfl) hne, hg]
    | slot :: next :: rest, hk, h =>
      cases hg' : v.get? slot with
      | none =>
        rw [edit, hg']
        exact locate_cons_eq_some_iff.mpr ⟨first, held, below, hs, hg, hb, rfl⟩
      | some held' =>
        rw [edit_cons change next rest hg']
        by_cases he : first = slot
        · subst he
          rw [hg, Option.some.injEq] at hg'
          subst hg'
          refine locate_cons_eq_some_iff.mpr
            ⟨first, _, below, ?_, get?_put_self _ hg, ih hk hb (Location.apart_cons_self.mp h), rfl⟩
          rw [slot?_put, hs]
        · refine locate_cons_eq_some_iff.mpr ⟨first, held, below, ?_, ?_, hb, rfl⟩
          · rw [slot?_put, hs]
          · rw [get?_put_of_ne v _ he, hg]

/-- The value has no slots, so only the empty path leads anywhere in it. -/
def IsScalar (v : Value) : Prop := ∀ segment, v.slot? segment = none

theorem locate_of_isScalar {v : Value} {path : Path} {location : Location} (h : v.IsScalar)
    (hl : v.locate path = some location) : path = [] ∧ location = [] := by
  cases path with
  | nil => exact ⟨rfl, by simpa [locate] using hl.symm⟩
  | cons segment path =>
    obtain ⟨_, _, _, hs, _⟩ := locate_cons_eq_some_iff.mp hl
    rw [h segment] at hs
    exact absurd hs (by simp)

theorem get?_editSlot_self {v held new : Value} {slot : Slot} (hk : change.Keeps slot)
    (hg : v.get? slot = some held) (hn : (v.editSlot change slot).get? slot = some new) :
    change = .write new := by
  cases change with
  | write written =>
    rw [editSlot, get?_put_self written hg, Option.some.injEq] at hn
    rw [hn]
  | drop =>
    cases slot with
    | item index => exact absurd rfl (hk rfl index)
    | field key =>
      cases v with
      | object fields =>
        have hnone : (editSlot .drop (.object fields) (.field key)).get? (.field key) = none :=
          Fields.get?_erase_self fields key
        rw [hnone] at hn
        exact absurd hn (by simp)
      | _ => exact absurd hg (by simp [get?])

/-- **An edit makes no new places**, if what it writes is a scalar: whatever path leads somewhere
afterwards led to the same place before. -/
theorem locate_of_locate_edit {v old : Value} {path : Path}
    (hk : ∀ slot ∈ place.getLast?, change.Keeps slot)
    (hs : ∀ new, change = .write new → new.IsScalar) (hp : v.at? place = some old)
    (hl : (v.edit change place).locate path = some other) : v.locate path = some other := by
  induction path generalizing v other place with
  | nil => exact hl
  | cons segment path ih =>
    match place, hk, hp, hl with
    | [], _, _, hl => exact hl
    | [slot], hk, hp, hl =>
      rw [edit_singleton] at hl
      obtain ⟨first, held, below, hsel, hget, hb, rfl⟩ := locate_cons_eq_some_iff.mp hl
      rw [slot?_editSlot] at hsel
      by_cases he : first = slot
      · -- The segment selects the edited slot, which holds a scalar now: the path ends here.
        subst he
        obtain ⟨held', hg⟩ : ∃ held', v.get? first = some held' := by
          rw [at?, Option.bind_eq_some_iff] at hp
          exact ⟨hp.choose, hp.choose_spec.1⟩
        have hw := get?_editSlot_self (hk first rfl) hg hget
        obtain ⟨rfl, rfl⟩ := locate_of_isScalar (hs held hw) hb
        exact locate_cons_eq_some_iff.mpr ⟨first, held', [], hsel, hg, rfl, rfl⟩
      · rw [get?_editSlot_of_ne v (hk slot rfl) he] at hget
        exact locate_cons_eq_some_iff.mpr ⟨first, held, below, hsel, hget, hb, rfl⟩
    | slot :: next :: rest, hk, hp, hl =>
      rw [at?, Option.bind_eq_some_iff] at hp
      obtain ⟨inner, hg, hin⟩ := hp
      rw [edit_cons change next rest hg] at hl
      obtain ⟨first, held, below, hsel, hget, hb, rfl⟩ := locate_cons_eq_some_iff.mp hl
      rw [slot?_put] at hsel
      by_cases he : first = slot
      · subst he
        rw [get?_put_self _ hg, Option.some.injEq] at hget
        subst hget
        have hk' : ∀ slot ∈ (next :: rest).getLast?, change.Keeps slot := hk
        exact locate_cons_eq_some_iff.mpr ⟨first, inner, below, hsel, hg, ih hk' hin hb, rfl⟩
      · rw [get?_put_of_ne v _ he] at hget
        exact locate_cons_eq_some_iff.mpr ⟨first, held, below, hsel, hget, hb, rfl⟩

end Value
end Clearance
