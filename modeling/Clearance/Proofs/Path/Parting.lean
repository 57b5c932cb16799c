import Clearance.Proofs.Path.Location

/-!
# Edits that spare each other

`Edit.Spares` says that an edit at one place does not reach another: the two part somewhere, and
the edit takes no item out of the very list in which they part. It asks less than that the edit
takes no item out of any list, because what moves inside a list moves nothing outside it.

Under it **an edit changes neither what stands at the other place nor how a path gets there**
(`at?_edit_of_spares`, `readsAlike_edit`), and **two edits that spare each other can be done in
either order** (`edit_comm`). How a path gets somewhere includes that it gets nowhere: an edit
makes no path lead anywhere that parts from its own.
-/

set_option autoImplicit false

namespace Clearance

/-! ## Paths that part -/

/-- The longest path that both begin with is `common`, and they go on by different segments. -/
structure Path.Part (first second common : Path) (a b : Segment) : Prop where
  ne : a ≠ b
  left : common ++ [a] <+: first
  right : common ++ [b] <+: second

namespace Path

variable {first second common : Path} {a b : Segment}

theorem Part.symm (h : Part first second common a b) : Part second first common b a :=
  ⟨h.ne.symm, h.right, h.left⟩

theorem Part.cons (h : Part first second common a b) (segment : Segment) :
    Part (segment :: first) (segment :: second) (segment :: common) a b :=
  ⟨h.ne, List.cons_prefix_cons.mpr ⟨rfl, h.left⟩, List.cons_prefix_cons.mpr ⟨rfl, h.right⟩⟩

/-- Two paths part unless one is the beginning of the other. -/
theorem exists_part (hf : ¬ first <+: second) (hs : ¬ second <+: first) :
    ∃ common a b, Part first second common a b := by
  induction first generalizing second with
  | nil => exact absurd List.nil_prefix hf
  | cons a first ih =>
    cases second with
    | nil => exact absurd List.nil_prefix hs
    | cons b second =>
      by_cases hab : a = b
      · subst hab
        rw [List.cons_prefix_cons] at hf hs
        obtain ⟨common, c, d, h⟩ := ih (fun h => hf ⟨rfl, h⟩) (fun h => hs ⟨rfl, h⟩)
        exact ⟨a :: common, c, d, h.cons a⟩
      · exact ⟨[], a, b, hab, ⟨first, rfl⟩, ⟨second, rfl⟩⟩

/-- Where two paths part there is no doubt about it. -/
theorem Part.eq {common' : Path} {a' b' : Segment} (h : Part first second common a b)
    (h' : Part first second common' a' b') : common' = common ∧ a' = a ∧ b' = b := by
  obtain ⟨hne, ⟨rest, rfl⟩, ⟨rest', rfl⟩⟩ := h
  obtain ⟨hne', hf', hs'⟩ := h'
  induction common generalizing common' with
  | nil =>
    cases common' with
    | nil =>
      have ha := (List.cons_prefix_cons.mp hf').1
      have hb := (List.cons_prefix_cons.mp hs').1
      exact ⟨rfl, ha, hb⟩
    | cons segment common' =>
      have ha := (List.cons_prefix_cons.mp hf').1
      have hb := (List.cons_prefix_cons.mp hs').1
      exact absurd (ha.symm.trans hb) hne
  | cons first common ih =>
    cases common' with
    | nil =>
      have ha := (List.cons_prefix_cons.mp hf').1
      have hb := (List.cons_prefix_cons.mp hs').1
      exact absurd (ha.trans hb.symm) hne'
    | cons segment common' =>
      have hf := List.cons_prefix_cons.mp hf'
      have hs := List.cons_prefix_cons.mp hs'
      obtain ⟨rfl, rfl, rfl⟩ := ih hf.2 hs.2
      exact ⟨by rw [hf.1], rfl, rfl⟩

end Path

/-! ## Edits of one slot -/

/-- The edit at a place does not reach a location. -/
inductive Edit.Spares (change : Edit) : Location → Location → Prop where
  | part {slot other : Slot} {below rest : Location} (hne : other ≠ slot)
      (hk : below = [] → change.Keeps slot) : Spares change (slot :: below) (other :: rest)
  | cons {slot : Slot} {place location : Location} (h : Spares change place location) :
      Spares change (slot :: place) (slot :: location)

theorem Edit.Spares.ne_nil {change : Edit} {place location : Location}
    (h : change.Spares place location) : place ≠ [] := by
  cases h with
  | part _ _ => simp
  | cons _ => simp

/-- Places that part below a location spare each other if they do so where they part. -/
theorem Edit.Spares.append {change : Edit} {place location : Location}
    (h : change.Spares place location) (above : Location) :
    change.Spares (above ++ place) (above ++ location) := by
  induction above with
  | nil => exact h
  | cons slot above ih => exact .cons ih

namespace Value

variable {change first second : Edit} {slot other : Slot} {below rest : Location}

theorem edit_cons_of_some {v held : Value} (change : Edit) (h : v.get? slot = some held)
    (hne : below ≠ []) : v.edit change (slot :: below) = v.put slot (held.edit change below) := by
  obtain ⟨next, rest, rfl⟩ := List.exists_cons_of_ne_nil hne
  exact edit_cons change next rest h

theorem edit_cons_of_none {v : Value} (change : Edit) (h : v.get? slot = none)
    (hne : below ≠ []) : v.edit change (slot :: below) = v := by
  obtain ⟨next, rest, rfl⟩ := List.exists_cons_of_ne_nil hne
  rw [edit, h]

theorem slot?_edit (change : Edit) (v : Value) (place : Location) (segment : Segment) :
    (v.edit change place).slot? segment = v.slot? segment := by
  match place with
  | [] => rfl
  | [slot] => exact slot?_editSlot change v slot segment
  | slot :: next :: rest =>
    cases hg : v.get? slot with
    | none => rw [edit_cons_of_none change hg (by simp)]
    | some held => rw [edit_cons change next rest hg, slot?_put]

theorem get?_edit_of_ne (v : Value) (hk : below = [] → change.Keeps slot) (h : other ≠ slot) :
    (v.edit change (slot :: below)).get? other = v.get? other := by
  by_cases hne : below = []
  · rw [hne, edit_singleton, get?_editSlot_of_ne v (hk hne) h]
  · cases hg : v.get? slot with
    | none => rw [edit_cons_of_none change hg hne]
    | some held => rw [edit_cons_of_some change hg hne, get?_put_of_ne v _ h]

theorem editSlot_comm (v : Value) (hk : first.Keeps slot) (hk' : second.Keeps other)
    (h : other ≠ slot) :
    (v.editSlot first slot).editSlot second other =
      (v.editSlot second other).editSlot first slot := by
  cases second with
  | write new => exact put_editSlot_of_ne v new hk h
  | drop =>
    cases first with
    | write new => exact (put_editSlot_of_ne v new hk' h.symm).symm
    | drop =>
      -- Neither slot is an item, and fields are dropped by a filter.
      cases v with
      | object fields =>
        cases slot with
        | item index => exact absurd rfl (hk rfl index)
        | field key =>
          cases other with
          | item index => exact absurd rfl (hk' rfl index)
          | field key' =>
            simp only [editSlot, erase, Fields.erase, List.filter_filter, Bool.and_comm]
      | list items =>
        cases slot with
        | item index => exact absurd rfl (hk rfl index)
        | field key =>
          cases other with
          | item index => exact absurd rfl (hk' rfl index)
          | field key' => rfl
      | _ => rfl

theorem editSlot_edit_of_ne (v : Value) (hk : below = [] → first.Keeps slot)
    (hk' : second.Keeps other) (h : other ≠ slot) :
    (v.edit first (slot :: below)).editSlot second other =
      (v.editSlot second other).edit first (slot :: below) := by
  by_cases hne : below = []
  · rw [hne, edit_singleton, edit_singleton, editSlot_comm v (hk hne) hk' h]
  · have hslot : (v.editSlot second other).get? slot = v.get? slot :=
      get?_editSlot_of_ne v hk' h.symm
    cases hg : v.get? slot with
    | none =>
      rw [edit_cons_of_none first hg hne, edit_cons_of_none first (hslot.trans hg) hne]
    | some held =>
      rw [edit_cons_of_some first hg hne, edit_cons_of_some first (hslot.trans hg) hne,
        put_editSlot_of_ne v _ hk' h.symm]

theorem keeps_write (new : Value) (slot : Slot) : (Edit.write new).Keeps slot :=
  fun hdrop => absurd hdrop (by simp)

theorem edit_comm_of_ne (v : Value) (hk : below = [] → first.Keeps slot)
    (hk' : rest = [] → second.Keeps other) (h : other ≠ slot) :
    (v.edit first (slot :: below)).edit second (other :: rest) =
      (v.edit second (other :: rest)).edit first (slot :: below) := by
  by_cases hne : rest = []
  · rw [hne, edit_singleton, edit_singleton, editSlot_edit_of_ne v hk (hk' hne) h]
  · have hother : (v.edit first (slot :: below)).get? other = v.get? other :=
      get?_edit_of_ne v hk h
    cases hg : v.get? other with
    | none =>
      rw [edit_cons_of_none second hg hne, edit_cons_of_none second (hother.trans hg) hne]
    | some held =>
      rw [edit_cons_of_some second hg hne, edit_cons_of_some second (hother.trans hg) hne]
      -- Below another slot, an edit is an overwrite of that slot.
      exact editSlot_edit_of_ne v hk (keeps_write _ other) h

/-! ## Edits at two places -/

variable {place location : Location}

theorem at?_edit_of_spares (v : Value) (h : change.Spares place location) :
    (v.edit change place).at? location = v.at? location := by
  induction h generalizing v with
  | part hne hk => rw [at?, get?_edit_of_ne v hk hne, at?]
  | @cons slot place location h ih =>
    cases hg : v.get? slot with
    | none => rw [edit_cons_of_none change hg h.ne_nil]
    | some held =>
      rw [edit_cons_of_some change hg h.ne_nil, at?, at?, get?_put_self _ hg, hg,
        Option.bind_some, Option.bind_some, ih held]

/-- **Edits that spare each other can be done in either order.** -/
theorem edit_comm (v : Value) (h : first.Spares place location)
    (h' : second.Spares location place) :
    (v.edit first place).edit second location = (v.edit second location).edit first place := by
  induction h generalizing v with
  | part hne hk =>
    cases h' with
    | part _ hk' => exact edit_comm_of_ne v hk hk' hne
    | cons _ => exact absurd rfl hne
  | @cons slot place location h ih =>
    cases h' with
    | part hne _ => exact absurd rfl hne
    | cons h' =>
      cases hg : v.get? slot with
      | none =>
        rw [edit_cons_of_none first hg h.ne_nil, edit_cons_of_none second hg h'.ne_nil,
          edit_cons_of_none first hg h.ne_nil]
      | some held =>
        rw [edit_cons_of_some first hg h.ne_nil, edit_cons_of_some second hg h'.ne_nil,
          edit_cons_of_some _ (get?_put_self _ hg) h'.ne_nil,
          edit_cons_of_some _ (get?_put_self _ hg) h.ne_nil, put_put, put_put, ih held h']

/-! ## Paths that part from the path of an edit -/

theorem locate_append (v : Value) (first second : Path) :
    v.locate (first ++ second) =
      (v.locate first).bind fun above =>
        (v.at? above).bind fun held => (held.locate second).map (above ++ ·) := by
  induction first generalizing v with
  | nil => simp [locate, at?]
  | cons segment first ih =>
    rw [List.cons_append, locate, locate]
    cases hc : v.child? segment with
    | none => rfl
    | some found =>
      obtain ⟨slot, held⟩ := found
      have hget := (child?_eq_some_iff.mp hc).2
      simp only [Option.bind_some, ih held]
      cases held.locate first with
      | none => rfl
      | some above =>
        simp only [Option.bind_some, Option.map_some, at?, hget]
        cases held.at? above with
        | none => rfl
        | some inner => cases hs : inner.locate second <;> simp [hs]

/-- A path that goes on by a segment leads through the slot that the segment selects. -/
theorem exists_of_locate_append {v : Value} {common rest : Path} {segment : Segment}
    (hl : v.locate (common ++ segment :: rest) = some place) :
    ∃ above held slot inner below, v.locate common = some above ∧ v.at? above = some held ∧
      held.child? segment = some (slot, inner) ∧ inner.locate rest = some below ∧
      place = above ++ slot :: below := by
  rw [locate_append] at hl
  simp only [Option.bind_eq_some_iff, Option.map_eq_some_iff] at hl
  obtain ⟨above, ha, held, hh, tail, ht, rfl⟩ := hl
  obtain ⟨slot, inner, below, hs, hg, hb, rfl⟩ := locate_cons_eq_some_iff.mp ht
  exact ⟨above, held, slot, inner, below, ha, hh, child?_eq_some_iff.mpr ⟨hs, hg⟩, hb, rfl⟩

/-- An edit below a location is an edit of what stands there. -/
theorem edit_below {v held : Value} {path : Path} {above : Location} (change : Edit) (slot : Slot)
    (below : Location) (hl : v.locate path = some above) (ha : v.at? above = some held) :
    (v.edit change (above ++ slot :: below)).locate path = some above ∧
      (v.edit change (above ++ slot :: below)).at? above =
        some (held.edit change (slot :: below)) := by
  induction path generalizing v above with
  | nil =>
    rw [locate, Option.some.injEq] at hl
    subst hl
    rw [at?, Option.some.injEq] at ha
    subst ha
    exact ⟨rfl, rfl⟩
  | cons segment path ih =>
    obtain ⟨first, inner, rest, hs, hg, hb, rfl⟩ := locate_cons_eq_some_iff.mp hl
    rw [at?, hg, Option.bind_some] at ha
    obtain ⟨hlocate, hat⟩ := ih hb ha
    have hedit : v.edit change (first :: rest ++ slot :: below) =
        v.put first (inner.edit change (rest ++ slot :: below)) :=
      edit_cons_of_some change hg (by simp)
    rw [hedit]
    refine ⟨locate_cons_eq_some_iff.mpr ⟨first, _, rest, ?_, get?_put_self _ hg, hlocate, rfl⟩, ?_⟩
    · rw [slot?_put, hs]
    · rw [at?, get?_put_self _ hg, Option.bind_some, hat]

/-- An edit is seen from the way to it as an edit of what stands there. -/
theorem resolve_edit_below {v : Value} {common rest : Path} {segment : Segment} (change : Edit)
    (hl : v.locate (common ++ segment :: rest) = some place) :
    ∃ held below, v.resolve common = some held ∧
      (v.edit change place).resolve common = some (held.edit change below) := by
  obtain ⟨above, held, slot, inner, below, ha, hh, _, _, rfl⟩ := exists_of_locate_append hl
  obtain ⟨habove, hat⟩ := edit_below change slot below ha hh
  exact ⟨held, slot :: below, resolve_eq_some_iff.mpr ⟨above, ha, hh⟩,
    resolve_eq_some_iff.mpr ⟨above, habove, hat⟩⟩

/-- A path leads to one place in both values or to none in either, and finds the same there. -/
structure ReadsAlike (path : Path) (v w : Value) : Prop where
  locate : w.locate path = v.locate path
  at? : ∀ place, v.locate path = some place → w.at? place = v.at? place

theorem ReadsAlike.refl (path : Path) (v : Value) : ReadsAlike path v v :=
  ⟨rfl, fun _ _ => rfl⟩

theorem ReadsAlike.resolve {path : Path} {v w : Value} (h : ReadsAlike path v w) :
    w.resolve path = v.resolve path := by
  rw [resolve_eq, resolve_eq, h.locate]
  cases hl : v.locate path with
  | none => rfl
  | some place => exact h.at? place hl

/-- In what `common` leads to, the segment `a` selects a slot that `b` does not, and an edit that
ends in this slot leaves the others where they are. -/
def Parts (v : Value) (change : Edit) (common : Path) (a b : Segment) (rest : Path) : Prop :=
  ∀ held slot inner, v.resolve common = some held → held.child? a = some (slot, inner) →
    held.slot? b ≠ some slot ∧ (rest = [] → change.Keeps slot)

variable {v : Value} {common rest rest' : Path} {a b : Segment}

theorem spares_of_parts (hp : v.Parts change common a b rest)
    (hl : v.locate (common ++ a :: rest) = some place)
    (hl' : v.locate (common ++ b :: rest') = some location) : change.Spares place location := by
  obtain ⟨above, held, slot, inner, below, ha, hh, hc, hb, rfl⟩ := exists_of_locate_append hl
  obtain ⟨above', held', slot', inner', below', ha', hh', hc', hb', rfl⟩ :=
    exists_of_locate_append hl'
  rw [ha, Option.some.injEq] at ha'
  subst ha'
  rw [hh, Option.some.injEq] at hh'
  subst hh'
  have hresolve := resolve_eq_some_iff.mpr ⟨above, ha, hh⟩
  obtain ⟨hne, hk⟩ := hp held slot inner hresolve hc
  refine Edit.Spares.append (.part ?_ ?_) above
  · rintro rfl
    exact hne (child?_eq_some_iff.mp hc').1
  · rintro rfl
    exact hk (locate_eq_some_nil_iff.mp hb)

/-- **An edit does not show along a path that parts from its own.** -/
theorem readsAlike_edit (hp : v.Parts change common a b rest)
    (hl : v.locate (common ++ a :: rest) = some place) :
    ReadsAlike (common ++ b :: rest') v (v.edit change place) := by
  refine ⟨?_, fun location hl' => at?_edit_of_spares v (spares_of_parts hp hl hl')⟩
  obtain ⟨above, held, slot, inner, below, ha, hh, hc, hb, rfl⟩ := exists_of_locate_append hl
  have hresolve := resolve_eq_some_iff.mpr ⟨above, ha, hh⟩
  obtain ⟨hne, hk⟩ := hp held slot inner hresolve hc
  have hkeeps : below = [] → change.Keeps slot := by
    rintro rfl
    exact hk (locate_eq_some_nil_iff.mp hb)
  -- Up to where the paths part nothing has moved; there, the other segment selects another slot.
  have hchild : (held.edit change (slot :: below)).child? b = held.child? b := by
    rw [child?, child?, slot?_edit]
    cases hs : held.slot? b with
    | none => rfl
    | some other =>
      have hother : other ≠ slot := by
        rintro rfl
        exact hne hs
      rw [Option.bind_some, Option.bind_some, get?_edit_of_ne held hkeeps hother]
  obtain ⟨habove, hat⟩ := edit_below change slot below ha hh
  rw [locate_append, locate_append, habove, ha, Option.bind_some, Option.bind_some, hat, hh,
    Option.bind_some, Option.bind_some, locate, locate, hchild]

theorem length_put {items items' : List Value} {new : Value}
    (h : (Value.list items).put slot new = .list items') : items'.length = items.length := by
  cases slot with
  | field key => rw [← list.inj h]
  | item index => rw [← list.inj h, List.length_set]

theorem length_edit_le {items items' : List Value}
    (h : (Value.list items).edit change place = .list items') :
    items'.length ≤ items.length := by
  have hsame : Value.list items = .list items' → items'.length ≤ items.length :=
    fun h => Nat.le_of_eq (by rw [list.inj h])
  match place with
  | [] => exact hsame h
  | [slot] =>
    cases change with
    | write new => exact Nat.le_of_eq (length_put h)
    | drop =>
      cases slot with
      | field key => exact hsame h
      | item index =>
        rw [← list.inj h]
        exact List.length_eraseIdx_le items index
  | slot :: next :: rest =>
    cases hg : (Value.list items).get? slot with
    | none =>
      rw [edit_cons_of_none change hg (by simp)] at h
      exact hsame h
    | some held =>
      rw [edit_cons change next rest hg] at h
      exact Nat.le_of_eq (length_put h)

/-- What an edit turns into a list was a list before, and not a shorter one. -/
theorem exists_list_of_edit {items' : List Value} (h : v.edit change place = .list items') :
    ∃ items, v = .list items ∧ items'.length ≤ items.length := by
  have hslot := slot?_edit change v place (.index 0)
  rw [h] at hslot
  cases v with
  | list items => exact ⟨items, rfl, length_edit_le h⟩
  | _ => exact absurd hslot (by simp [slot?])

end Value
end Clearance
