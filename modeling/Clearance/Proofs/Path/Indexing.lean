import Clearance.Containment
import Clearance.Proofs.Containment.Equality
import Clearance.Proofs.Number.Numerals
import Clearance.Proofs.Path.Location

/-!
# Indices and decimal keys

**A segment acts through its text.** An object looks the text up as a key and a list reads it as a
numeral, so an index and the key that writes it in decimal select the same slot of whatever they
meet (`slot?_eq_of_text_eq`), and either may stand for the other anywhere in a path. Nothing else
may: two paths lead alike in all values only if they have the same texts
(`resolve_eq_iff_texts_eq`). The value that tells them apart is one in which the first leads
somewhere and no path with other texts does (`along`).

Keys that are no decimal text of an index are where lists and objects disagree. A list takes `"007"`
and `"+7"` for its item 7, by the value of the numeral, and an object takes no key for another.
-/

set_option autoImplicit false

namespace Clearance

/-! ## Lookups in sorted fields -/

theorem Fields.get?_eq_some_iff_mem {α : Type} {fields : List (String × α)} (h : Sorted fields)
    {key : String} {held : α} : get? fields key = some held ↔ (key, held) ∈ fields := by
  constructor
  · exact mem_of_get?
  · intro hmem
    obtain ⟨before, after, rfl⟩ := List.append_of_mem hmem
    refine get?_append ?_ held after
    intro hbefore
    have hnodup := h.nodup
    rw [keys, List.map_append, List.map_cons] at hnodup
    exact (List.nodup_append.mp hnodup).2.2 key hbefore key List.mem_cons_self rfl

namespace Value

variable {v held : Value} {a b : Segment} {path other : Path}

/-! ## One segment -/

theorem slot?_list_text (items : List Value) (segment : Segment) :
    (list items).slot? segment = (index? segment.text.toList).map .item := by
  cases segment with
  | key name => rfl
  | index position => rw [Segment.text, Number.index?_toString, Option.map_some, slot?]

theorem slot?_eq_of_text_eq (v : Value) (h : a.text = b.text) : v.slot? a = v.slot? b := by
  cases v with
  | object fields => rw [slot?, slot?, h]
  | list items => rw [slot?_list_text, slot?_list_text, h]
  | _ => cases a <;> cases b <;> rfl

theorem child?_eq_of_text_eq (v : Value) (h : a.text = b.text) : v.child? a = v.child? b := by
  rw [child?, child?, slot?_eq_of_text_eq v h]

theorem resolve_singleton (v : Value) (segment : Segment) :
    v.resolve [segment] = (v.child? segment).map (·.2) := by
  rw [resolve_cons]
  cases v.child? segment <;> rfl

/-- A list reads a key as a numeral and selects by its value. -/
theorem resolve_list_key_iff {items : List Value} {name : String} :
    (list items).resolve [.key name] = some held ↔
      ∃ index, Number.Numeral name.toList index ∧ items[index]? = some held := by
  simp only [resolve_singleton, Option.map_eq_some_iff, Prod.exists, child?_eq_some_iff,
    slot?, ← Number.index?_eq_some_iff]
  constructor
  · rintro ⟨_, _, ⟨⟨index, hindex, rfl⟩, hget⟩, rfl⟩
    exact ⟨index, hindex, hget⟩
  · rintro ⟨index, hindex, hget⟩
    exact ⟨.item index, held, ⟨⟨index, hindex, rfl⟩, hget⟩, rfl⟩

/-- No list is long enough for an index that 64 bits do not hold, so reading the key into 64 bits
selects the same. -/
theorem resolve_list_key_eq {items : List Value} (h : items.length ≤ Number.largestUnsigned + 1)
    (name : String) :
    (list items).resolve [.key name] =
      (Number.unsigned? name.toList).bind fun index => items[index]? := by
  ext held
  rw [resolve_list_key_iff, Number.unsigned?_eq, Option.bind_eq_some_iff]
  simp only [Option.filter_eq_some_iff, Number.index?_eq_some_iff]
  constructor
  · rintro ⟨index, hnumeral, hget⟩
    obtain ⟨hlt, _⟩ := List.getElem?_eq_some_iff.mp hget
    have hfits : Number.fitsUnsigned index = true := decide_eq_true (by omega)
    exact ⟨index, ⟨hnumeral, hfits⟩, hget⟩
  · rintro ⟨index, ⟨hnumeral, _⟩, hget⟩
    exact ⟨index, hnumeral, hget⟩

/-- An object selects by the key itself. -/
theorem resolve_object_key_iff {fields : List (String × Value)} (h : Fields.Sorted fields)
    {name : String} : (object fields).resolve [.key name] = some held ↔ (name, held) ∈ fields := by
  rw [← Fields.get?_eq_some_iff_mem h, resolve_singleton, child?, slot?, Option.bind_some,
    Option.map_map, Segment.text, get?]
  cases Fields.get? fields name <;> rfl

/-! ## Whole paths -/

theorem locate_eq_of_texts_eq (v : Value)
    (h : path.map Segment.text = other.map Segment.text) : v.locate path = v.locate other := by
  induction path generalizing v other with
  | nil => rw [List.map_eq_nil_iff.mp h.symm]
  | cons a rest ih =>
    obtain ⟨b, rest', rfl, htext, hrest⟩ := List.map_eq_cons_iff.mp h.symm
    rw [locate, locate, child?_eq_of_text_eq v htext]
    simp only [ih _ hrest.symm]

theorem resolve_eq_of_texts_eq (v : Value)
    (h : path.map Segment.text = other.map Segment.text) : v.resolve path = v.resolve other := by
  rw [resolve_eq, resolve_eq, locate_eq_of_texts_eq v h]

theorem update?_eq_of_texts_eq (change : Value → Option Value) (v : Value)
    (h : path.map Segment.text = other.map Segment.text) :
    v.update? change path = v.update? change other := by
  induction path generalizing v other with
  | nil => rw [List.map_eq_nil_iff.mp h.symm]
  | cons a rest ih =>
    obtain ⟨b, rest', rfl, htext, hrest⟩ := List.map_eq_cons_iff.mp h.symm
    rw [update?_cons, update?_cons, child?_eq_of_text_eq v htext]
    simp only [ih _ hrest.symm]

/-! ## Telling paths apart -/

/-- The value in which a path leads to null, and no path with other texts does. -/
def along : Path → Value
  | [] => .null
  | segment :: rest => .object [(segment.text, along rest)]

theorem wellFormed_along (path : Path) : (along path).WellFormed := by
  induction path with
  | nil => exact .null
  | cons segment rest ih =>
    refine .object (List.pairwise_singleton _ _) ?_
    intro field hmem
    obtain rfl := List.mem_singleton.mp hmem
    exact ih

theorem resolve_along_cons (segment b : Segment) (rest other : Path) :
    (along (segment :: rest)).resolve (b :: other) =
      if segment.text = b.text then (along rest).resolve other else none := by
  rw [along, resolve_cons, child?, slot?, Option.bind_some, get?, Fields.get?_cons]
  by_cases htext : segment.text = b.text
  · rw [if_pos htext, if_pos htext]
    rfl
  · rw [if_neg htext, if_neg htext]
    rfl

theorem resolve_along_eq_null_iff :
    (along path).resolve other = some .null ↔
      path.map Segment.text = other.map Segment.text := by
  induction path generalizing other with
  | nil =>
    cases other with
    | nil => simp [along, resolve]
    | cons b other => simp [along, resolve_cons, child?, slot?]
  | cons a rest ih =>
    cases other with
    | nil => simp [along, resolve]
    | cons b other =>
      rw [resolve_along_cons, List.map_cons, List.map_cons, List.cons.injEq, ← ih]
      by_cases htext : a.text = b.text
      · rw [if_pos htext]
        simp [htext]
      · rw [if_neg htext]
        simp [htext]

/-- **Two paths lead alike in all values exactly if they have the same texts.** -/
theorem resolve_eq_iff_texts_eq :
    (∀ v : Value, v.WellFormed → v.resolve path = v.resolve other) ↔
      path.map Segment.text = other.map Segment.text := by
  constructor
  · intro h
    rw [← resolve_along_eq_null_iff, ← h _ (wellFormed_along path)]
    exact resolve_along_eq_null_iff.mpr rfl
  · intro h v _
    exact resolve_eq_of_texts_eq v h

end Value

/-! ## Respelling -/

/-- The second path is the first with some of its indices, any number of them, written as decimal
keys. -/
inductive Path.Respelled : Path → Path → Prop where
  | nil : Respelled [] []
  | keep (segment : Segment) {path other : Path} (h : Respelled path other) :
      Respelled (segment :: path) (segment :: other)
  | spell (position : Nat) {path other : Path} (h : Respelled path other) :
      Respelled (.index position :: path) (.key (toString position) :: other)

theorem Path.Respelled.texts_eq {path other : Path} (h : path.Respelled other) :
    path.map Segment.text = other.map Segment.text := by
  induction h with
  | nil => rfl
  | keep segment _ ih => rw [List.map_cons, List.map_cons, ih]
  | spell position _ ih => rw [List.map_cons, List.map_cons, ih]; rfl

namespace Value

/-- **Indices and their decimal keys are interchangeable, and nothing else is.** A path whose
indices are written as decimal keys, some of them or all, reads, changes and contains the same in
every value. A key and an index that read alike in all values are such a pair, and two paths that
do so have the same texts. On a list a key selects an item exactly if it is a numeral, digits with
any zeros in front and at most one plus sign before them, whose value is an index of the list; no
value wraps around at 64 bits. On an object it selects the field with that very key. -/
theorem decimal_keys_stand_for_indices :
    (∀ path other : Path, path.Respelled other → ∀ v : Value,
      v.resolve path = v.resolve other ∧
        (∀ change, v.update? change path = v.update? change other) ∧
        ∀ pattern, v.contains path pattern = v.contains other pattern) ∧
    (∀ (name : String) (position : Nat),
      (∀ v : Value, v.WellFormed → v.resolve [.key name] = v.resolve [.index position]) →
        name = toString position) ∧
    (∀ path other : Path, (∀ v : Value, v.WellFormed → v.resolve path = v.resolve other) ↔
      path.map Segment.text = other.map Segment.text) ∧
    (∀ (items : List Value) (name : String) (held : Value),
      (list items).resolve [.key name] = some held ↔
        ∃ (index : Nat) (_ : index < items.length),
          Number.Numeral name.toList index ∧ items[index] = held) ∧
    (∀ (text : List Char) (index : Nat), Number.Numeral text index ↔
      ∃ zeros, text = List.replicate zeros '0' ++ Nat.toDigits 10 index ∨
        text = '+' :: (List.replicate zeros '0' ++ Nat.toDigits 10 index)) ∧
    (∀ items : List Value, items.length ≤ Number.largestUnsigned + 1 → ∀ name : String,
      (list items).resolve [.key name] =
        (Number.unsigned? name.toList).bind fun index => items[index]?) ∧
    ∀ fields : List (String × Value), Fields.Sorted fields → ∀ (name : String) (held : Value),
      (object fields).resolve [.key name] = some held ↔ (name, held) ∈ fields := by
  refine ⟨?respelled, ?converse, fun _ _ => resolve_eq_iff_texts_eq, ?onList, ?numerals,
    fun items h name => resolve_list_key_eq h name,
    fun fields h name held => resolve_object_key_iff h⟩
  case respelled =>
    intro path other h v
    have hresolve := resolve_eq_of_texts_eq v h.texts_eq
    refine ⟨hresolve, fun change => update?_eq_of_texts_eq change v h.texts_eq, ?_⟩
    intro pattern
    rw [contains, contains, hresolve]
  case converse =>
    intro name position h
    exact (List.cons.inj (resolve_eq_iff_texts_eq.mp h)).1
  case onList =>
    intro items name held
    simp only [resolve_list_key_iff, List.getElem?_eq_some_iff]
    constructor
    · rintro ⟨index, hnumeral, hlt, hheld⟩
      exact ⟨index, hlt, hnumeral, hheld⟩
    · rintro ⟨index, hlt, hnumeral, hheld⟩
      exact ⟨index, hnumeral, hlt, hheld⟩
  case numerals =>
    intro text index
    exact Number.numeral_iff

/-- Two seats of a row, and the rows by their numbers. -/
def seats : List Value := [.text "window", .text "aisle"]

def rows : List (String × Value) := [("1", .list seats)]

/-- The second seat by an index, by the key for it and by a longer numeral. A numeral that would be
1 in 64 bits selects nothing, and no other numeral than its key finds the row. -/
theorem second_seat_selected :
    Path.Respelled [.index 1, .index 1] [.index 1, .key "1"] ∧
      (object rows).resolve [.index 1, .key "1"] = some (.text "aisle") ∧
      (∀ v : Value, v.WellFormed → v.resolve [.key "1"] = v.resolve [.index 1]) ∧
      "1" = toString 1 ∧
      (list seats).resolve [.key "+0001"] = some (.text "aisle") ∧
      seats.length ≤ Number.largestUnsigned + 1 ∧
      (list seats).resolve [.key "18446744073709551617"] = none ∧
      Fields.Sorted rows ∧ (object rows).resolve [.key "01"] = none := by
  obtain ⟨hrespelled, hconverse, _, honList, _, hbounded, honObject⟩ :=
    decimal_keys_stand_for_indices
  have hpath : Path.Respelled [.index 1, .index 1] [.index 1, .key "1"] :=
    .keep (.index 1) (.spell 1 .nil)
  have halike : ∀ v : Value, v.WellFormed → v.resolve [.key "1"] = v.resolve [.index 1] :=
    fun v _ => (hrespelled [.index 1] [.key "1"] (.spell 1 .nil) v).1.symm
  have hlength : seats.length ≤ Number.largestUnsigned + 1 := by decide
  have hsorted : Fields.Sorted rows := List.pairwise_singleton _ _
  refine ⟨hpath, ?_, halike, hconverse "1" 1 halike, ?_, hlength, ?_, hsorted, ?_⟩
  · rw [← (hrespelled _ _ hpath (object rows)).1]
    rfl
  · refine (honList seats "+0001" _).mpr ⟨1, by decide, ?_, rfl⟩
    exact .plus (Number.isDecimal_zeros 3 1)
  · rw [hbounded seats hlength, show Number.unsigned? "18446744073709551617".toList = none by
      decide +kernel]
    rfl
  · refine Option.eq_none_iff_forall_ne_some.mpr ?_
    intro held h
    exact absurd ((honObject rows hsorted "01" held).mp h) (by simp [rows])

end Value
end Clearance
