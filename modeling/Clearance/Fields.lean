/-!
# Fields by key

An object, a table of settings and a record of a log event are all lists of fields, each a key
with what it holds. This file says what reading and editing such a list means, for any kind of
content: a lookup reads the first field with the key, `put` overwrites it and never adds one,
`erase` drops the key altogether, and `insert` adds or overwrites and keeps the keys in
increasing order.

**The order is there so that two lists with the same content are the same list**: whatever is
built by `insert` alone is sorted (`sorted_ofList`), and two sorted lists with the same lookups
are equal (`Sorted.eq_of_get?_eq`). `put` and `erase` keep the order they find.
-/

set_option autoImplicit false

namespace Clearance
namespace Fields

variable {α : Type}

/-- What the first field named `key` holds. -/
def get? : List (String × α) → String → Option α
  | [], _ => none
  | (k, v) :: rest, key => if k = key then some v else get? rest key

/-- Overwrites the first field named `key`; without one the list stays as it is. -/
def put : List (String × α) → String → α → List (String × α)
  | [], _, _ => []
  | (k, v) :: rest, key, new =>
      if k = key then (k, new) :: rest else (k, v) :: put rest key new

def erase (fields : List (String × α)) (key : String) : List (String × α) :=
  fields.filter fun field => decide (field.1 ≠ key)

/-- Adds a field at its place in the order of the keys, or overwrites the one that is there. -/
def insert : List (String × α) → String → α → List (String × α)
  | [], key, new => [(key, new)]
  | (k, v) :: rest, key, new =>
      if key < k then (key, new) :: (k, v) :: rest
      else if k = key then (k, new) :: rest
      else (k, v) :: insert rest key new

theorem insert_nil (key : String) (new : α) : insert [] key new = [(key, new)] := rfl

theorem insert_cons_of_lt {k key : String} (h : key < k) (v new : α) (rest : List (String × α)) :
    insert ((k, v) :: rest) key new = (key, new) :: (k, v) :: rest := if_pos h

theorem insert_cons_self (key : String) (v new : α) (rest : List (String × α)) :
    insert ((key, v) :: rest) key new = (key, new) :: rest := by
  rw [insert, if_neg (String.lt_irrefl key), if_pos rfl]

theorem insert_cons_of_gt {k key : String} (h : k < key) (v new : α) (rest : List (String × α)) :
    insert ((k, v) :: rest) key new = (k, v) :: insert rest key new := by
  have hne : k ≠ key := fun heq => String.lt_irrefl key (heq ▸ h)
  rw [insert, if_neg (String.lt_asymm h), if_neg hne]

/-- Puts any list of fields in order; of two fields with one key the later one stays. -/
def ofList (fields : List (String × α)) : List (String × α) :=
  fields.foldl (fun built field => insert built field.1 field.2) []

def keys (fields : List (String × α)) : List String := fields.map (·.1)

/-- Each key is smaller than all that follow, so no key occurs twice. -/
def Sorted (fields : List (String × α)) : Prop := (keys fields).Pairwise (· < ·)

/-! ## What each edit does to a lookup -/

@[simp] theorem get?_nil (key : String) : get? ([] : List (String × α)) key = none := rfl

theorem get?_cons (k : String) (v : α) (rest : List (String × α)) (key : String) :
    get? ((k, v) :: rest) key = if k = key then some v else get? rest key := rfl

theorem get?_put_self {fields : List (String × α)} {key : String} {old : α} (new : α)
    (h : get? fields key = some old) : get? (put fields key new) key = some new := by
  induction fields with
  | nil => simp at h
  | cons field rest ih =>
    obtain ⟨k, v⟩ := field
    by_cases hk : k = key
    · simp [put, get?_cons, hk]
    · simp only [get?_cons, hk, if_false] at h
      simp [put, get?_cons, hk, ih h]

theorem get?_put_of_ne (fields : List (String × α)) {key other : String} (new : α)
    (h : other ≠ key) : get? (put fields key new) other = get? fields other := by
  induction fields with
  | nil => rfl
  | cons field rest ih =>
    obtain ⟨k, v⟩ := field
    by_cases hk : k = key
    · subst hk
      simp [put, get?_cons, Ne.symm h]
    · simp [put, get?_cons, hk, ih]

theorem get?_erase_self (fields : List (String × α)) (key : String) :
    get? (erase fields key) key = none := by
  induction fields with
  | nil => rfl
  | cons field rest ih =>
    obtain ⟨k, v⟩ := field
    by_cases hk : k = key
    · simpa [erase, hk] using ih
    · simpa [erase, hk, get?_cons] using ih

theorem get?_erase_of_ne (fields : List (String × α)) {key other : String} (h : other ≠ key) :
    get? (erase fields key) other = get? fields other := by
  induction fields with
  | nil => rfl
  | cons field rest ih =>
    obtain ⟨k, v⟩ := field
    by_cases hk : k = key
    · subst hk
      simpa [erase, get?_cons, Ne.symm h] using ih
    · simp only [erase, List.filter_cons, ne_eq, hk, not_false_eq_true, decide_true, if_true,
        get?_cons] at ih ⊢
      rw [ih]

theorem get?_insert_self (fields : List (String × α)) (key : String) (new : α) :
    get? (insert fields key new) key = some new := by
  induction fields with
  | nil => simp [insert, get?_cons]
  | cons field rest ih =>
    obtain ⟨k, v⟩ := field
    unfold insert
    split
    · simp [get?_cons]
    · split
      · simp [get?_cons, *]
      · simp [get?_cons, *]

theorem get?_insert_of_ne (fields : List (String × α)) {key other : String} (new : α)
    (h : other ≠ key) : get? (insert fields key new) other = get? fields other := by
  induction fields with
  | nil => simp [insert, get?_cons, Ne.symm h]
  | cons field rest ih =>
    obtain ⟨k, v⟩ := field
    unfold insert
    split
    · simp [get?_cons, Ne.symm h]
    · split
      · next hk => subst hk; simp [get?_cons, Ne.symm h]
      · simp [get?_cons, ih]

theorem get?_foldl_insert_of_notMem {fields : List (String × α)} {key : String}
    (h : key ∉ keys fields) (built : List (String × α)) :
    get? (fields.foldl (fun built field => insert built field.1 field.2) built) key =
      get? built key := by
  induction fields generalizing built with
  | nil => rfl
  | cons field rest ih =>
    obtain ⟨hne, hrest⟩ := not_or.mp (mt List.mem_cons.mpr h)
    rw [List.foldl_cons, ih hrest, get?_insert_of_ne _ _ hne]

/-- If no key occurs twice, nothing is lost when the fields are put in order. -/
theorem get?_ofList_of_mem {fields : List (String × α)} (hkeys : (keys fields).Nodup)
    {field : String × α} (h : field ∈ fields) : get? (ofList fields) field.1 = some field.2 := by
  unfold ofList
  generalize ([] : List (String × α)) = built
  induction fields generalizing built with
  | nil => exact absurd h List.not_mem_nil
  | cons first rest ih =>
    obtain ⟨hnot, hrest⟩ := List.nodup_cons.mp hkeys
    rw [List.foldl_cons]
    rcases List.mem_cons.mp h with rfl | h
    · rw [get?_foldl_insert_of_notMem hnot, get?_insert_self]
    · exact ih hrest h _

/-! ## What one edit does to another -/

theorem put_put (fields : List (String × α)) (key : String) (first second : α) :
    put (put fields key first) key second = put fields key second := by
  induction fields with
  | nil => rfl
  | cons field rest ih =>
    obtain ⟨k, v⟩ := field
    by_cases hk : k = key
    · simp [put, hk]
    · simp [put, hk, ih]

theorem put_comm (fields : List (String × α)) {key other : String} (first second : α)
    (h : other ≠ key) :
    put (put fields key first) other second = put (put fields other second) key first := by
  induction fields with
  | nil => rfl
  | cons field rest ih =>
    obtain ⟨k, v⟩ := field
    by_cases hk : k = key
    · subst hk
      simp [put, Ne.symm h]
    · by_cases ho : k = other
      · subst ho
        simp [put, hk]
      · simp [put, hk, ho, ih]

theorem put_erase_of_ne (fields : List (String × α)) {key other : String} (new : α)
    (h : other ≠ key) :
    put (erase fields key) other new = erase (put fields other new) key := by
  induction fields with
  | nil => rfl
  | cons field rest ih =>
    obtain ⟨k, v⟩ := field
    by_cases hk : k = key
    · subst hk
      simpa [put, erase, Ne.symm h] using ih
    · by_cases ho : k = other
      · subst ho
        simp [put, erase, hk]
      · simpa [put, erase, hk, ho] using ih

/-- Overwriting a field with what it holds changes nothing. -/
theorem put_self {fields : List (String × α)} {key : String} {held : α}
    (h : get? fields key = some held) : put fields key held = fields := by
  induction fields with
  | nil => rfl
  | cons field rest ih =>
    obtain ⟨k, v⟩ := field
    by_cases hk : k = key
    · simp only [get?_cons, hk, if_true, Option.some.injEq] at h
      simp [put, hk, h]
    · simp only [get?_cons, hk, if_false] at h
      simp [put, hk, ih h]

/-! ## Where a field stands -/

theorem exists_append_of_get? {fields : List (String × α)} {key : String} {held : α}
    (h : get? fields key = some held) :
    ∃ before after, fields = before ++ (key, held) :: after ∧ key ∉ keys before := by
  induction fields with
  | nil => simp at h
  | cons field rest ih =>
    obtain ⟨k, v⟩ := field
    by_cases hk : k = key
    · simp only [get?_cons, hk, if_true, Option.some.injEq] at h
      exact ⟨[], rest, by rw [hk, h]; rfl, by simp [keys]⟩
    · simp only [get?_cons, hk, if_false] at h
      obtain ⟨before, after, rfl, hnot⟩ := ih h
      refine ⟨(k, v) :: before, after, rfl, ?_⟩
      simpa [keys, Ne.symm hk] using hnot

theorem mem_of_get? {fields : List (String × α)} {key : String} {held : α}
    (h : get? fields key = some held) : (key, held) ∈ fields := by
  obtain ⟨before, after, rfl, _⟩ := exists_append_of_get? h
  exact List.mem_append_right before List.mem_cons_self

theorem get?_append {before : List (String × α)} {key : String} (h : key ∉ keys before) (held : α)
    (after : List (String × α)) : get? (before ++ (key, held) :: after) key = some held := by
  induction before with
  | nil => simp [get?_cons]
  | cons field before ih =>
    obtain ⟨k, v⟩ := field
    obtain ⟨hne, hrest⟩ := not_or.mp (mt List.mem_cons.mpr h)
    rw [List.cons_append, get?_cons, if_neg (Ne.symm hne), ih hrest]

theorem put_append {before : List (String × α)} {key : String} (h : key ∉ keys before)
    (held new : α) (after : List (String × α)) :
    put (before ++ (key, held) :: after) key new = before ++ (key, new) :: after := by
  induction before with
  | nil => simp [put]
  | cons field before ih =>
    obtain ⟨k, v⟩ := field
    obtain ⟨hne, hrest⟩ := not_or.mp (mt List.mem_cons.mpr h)
    rw [List.cons_append, put, if_neg (Ne.symm hne), ih hrest, List.cons_append]

/-! ## What each edit does to the order -/

theorem sorted_cons_iff {k : String} {v : α} {rest : List (String × α)} :
    Sorted ((k, v) :: rest) ↔ (∀ l ∈ keys rest, k < l) ∧ Sorted rest := by
  simp [Sorted, keys]

theorem mem_keys_iff {fields : List (String × α)} {key : String} :
    key ∈ keys fields ↔ (get? fields key).isSome = true := by
  induction fields with
  | nil => simp [keys]
  | cons field rest ih =>
    obtain ⟨k, v⟩ := field
    simp only [keys, List.map_cons, List.mem_cons, get?_cons] at ih ⊢
    by_cases hk : k = key
    · simp [hk]
    · simp [hk, Ne.symm hk, ih]

theorem get?_ofList {fields : List (String × α)} (hkeys : (keys fields).Nodup) (key : String) :
    get? (ofList fields) key = get? fields key := by
  cases h : get? fields key with
  | none =>
    have hnot : key ∉ keys fields := by simp [mem_keys_iff, h]
    rw [ofList, get?_foldl_insert_of_notMem hnot, get?_nil]
  | some held =>
    obtain ⟨before, after, rfl, _⟩ := exists_append_of_get? h
    exact get?_ofList_of_mem hkeys (List.mem_append_right before List.mem_cons_self)

@[simp] theorem keys_put (fields : List (String × α)) (key : String) (new : α) :
    keys (put fields key new) = keys fields := by
  induction fields with
  | nil => rfl
  | cons field rest ih =>
    obtain ⟨k, v⟩ := field
    by_cases hk : k = key
    · simp [put, keys, hk]
    · simpa [put, keys, hk] using ih

theorem mem_keys_insert {fields : List (String × α)} {key l : String} {new : α} :
    l ∈ keys (insert fields key new) ↔ l = key ∨ l ∈ keys fields := by
  induction fields with
  | nil => simp [insert, keys]
  | cons field rest ih =>
    obtain ⟨k, v⟩ := field
    unfold insert
    split
    · simp [keys]
    · split
      · next hk => subst hk; simp [keys]
      · simp only [keys, List.map_cons, List.mem_cons] at ih ⊢
        rw [ih]
        exact or_left_comm

theorem mem_of_mem_insert {fields : List (String × α)} {key : String} {new : α}
    {field : String × α} (h : field ∈ insert fields key new) :
    field = (key, new) ∨ field ∈ fields := by
  induction fields with
  | nil => exact .inl (List.mem_singleton.mp h)
  | cons first rest ih =>
    obtain ⟨k, v⟩ := first
    unfold insert at h
    split at h
    · exact List.mem_cons.mp h
    · split at h
      · rcases List.mem_cons.mp h with rfl | h
        · next hk => exact .inl (by rw [hk])
        · exact .inr (List.mem_cons_of_mem _ h)
      · rcases List.mem_cons.mp h with rfl | h
        · exact .inr List.mem_cons_self
        · exact (ih h).imp_right (List.mem_cons_of_mem _)

/-- Putting fields in order adds none. -/
theorem mem_of_mem_ofList {fields : List (String × α)} {field : String × α}
    (h : field ∈ ofList fields) : field ∈ fields := by
  suffices ∀ built : List (String × α),
      field ∈ fields.foldl (fun built field => insert built field.1 field.2) built →
        field ∈ built ∨ field ∈ fields by
    exact (this [] h).resolve_left List.not_mem_nil
  clear h
  induction fields with
  | nil => exact fun _ h => .inl h
  | cons first rest ih =>
    intro built h
    rcases ih _ h with h | h
    · rcases mem_of_mem_insert h with rfl | h
      · exact .inr List.mem_cons_self
      · exact .inl h
    · exact .inr (List.mem_cons_of_mem _ h)

theorem Sorted.put {fields : List (String × α)} (h : Sorted fields) (key : String) (new : α) :
    Sorted (Fields.put fields key new) := by
  rw [Sorted, keys_put]
  exact h

theorem Sorted.erase {fields : List (String × α)} (h : Sorted fields) (key : String) :
    Sorted (Fields.erase fields key) :=
  List.Pairwise.sublist (List.Sublist.map _ List.filter_sublist) h

theorem Sorted.insert {fields : List (String × α)} (h : Sorted fields) (key : String) (new : α) :
    Sorted (Fields.insert fields key new) := by
  induction fields with
  | nil => simp [Fields.insert, Sorted, keys]
  | cons field rest ih =>
    obtain ⟨k, v⟩ := field
    obtain ⟨hall, hrest⟩ := sorted_cons_iff.1 h
    unfold Fields.insert
    split
    · next hlt =>
      refine sorted_cons_iff.2 ⟨fun l hl => ?_, h⟩
      rcases List.mem_cons.1 hl with rfl | hl
      · exact hlt
      · exact String.lt_trans hlt (hall l hl)
    · next hlt =>
      split
      · exact sorted_cons_iff.2 ⟨hall, hrest⟩
      · next hne =>
        refine sorted_cons_iff.2 ⟨fun l hl => ?_, ih hrest⟩
        rcases mem_keys_insert.1 hl with rfl | hl
        · exact String.not_le.1 fun hle => hne (String.le_antisymm (String.not_lt.1 hlt) hle)
        · exact hall l hl

theorem sorted_ofList (fields : List (String × α)) : Sorted (ofList fields) := by
  suffices ∀ built : List (String × α), Sorted built →
      Sorted (fields.foldl (fun built field => Fields.insert built field.1 field.2) built) from
    this [] List.Pairwise.nil
  induction fields with
  | nil => exact fun _ h => h
  | cons field rest ih => exact fun built h => ih _ (h.insert field.1 field.2)

/-- Lists in order are told apart by their lookups. -/
theorem Sorted.eq_of_get?_eq {first second : List (String × α)} (hf : Sorted first)
    (hs : Sorted second) (h : ∀ key, get? first key = get? second key) : first = second := by
  induction first generalizing second with
  | nil =>
    cases second with
    | nil => rfl
    | cons field rest =>
      obtain ⟨k, v⟩ := field
      simpa [get?_cons] using h k
  | cons field rest ih =>
    obtain ⟨k, v⟩ := field
    obtain ⟨hallf, hrestf⟩ := sorted_cons_iff.1 hf
    cases second with
    | nil => simpa [get?_cons] using h k
    | cons other rest' =>
      obtain ⟨l, w⟩ := other
      obtain ⟨halls, hrests⟩ := sorted_cons_iff.1 hs
      have hmem : ∀ key, key ∈ keys ((k, v) :: rest) ↔ key ∈ keys ((l, w) :: rest') := fun key => by
        rw [mem_keys_iff, mem_keys_iff, h]
      -- Each first key is among the other keys, so neither is smaller.
      have hkl : k = l := by
        rcases List.mem_cons.1 ((hmem k).1 List.mem_cons_self) with hk | hk
        · exact hk
        rcases List.mem_cons.1 ((hmem l).2 List.mem_cons_self) with hl | hl
        · exact hl.symm
        exact absurd (hallf l hl) (String.lt_asymm (halls k hk))
      subst hkl
      have hv : v = w := by simpa [get?_cons] using h k
      subst hv
      congr 1
      refine ih hrestf hrests fun key => ?_
      by_cases hk : k = key
      · subst hk
        have hnone : ∀ fields : List (String × α), (∀ l ∈ keys fields, k < l) →
            get? fields k = none := fun fields hall => by
          cases hg : get? fields k with
          | none => rfl
          | some _ => exact absurd (hall k (mem_keys_iff.2 (by simp [hg]))) (String.lt_irrefl k)
        rw [hnone rest hallf, hnone rest' halls]
      · simpa [get?_cons, hk] using h key

end Fields
end Clearance
