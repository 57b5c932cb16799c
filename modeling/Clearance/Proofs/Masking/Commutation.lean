import Clearance.Proofs.Masking.Application
import Clearance.Proofs.Path.Dotted
import Clearance.Proofs.Path.Parting

/-!
# Masks on separate fields commute

Two masks are separate in a resource if their paths part and, should they part in a list, by
segments that select different items of it, neither of which is taken out by the mask that ends
there. **Which of two separate masks is applied first is of no account** (`apply_comm`), and so is
the order of a policy in which any two masks are separate (`run_perm`).

Both rest on one fact: a mask does not show along the path of a separate one (`readsAlike_apply`).
For a policy it is needed once more, since masks that are separate in a resource have to be so in
what another mask leaves of it (`Separate.apply`).
-/

set_option autoImplicit false

namespace Clearance

/-! ## Segments of masks -/

/-- The index that a segment spells on a list. -/
def Segment.index? : Segment → Option Nat
  | .key name => Clearance.index? name.toList
  | .index position => some position

theorem Value.slot?_list (items : List Value) (segment : Segment) :
    (Value.list items).slot? segment = segment.index?.map .item := by
  cases segment <;> rfl

namespace Mask

variable {mask first second : Mask} {resource v w : Value}

/-- The masks are about fields of which neither is above the other. If their paths part in a list,
they go on to different items of it, and neither mask takes out the item that it goes on to. An
index that is not in the list is no item, so there the two may spell the same one. -/
structure Separate (first second : Mask) (resource : Value) : Prop where
  left : ¬ first.path <+: second.path
  right : ¬ second.path <+: first.path
  onList : ∀ common a b items, Path.Part first.path second.path common a b →
    resource.resolve common = some (.list items) →
      (∀ index < items.length, a.index? = some index → b.index? ≠ some index) ∧
        (first.strategy = .remove → first.path ≠ common ++ [a]) ∧
        (second.strategy = .remove → second.path ≠ common ++ [b])

theorem Separate.symm (h : first.Separate second resource) : second.Separate first resource where
  left := h.right
  right := h.left
  onList := by
    intro common a b items hpart hr
    obtain ⟨hindex, hfirst, hsecond⟩ := h.onList common b a items hpart.symm hr
    exact ⟨fun index hlt ha hb => hindex index hlt hb ha, hsecond, hfirst⟩

/-! ## A mask and the path of another -/

theorem strategy_of_edit_drop {old : Value} {change : Edit} (h : mask.edit old = .ok change)
    (hd : change = .drop) : mask.strategy = .remove := by
  rcases eq_drop_or_write h with ⟨_, hs⟩ | ⟨new, hw, _⟩
  · exact hs
  · exact absurd (hd.symm.trans hw) (by simp)

theorem Separate.parts {common rest : Path} {a b : Segment} {change : Edit}
    (h : first.Separate second resource) (hpart : Path.Part first.path second.path common a b)
    (hrest : first.path = common ++ a :: rest)
    (hd : change = .drop → first.strategy = .remove) :
    resource.Parts change common a b rest := by
  intro held slot inner hr hc
  obtain ⟨hs, hg⟩ := Value.child?_eq_some_iff.mp hc
  cases held with
  | object fields =>
    -- Paths of masks are made of keys, and different keys are different fields.
    obtain ⟨key, rfl⟩ : ∃ key, a = .key key :=
      (Path.isPlain_of_mem_ofDotted (hpart.left.subset (by simp))).exists_key
    obtain ⟨key', rfl⟩ : ∃ key', b = .key key' :=
      (Path.isPlain_of_mem_ofDotted (hpart.right.subset (by simp))).exists_key
    obtain rfl : Slot.field key = slot := Option.some.inj hs
    refine ⟨?_, fun _ _ index => by simp⟩
    intro hsame
    have hkey : key' = key := Slot.field.inj (Option.some.inj hsame)
    exact hpart.ne (by rw [hkey])
  | list items =>
    obtain ⟨hindex, hremove, _⟩ := h.onList common a b items hpart hr
    rw [Value.slot?_list, Option.map_eq_some_iff] at hs
    obtain ⟨index, ha, rfl⟩ := hs
    obtain ⟨hlt, _⟩ := List.getElem?_eq_some_iff.mp hg
    refine ⟨?_, ?_⟩
    · rw [Value.slot?_list]
      intro hsame
      obtain ⟨index', hb, hitem⟩ := Option.map_eq_some_iff.mp hsame
      rw [Slot.item.inj hitem] at hb
      exact hindex index hlt ha hb
    · rintro rfl hdrop
      exact absurd hrest (hremove (hd hdrop))
  | _ => exact absurd hs (by simp [Value.slot?])

theorem Separate.exists_parts (h : first.Separate second resource) :
    ∃ common a b rest rest', Path.Part first.path second.path common a b ∧
      first.path = common ++ a :: rest ∧ second.path = common ++ b :: rest' := by
  obtain ⟨common, a, b, hpart⟩ := Path.exists_part h.left h.right
  obtain ⟨rest, hrest⟩ := hpart.left
  obtain ⟨rest', hrest'⟩ := hpart.right
  exact ⟨common, a, b, rest, rest', hpart, by simp [← hrest], by simp [← hrest']⟩

/-- **A mask does not show along the path of a separate one.** -/
theorem readsAlike_apply (h : first.Separate second resource) :
    Value.ReadsAlike second.path resource (first.apply resource).resource := by
  obtain ⟨common, a, b, rest, rest', hpart, hrest, hrest'⟩ := h.exists_parts
  rcases resource_apply first resource with hsame | ⟨place, old, change, haddr, _, he, hedit⟩
  · rw [hsame]
    exact .refl _ _
  · have hl := haddr.2
    rw [hrest] at hl
    rw [hedit, hrest']
    exact Value.readsAlike_edit (h.parts hpart hrest (strategy_of_edit_drop he)) hl

theorem Separate.spares {place location : Location} {change : Edit}
    (h : first.Separate second resource) (hl : resource.locate first.path = some place)
    (hl' : resource.locate second.path = some location)
    (hd : change = .drop → first.strategy = .remove) : change.Spares place location := by
  obtain ⟨common, a, b, rest, rest', hpart, hrest, hrest'⟩ := h.exists_parts
  rw [hrest] at hl
  rw [hrest'] at hl'
  exact Value.spares_of_parts (h.parts hpart hrest hd) hl hl'

/-- Where the path of a mask reads alike, the mask does alike: it leaves both values as they are,
or makes the same edit at the same place. -/
theorem apply_of_readsAlike (h : Value.ReadsAlike mask.path v w) :
    (mask.apply w).applied = (mask.apply v).applied ∧
      ((mask.apply v).resource = v ∧ (mask.apply w).resource = w ∨
        ∃ place change, v.locate mask.path = some place ∧
          (change = .drop → mask.strategy = .remove) ∧
          (mask.apply v).resource = v.edit change place ∧
          (mask.apply w).resource = w.edit change place) := by
  have hout := outcome_apply mask v
  generalize mask.apply v = masked at hout ⊢
  cases hout with
  | noField hp =>
    rw [apply_of_path_nil hp]
    exact ⟨rfl, .inl ⟨rfl, rfl⟩⟩
  | absent _ hl =>
    rw [apply_of_locate_none (h.locate.trans hl)]
    exact ⟨rfl, .inl ⟨rfl, rfl⟩⟩
  | refused haddr hat he =>
    have haddr' : mask.Addresses w _ := ⟨haddr.1, h.locate.trans haddr.2⟩
    rw [apply_of_addresses haddr' ((h.at? _ haddr.2).trans hat), he]
    exact ⟨rfl, .inl ⟨rfl, rfl⟩⟩
  | edited haddr hat he =>
    have haddr' : mask.Addresses w _ := ⟨haddr.1, h.locate.trans haddr.2⟩
    rw [apply_of_addresses haddr' ((h.at? _ haddr.2).trans hat), he]
    exact ⟨rfl, .inr ⟨_, _, haddr.2, strategy_of_edit_drop he, rfl, rfl⟩⟩

/-- **Separate masks commute.** Neither changes whether the other applies or fails, and together
they leave the same resource in either order. -/
theorem apply_comm (h : first.Separate second resource) :
    (second.apply (first.apply resource).resource).applied = (second.apply resource).applied ∧
      (first.apply (second.apply resource).resource).applied = (first.apply resource).applied ∧
      (second.apply (first.apply resource).resource).resource =
        (first.apply (second.apply resource).resource).resource := by
  obtain ⟨happlied, hsecond⟩ := apply_of_readsAlike (readsAlike_apply h)
  obtain ⟨happlied', hfirst⟩ := apply_of_readsAlike (readsAlike_apply h.symm)
  refine ⟨happlied, happlied', ?_⟩
  rcases hfirst with ⟨hf, hf'⟩ | ⟨place, change, hl, hd, hf, hf'⟩
  · rcases hsecond with ⟨hs, hs'⟩ | ⟨place', change', hl', hd', hs, hs'⟩
    · rw [hs', hf', hf, hs]
    · rw [hs', hf', hf, hs]
  · rcases hsecond with ⟨hs, hs'⟩ | ⟨place', change', hl', hd', hs, hs'⟩
    · rw [hs', hf', hf, hs]
    · rw [hs', hf', hf, hs]
      exact Value.edit_comm resource (h.spares hl hl' hd) (h.symm.spares hl' hl hd')

/-! ## Separate masks stay separate -/

/-- A list on the way of a mask's path was there before a separate mask was applied, and was not
shorter. -/
theorem exists_list_of_apply {common : Path} {segment : Segment} {items' : List Value}
    (h : mask.Separate first resource) (hpath : common ++ [segment] <+: first.path)
    (hr : (mask.apply resource).resource.resolve common = some (.list items')) :
    ∃ items, resource.resolve common = some (.list items) ∧ items'.length ≤ items.length := by
  have hthere : resource.resolve common = some (.list items') →
      ∃ items, resource.resolve common = some (.list items) ∧ items'.length ≤ items.length :=
    fun hr => ⟨items', hr, Nat.le_refl _⟩
  obtain ⟨fork, a, b, rest, _, hpart, hrest, _⟩ := h.exists_parts
  rcases resource_apply mask resource with hsame | ⟨place, old, change, haddr, _, he, hchange⟩
  · rw [hsame] at hr
    exact hthere hr
  · have hl := haddr.2
    rw [hchange] at hr
    rw [hrest] at hl
    have hbegin : common <+: first.path := (List.prefix_append common [segment]).trans hpath
    -- Either the list stands behind the point where the paths part, or the mask works below it.
    have hwhere : fork ++ [b] <+: common ∨ common <+: fork := by
      rcases List.prefix_or_prefix_of_prefix hpart.right hbegin with hlong | hshort
      · exact .inl hlong
      · rcases List.prefix_concat_iff.mp hshort with rfl | hshort
        · exact .inl List.prefix_rfl
        · exact .inr hshort
    rcases hwhere with ⟨below, hbelow⟩ | ⟨between, rfl⟩
    · obtain rfl : fork ++ b :: below = common := by rw [← hbelow]; simp
      have halike : Value.ReadsAlike (fork ++ b :: below) resource (resource.edit change place) :=
        Value.readsAlike_edit (h.parts hpart hrest (strategy_of_edit_drop he)) hl
      exact hthere (halike.resolve.symm.trans hr)
    · obtain ⟨next, tail, htail⟩ : ∃ next tail, between ++ a :: rest = next :: tail :=
        List.exists_cons_of_ne_nil (by simp)
      rw [List.append_assoc, htail] at hl
      obtain ⟨held, below, hheld, hedit⟩ := Value.resolve_edit_below change hl
      obtain ⟨items, rfl, hle⟩ := Value.exists_list_of_edit
        (Option.some.inj (hedit.symm.trans hr))
      exact ⟨items, hheld, hle⟩

theorem Separate.apply (h : first.Separate second resource) (hm : mask.Separate first resource) :
    first.Separate second (mask.apply resource).resource where
  left := h.left
  right := h.right
  onList := by
    intro common a b items' hpart hr
    obtain ⟨items, hitems, hle⟩ := exists_list_of_apply hm hpart.left hr
    obtain ⟨hindex, hremove⟩ := h.onList common a b items hpart hitems
    exact ⟨fun index hlt => hindex index (Nat.lt_of_lt_of_le hlt hle), hremove⟩

end Mask

/-! ## Policies -/

namespace Policy

variable {policy other : Policy} {resource masked : Value} {events : List Event}

/-- Any two masks of the policy are separate in a resource. -/
def Separated (policy : Policy) (resource : Value) : Prop :=
  policy.Pairwise fun first second => first.Separate second resource

theorem Separated.perm (h : Separated policy resource) (hp : policy.Perm other) :
    Separated other resource :=
  (hp.pairwise_iff Mask.Separate.symm).mp h

theorem Separated.tail {mask : Mask} (h : Separated (mask :: policy) resource) :
    Separated policy (mask.apply resource).resource := by
  obtain ⟨hmask, hrest⟩ := List.pairwise_cons.mp h
  exact hrest.imp_of_mem fun hfirst _ hsep => hsep.apply (hmask _ hfirst)

theorem Run.swap {first second : Mask} {rest : Policy} (h : first.Separate second resource)
    (hrun : Run (first :: second :: rest) resource events masked) :
    ∃ events', events.Perm events' ∧ Run (second :: first :: rest) resource events' masked := by
  cases hrun with
  | @mask _ _ _ next _ applied _ happly hrun =>
    cases hrun with
    | @mask _ _ _ next' _ applied' _ happly' hrest =>
      have hfirst := (Mask.readsAlike_apply h.symm).resolve
      have hsecond := (Mask.readsAlike_apply h).resolve
      obtain ⟨hcomm, hcomm', hsame⟩ := Mask.apply_comm h
      simp only [happly, happly'] at hsecond hcomm hcomm' hsame
      have hstep : second.apply resource = ⟨(second.apply resource).resource, .ok applied'⟩ := by
        rw [hcomm]
      have hstep' : first.apply (second.apply resource).resource = ⟨next', .ok applied⟩ := by
        rw [hsame, ← hcomm']
      refine ⟨_, ?_, .mask hstep (.mask hstep' hrest)⟩
      rw [hfirst, hsecond]
      exact .swap _ _ _

/-- **The order of separate masks is of no account.** A run of them in one order is a run in any
other, with the same events. -/
theorem exists_run_of_perm (hp : policy.Perm other) (hs : Separated policy resource)
    (hrun : Run policy resource events masked) :
    ∃ events', events.Perm events' ∧ Run other resource events' masked := by
  induction hp generalizing resource events with
  | nil => exact ⟨events, .refl _, hrun⟩
  | cons mask _ ih =>
    cases hrun with
    | @mask _ _ _ next _ _ _ happly hrest =>
      -- The others are still separate in what the first mask left.
      have htail := hs.tail
      rw [happly] at htail
      obtain ⟨events', hperm, hrun'⟩ := ih htail hrest
      exact ⟨_, hperm.cons _, .mask happly hrun'⟩
  | swap second first rest =>
    exact hrun.swap ((List.pairwise_cons.mp hs).1 second List.mem_cons_self)
  | trans hp _ ih ih' =>
    obtain ⟨middle, hperm, hrun'⟩ := ih hs hrun
    obtain ⟨events', hperm', hrun''⟩ := ih' (hs.perm hp) hrun'
    exact ⟨events', hperm.trans hperm', hrun''⟩

theorem result_of_perm (hs : Separated policy resource) (hp : policy.Perm other)
    (h : (apply policy resource).result = .ok masked) :
    (apply other resource).result = .ok masked ∧
      (apply policy resource).events.Perm (apply other resource).events := by
  obtain ⟨events, hevents, hrun⟩ := exists_run_of_perm hp hs (run_of_result_ok h)
  rw [apply_of_run hrun]
  exact ⟨rfl, hevents⟩

theorem result_perm_iff (hs : Separated policy resource) (hp : policy.Perm other) :
    (apply policy resource).result = .ok masked ↔ (apply other resource).result = .ok masked := by
  constructor
  · intro h
    exact (result_of_perm hs hp h).1
  · intro h
    exact (result_of_perm (hs.perm hp) hp.symm h).1

end Policy

/-- **Masks on separate fields commute.** Of two masks that are separate in a resource, each does
the same whether it comes first or second, be it that it applies, finds no field or fails; so the
two succeed in one order exactly if they do in the other, and what they leave is the same. A policy
in which any two masks are separate leaves the same resource in every order of its masks, and with
the same events, or fails in every order. -/
theorem separate_masks_commute :
    (∀ (first second : Mask) (resource : Value), first.Separate second resource →
      (second.apply (first.apply resource).resource).applied = (second.apply resource).applied ∧
        (first.apply (second.apply resource).resource).applied = (first.apply resource).applied ∧
        (second.apply (first.apply resource).resource).resource =
          (first.apply (second.apply resource).resource).resource ∧
        ∀ masked, (Policy.apply [first, second] resource).result = .ok masked ↔
          (Policy.apply [second, first] resource).result = .ok masked) ∧
    ∀ (policy other : Policy) (resource : Value),
      (policy.Pairwise fun first second => first.Separate second resource) → policy.Perm other →
      ∀ masked,
        ((policy.apply resource).result = .ok masked ↔
          (other.apply resource).result = .ok masked) ∧
        ((policy.apply resource).result = .ok masked →
          (policy.apply resource).events.Perm (other.apply resource).events) := by
  refine ⟨?_, ?_⟩
  · intro first second resource h
    obtain ⟨hsecond, hfirst, hsame⟩ := Mask.apply_comm h
    have hpair : Policy.Separated [first, second] resource := List.pairwise_pair.mpr h
    exact ⟨hsecond, hfirst, hsame, fun masked => Policy.result_perm_iff hpair (.swap _ _ [])⟩
  · intro policy other resource hs hp masked
    exact ⟨Policy.result_perm_iff hs hp, fun h => (Policy.result_of_perm hs hp h).2⟩

/-- Two accounts, one for each of two masks. -/
def accounts : Value :=
  .object [("accounts", .list [.object [("number", .nat 1)], .object [("number", .nat 2)]])]

def withoutFirst : Mask := ⟨"accounts.0.number", .remove⟩

def withoutSecond : Mask := ⟨"accounts.+01.number", .null⟩

theorem accounts_separate : withoutFirst.Separate withoutSecond accounts where
  left := by decide
  right := by decide
  onList := by
    intro common a b items hpart hr
    have hknown : Path.Part withoutFirst.path withoutSecond.path [.key "accounts"] (.key "0")
        (.key "+01") := ⟨by decide, ⟨[.key "number"], rfl⟩, ⟨[.key "number"], rfl⟩⟩
    obtain ⟨rfl, rfl, rfl⟩ := hknown.eq hpart
    refine ⟨?_, ?_, ?_⟩
    · intro index _ ha hb
      have hzero : index = 0 := (Option.some.inj ha).symm
      have hone : index = 1 := (Option.some.inj hb).symm
      omega
    · intro _
      decide
    · intro _
      decide

/-- The mask that removes a field and the one that overwrites one, in both orders. -/
theorem accounts_in_any_order :
    withoutFirst.Separate withoutSecond accounts ∧
      (Policy.apply [withoutFirst, withoutSecond] accounts).result =
        .ok (.object [("accounts", .list [.object [], .object [("number", .null)]])]) ∧
      (Policy.apply [withoutSecond, withoutFirst] accounts).result =
        .ok (.object [("accounts", .list [.object [], .object [("number", .null)]])]) ∧
      (Policy.apply [withoutFirst, withoutSecond] accounts).events.Perm
        (Policy.apply [withoutSecond, withoutFirst] accounts).events := by
  have hresult : (Policy.apply [withoutFirst, withoutSecond] accounts).result =
      .ok (.object [("accounts", .list [.object [], .object [("number", .null)]])]) := rfl
  obtain ⟨_, _, _, hiff⟩ :=
    separate_masks_commute.1 withoutFirst withoutSecond accounts accounts_separate
  obtain ⟨_, hevents⟩ := separate_masks_commute.2 [withoutFirst, withoutSecond]
    [withoutSecond, withoutFirst] accounts (List.pairwise_pair.mpr accounts_separate)
    (.swap withoutSecond withoutFirst [])
    (.object [("accounts", .list [.object [], .object [("number", .null)]])])
  exact ⟨accounts_separate, hresult, (hiff _).mp hresult, hevents hresult⟩

end Clearance
