import Clearance.Proofs.Masking.Address
import Clearance.Proofs.Masking.Cutting
import Clearance.Proofs.Masking.Frame
import Clearance.Proofs.Masking.Removal
import Clearance.Proofs.Path.Overwriting

/-!
# Masking what is masked already

A masked resource may be masked again, by an authorizer behind another one. Then a strategy either
leaves what it made as it is or refuses it: what is cut, replaced or an address that is redacted
**stays** (`Strategy.maskText_masked`), and what is redacted to four digits has **too few digits**
for the pattern that left them (`maskText_masked_of_digitShape`). Only digests and tokens would be
made of digests and tokens again.

For a policy the matter is whether its masks interfere. A mask *rests* in a resource if there is
nothing at its path or what it would put there. A mask that has been applied rests, a mask at
another place does not wake it, and **a policy changes nothing where all its masks rest**.
-/

set_option autoImplicit false

namespace Clearance

/-! ## Texts -/

/-- The strategies that leave as it is what they made. -/
def Strategy.settles : Strategy → Bool
  | .truncate _ | .keepLast _ | .redact .email | .redact (.custom _) | .null | .remove => true
  | .redact .ssn | .redact .phone | .redact .creditCard | .hash | .tokenize => false

/-- The stars stand where the rest of the local part stood, and the cut is at the same sign. -/
theorem CutAtFirst.masked {text : List Char} {first : Char} {middle shown : List Char}
    (h : CutAtFirst text first middle shown) :
    CutAtFirst (first :: "***@".toList ++ shown) first "***".toList shown where
  eq := rfl
  notMem := by
    have hfirst : '@' ≠ first := fun he => h.notMem (he ▸ List.mem_cons_self)
    rw [List.mem_cons, not_or]
    exact ⟨hfirst, by decide⟩
  ne_nil := h.ne_nil

theorem Strategy.maskText_masked {strategy : Strategy} {text masked : String}
    (hs : strategy.settles = true) (h : strategy.maskText text = .ok masked) :
    strategy.maskText masked = .ok masked := by
  cases strategy with
  | redact pattern =>
    cases pattern with
    | email =>
      obtain ⟨first, middle, shown, hcut, rfl⟩ := maskText_email_eq_ok_iff.mp h
      refine maskText_email_eq_ok_iff.mpr ⟨first, "***".toList, shown, ?_, rfl⟩
      rw [String.toList_ofList]
      exact hcut.masked
    | custom replacement =>
      obtain rfl := Except.ok.inj h
      rfl
    | _ => exact absurd hs (by decide)
  | truncate limit =>
    obtain rfl := Except.ok.inj h
    rw [maskText, String.toList_ofList, Masking.truncate_truncate (Nat.le_refl limit)]
  | keepLast count =>
    obtain rfl := Except.ok.inj h
    rw [maskText, String.toList_ofList, Masking.takeLast_takeLast, Nat.min_self]
  | null | remove =>
    obtain rfl := Except.ok.inj h
    rfl
  | hash | tokenize => exact absurd hs (by decide)

/-- The stars of a pattern have no digits, so the digits that are left are those that it kept. -/
theorem DigitShape.digitCount_masked {pattern : Pattern} {shape : DigitShape}
    (h : pattern.digitShape? = some shape) {text : String}
    (haccepts : shape.accepts (digitCount text) = true) :
    digitCount (shape.stars ++ lastFour text) = 4 := by
  have hstars : Masking.digitsOf shape.stars.toList = [] := by
    cases pattern with
    | email => exact absurd h (by simp [Pattern.digitShape?])
    | custom _ => exact absurd h (by simp [Pattern.digitShape?])
    | _ =>
      obtain rfl := Option.some.inj h
      rfl
  have hkept : Masking.digitsOf (lastFour text).toList = (lastFour text).toList := by
    refine List.filter_eq_self.mpr fun c hmem => ?_
    rw [lastFour, String.toList_ofList] at hmem
    exact isDigit_of_mem_digitsOf (List.mem_of_mem_drop hmem)
  have hlength : (lastFour text).toList.length = 4 := by
    rw [String.length_toList, length_lastFour (four_le_of_accepts h haccepts)]
  rw [← length_digitsOf, String.toList_append, Masking.digitsOf, List.filter_append,
    ← Masking.digitsOf, ← Masking.digitsOf, hstars, hkept, List.nil_append, hlength]

/-- No pattern of digits is content with the four that it leaves. -/
theorem DigitShape.not_accepts_four {pattern : Pattern} {shape : DigitShape}
    (h : pattern.digitShape? = some shape) : ¬ shape.accepts 4 = true := by
  cases pattern with
  | email => exact absurd h (by simp [Pattern.digitShape?])
  | custom _ => exact absurd h (by simp [Pattern.digitShape?])
  | _ =>
    obtain rfl := Option.some.inj h
    decide

theorem DigitShape.maskText_masked {pattern : Pattern} {shape : DigitShape}
    (h : pattern.digitShape? = some shape) {text masked : String}
    (hm : (Strategy.redact pattern).maskText text = .ok masked) :
    (Strategy.redact pattern).maskText masked = .error (pattern, shape.mismatch 4) := by
  rw [maskText_eq h] at hm
  split at hm
  · next haccepts =>
    obtain rfl := Except.ok.inj hm
    rw [maskText_eq h, digitCount_masked h haccepts, if_neg (not_accepts_four h)]
  · exact absurd hm (by simp)

namespace Mask

theorem maskText_eq_ok_iff {mask : Mask} {text masked : String} :
    mask.maskText text = .ok masked ↔ mask.strategy.maskText text = .ok masked := by
  rw [maskText]
  cases mask.strategy.maskText text with
  | ok found => simp
  | error refusal => simp

/-! ## Masks at rest -/

variable {mask : Mask} {v w old new next : Value}

/-- The mask finds nothing in the resource, or what it would put there. -/
def Rests (mask : Mask) (v : Value) : Prop :=
  mask.path ≠ [] ∧ ∀ held, v.resolve mask.path = some held → mask.Replaces held held

theorem Rests.of_none (hne : mask.path ≠ []) (h : v.resolve mask.path = none) : mask.Rests v :=
  ⟨hne, fun held hheld => absurd (h.symm.trans hheld) (by simp)⟩

/-- A mask that rests goes on resting as long as its path reads the same. -/
theorem Rests.of_readsAlike (h : mask.Rests v) (hw : Value.ReadsAlike mask.path v w) :
    mask.Rests w :=
  ⟨h.1, fun held hheld => h.2 held (hw.resolve.symm.trans hheld)⟩

theorem edit_write_self {place : Location} (h : mask.Addresses v place)
    (hat : v.at? place = some old) : v.edit (.write old) place = v := by
  have hwrite := Value.overwrite_self (h.resolve hat)
  rwa [Value.overwrite, Value.assign?_eq old h.1, h.2] at hwrite

theorem Rests.apply (h : mask.Rests v) : ∃ applied, mask.apply v = ⟨v, .ok applied⟩ := by
  cases hl : v.locate mask.path with
  | none => exact ⟨false, apply_of_locate_none hl⟩
  | some place =>
    have haddr : mask.Addresses v place := ⟨h.1, hl⟩
    obtain ⟨old, hat⟩ := Value.exists_at?_of_locate hl
    have hreplaces := h.2 old (haddr.resolve hat)
    refine ⟨true, ?_⟩
    rw [apply_of_addresses haddr hat, edit_of_replaces hreplaces]
    simp only [edit_write_self haddr hat]

/-- What a strategy that settles has put in place it would put there again. -/
theorem Replaces.again (h : mask.Replaces old new) (hs : mask.strategy.settles = true) :
    mask.Replaces new new := by
  cases h with
  | null hnull => exact .null hnull
  | text htext _ hm => exact .text htext (.text _) (Strategy.maskText_masked hs hm)

/-- A field that was taken out of an object is gone. -/
theorem resolve_of_removed (hs : mask.strategy = .remove) (hne : mask.path ≠ [])
    (hm : ¬ mask.RemovesItem v) (hr : v.resolve mask.path = some old) :
    (mask.apply v).resource.resolve mask.path = none := by
  obtain ⟨parent, last, hpath, -⟩ := exists_splitLast?_of_ne_nil hne
  obtain ⟨above, container, slot, ha, hc, hchild, hchanged⟩ := changedAt_remove hs hpath hr
  obtain ⟨_, left, hc', hleft, hloses⟩ := hchanged.resolve ha
  obtain rfl := Option.some.inj (hc.symm.trans hc')
  obtain ⟨hslot, _⟩ := Value.child?_eq_some_iff.mp hchild
  rw [hpath, Value.resolve_append, hleft, Option.bind_some, Value.resolve_cons]
  cases hloses with
  | @field key _ fields hheld =>
    rw [child?_eq_none_of_loses hslot (.field hheld)]
    rfl
  | item before after =>
    -- The container would be a list, and the mask would take an item out of it.
    obtain ⟨above', ha', hat⟩ := Value.resolve_eq_some_iff.mp hc
    obtain rfl := Option.some.inj (ha.symm.trans ha')
    have hl : v.locate mask.path = some (above ++ [.item before.length]) := by
      rw [hpath, Value.locate_append, ha, Option.bind_some, hat, Option.bind_some, Value.locate,
        hchild]
      rfl
    exact absurd ⟨hs, above, before.length, hne, hl⟩ hm

/-- **A mask that has been applied rests**, if its strategy settles and it took no item away. -/
theorem rests_of_apply {applied : Bool} (happly : mask.apply v = ⟨next, .ok applied⟩)
    (hs : mask.strategy.settles = true) (hm : ¬ mask.RemovesItem v) : mask.Rests next := by
  have happlied : (mask.apply v).applied = .ok applied := by rw [happly]
  have hnext : (mask.apply v).resource = next := by rw [happly]
  have hne : mask.path ≠ [] := by
    intro hnil
    rw [apply_of_path_nil hnil] at happlied
    exact absurd happlied (by simp)
  subst hnext
  cases applied with
  | false =>
    rw [resource_eq (by rw [happlied]; simp)]
    exact .of_none hne ((applied_eq_false_iff hne).mp happlied)
  | true =>
    by_cases hremove : mask.strategy = .remove
    · rw [applied_remove hremove hne, Except.ok.injEq, Option.isSome_iff_exists] at happlied
      obtain ⟨old, hr⟩ := happlied
      exact .of_none hne (resolve_of_removed hremove hne hm hr)
    · obtain ⟨place, old, new, haddr, _, hreplaces, hchanged⟩ := changedAt_apply happlied hremove
      obtain ⟨_, found, _, hfound, _, rfl⟩ := hchanged.resolve haddr.2
      refine ⟨hne, fun held hheld => ?_⟩
      rw [← Option.some.inj (hfound.symm.trans hheld)]
      exact hreplaces.again hs

end Mask

/-! ## Policies -/

namespace Policy

variable {policy rest : Policy} {mask : Mask} {resource masked : Value} {events : List Event}

/-- No two masks of the policy are about places in the resource of which one is the other, above
it or below it. -/
def PlacesApart (policy : Policy) (resource : Value) : Prop :=
  policy.Pairwise fun first second =>
    ∀ place, first.Addresses resource place → second.ClearOf resource place

/-- A mask makes no new places, so those of the others stay apart. -/
theorem PlacesApart.tail (h : PlacesApart (mask :: rest) resource)
    (hm : ¬ mask.RemovesItem resource) : PlacesApart rest (mask.apply resource).resource := by
  have hbefore : ∀ (other : Mask) (place : Location),
      other.Addresses (mask.apply resource).resource place → other.Addresses resource place :=
    fun _ _ haddr => ⟨haddr.1, Mask.locate_of_locate_apply hm haddr.2⟩
  refine (List.pairwise_cons.mp h).2.imp fun hpair place haddr found haddr' => ?_
  exact hpair place (hbefore _ _ haddr) found (hbefore _ _ haddr')

/-- **All masks rest in what their policy left.** -/
theorem rests_of_run (hrun : Run policy resource events masked)
    (hs : ∀ mask ∈ policy, mask.strategy.settles = true) (hk : RemovesNoItem policy resource)
    (ha : PlacesApart policy resource) : ∀ mask ∈ policy, mask.Rests masked := by
  induction hrun with
  | done resource => exact fun mask hmem => absurd hmem (by simp)
  | @mask mask rest resource next masked applied events happly hrest ih =>
    obtain ⟨hmask, hothers⟩ := List.forall_mem_cons.mp hs
    have hnext : (mask.apply resource).resource = next := by rw [happly]
    have htail : PlacesApart rest next := by
      rw [← hnext]
      exact ha.tail hk.head
    have hrests : mask.Rests next := Mask.rests_of_apply happly hmask hk.head
    refine List.forall_mem_cons.mpr ⟨?_, ih hothers (hk.tail happly) htail⟩
    -- The first mask rests in what it left, and the others keep clear of its place.
    refine hrests.of_readsAlike
      (readsAlike_run hrest (hk.tail happly) fun place hl other hmem found haddr => ?_)
    rw [← hnext] at hl haddr
    have hplace : mask.Addresses resource place :=
      ⟨hrests.1, Mask.locate_of_locate_apply hk.head hl⟩
    exact (List.pairwise_cons.mp ha).1 other hmem place hplace found
      ⟨haddr.1, Mask.locate_of_locate_apply hk.head haddr.2⟩

/-- **A policy changes nothing where all its masks rest.** -/
theorem result_of_rests (h : ∀ mask ∈ policy, mask.Rests masked) :
    (apply policy masked).result = .ok masked := by
  induction policy with
  | nil => rfl
  | cons mask rest ih =>
    obtain ⟨hmask, hothers⟩ := List.forall_mem_cons.mp h
    obtain ⟨applied, happly⟩ := hmask.apply
    rw [apply_cons_of_ok happly]
    exact ih hothers

end Policy

/-- **What was masked stays or is refused.** A mask that cuts, replaces or redacts an address leaves
a text that it made as it is, and one that redacts to digits refuses it for having four of them. A
policy of masks that settle, which takes no item out of a list and whose masks are about places
apart in the resource, leaves what it left as it is. -/
theorem remasking_is_stable_or_refused :
    (∀ (mask : Mask) (text masked : String), mask.strategy.settles = true →
      mask.maskText text = .ok masked → mask.maskText masked = .ok masked) ∧
    (∀ (mask : Mask) (pattern : Pattern) (shape : DigitShape) (text masked : String),
      mask.strategy = .redact pattern → pattern.digitShape? = some shape →
        mask.maskText text = .ok masked →
          mask.maskText masked =
            .error (.patternMismatch mask.field pattern (shape.mismatch 4))) ∧
    ∀ (policy : Policy) (resource masked : Value),
      (∀ mask ∈ policy, mask.strategy.settles = true) → policy.RemovesNoItem resource →
        policy.PlacesApart resource → (policy.apply resource).result = .ok masked →
          (policy.apply masked).result = .ok masked := by
  refine ⟨?stays, ?refused, ?policies⟩
  case stays =>
    intro mask text masked hs h
    rw [Mask.maskText_eq_ok_iff] at h ⊢
    exact Strategy.maskText_masked hs h
  case refused =>
    intro mask pattern shape text masked hp hshape h
    rw [Mask.maskText_eq_ok_iff, hp] at h
    rw [Mask.maskText, hp, DigitShape.maskText_masked hshape h]
  case policies =>
    intro policy resource masked hs hk ha h
    exact Policy.result_of_rests (Policy.rests_of_run (Policy.run_of_result_ok h) hs hk ha)

/-- An account with a number, an address with two at signs, a name and a phone. -/
def visitor : Value :=
  .object [("accounts", .list [.object [("number", .nat 4111)]]),
    ("email", .text "ann@home@b.org"), ("name", .text "Jonathan"), ("phone", .text "555")]

def visitorMasks : Policy :=
  [⟨"name", .truncate 3⟩, ⟨"accounts.0.number", .keepLast 2⟩, ⟨"email", .redact .email⟩,
    ⟨"phone", .remove⟩]

def maskedVisitor : Value :=
  .object [("accounts", .list [.object [("number", .text "11")]]),
    ("email", .text "a***@home@b.org"), ("name", .text "Jon...")]

theorem visitorMasks_apart : visitorMasks.PlacesApart visitor := by
  have hapart : visitorMasks.Pairwise fun first second =>
      ∀ place ∈ visitor.locate first.path, ∀ found ∈ visitor.locate second.path,
        ¬ found <+: place ∧ ¬ place <+: found := by decide +kernel
  exact hapart.imp fun h place haddr found haddr' => h place haddr.2 found haddr'.2

theorem visitorMasks_removesNoItem : visitorMasks.RemovesNoItem visitor := by
  refine Policy.removesNoItem_of_forall ?_
  rintro mask hmem ⟨hs, parent, index, _, hl⟩
  have hplace : ∀ mask ∈ visitorMasks, mask.strategy = .remove →
      visitor.locate mask.path = some [.field "phone"] := by decide +kernel
  have hlast := Option.some.inj (hl.symm.trans (hplace mask hmem hs))
  exact absurd (congrArg List.getLast? hlast) (by simp)

/-- The number was cut to a text, the name is cut again behind its mark, the phone is gone. -/
theorem maskedVisitor_stays :
    (visitorMasks.apply visitor).result = .ok maskedVisitor ∧
      (visitorMasks.apply maskedVisitor).result = .ok maskedVisitor ∧
      Mask.maskText ⟨"name", .truncate 3⟩ "Jon..." = .ok "Jon..." ∧
      Mask.maskText ⟨"phone", .redact .phone⟩ "+1 555 123 4567" = .ok "***-***-4567" ∧
      Mask.maskText ⟨"phone", .redact .phone⟩ "***-***-4567" =
        .error (.patternMismatch "phone" .phone (.phoneDigits 4)) := by
  obtain ⟨htexts, hrefused, hstays⟩ := remasking_is_stable_or_refused
  have hmasked : (visitorMasks.apply visitor).result = .ok maskedVisitor := by rfl
  have hphone : Mask.maskText ⟨"phone", .redact .phone⟩ "+1 555 123 4567" =
      .ok "***-***-4567" := by rfl
  exact ⟨hmasked, hstays visitorMasks visitor maskedVisitor (by decide)
    visitorMasks_removesNoItem visitorMasks_apart hmasked,
    htexts ⟨"name", .truncate 3⟩ "Jonathan" _ rfl (by rfl), hphone,
    hrefused ⟨"phone", .redact .phone⟩ .phone _ _ _ rfl rfl hphone⟩

end Clearance
