import Mathlib.Data.List.DropRight
import Clearance.Proofs.Masking.Remainder

/-!
# What redaction shows of an address

Of an address the first character and the domain are to stay. A domain has no at sign in it, so it
is what follows the **last** one, and everything between the first character and that sign is to
be hidden. Redaction however cuts at the **first** at sign (`redactEmail_eq_ok_iff`).

The two are one sign in most addresses, and then nothing but the first character and the domain
is shown. But a local part in quotes may hold at signs of its own, and what follows the first of
them is shown with the domain: **of accepted texts, those are redacted alike that begin alike and
go on alike behind their first at sign**, and a common domain is not enough for that.
-/

set_option autoImplicit false

namespace Clearance

/-! ## Where an address is cut -/

/-- The domain of an address: what follows its last at sign. -/
def domainOf (text : String) : String :=
  String.ofList (text.toList.rtakeWhile fun c => decide (c ≠ '@'))

/-- What follows the first at sign of a text. -/
def behindFirstAt (text : String) : String :=
  String.ofList (text.toList.dropWhile fun c => decide (c ≠ '@')).tail

/-- What stands in front of an at sign does not count for the domain. -/
theorem rtakeWhile_append_atSign (front rest : List Char) :
    (front ++ '@' :: rest).rtakeWhile (fun c => decide (c ≠ '@')) =
      rest.rtakeWhile fun c => decide (c ≠ '@') := by
  induction rest using List.reverseRecOn with
  | nil =>
    rw [List.rtakeWhile_nil]
    exact List.rtakeWhile_concat_neg _ front '@' (by decide)
  | append_singleton rest c ih =>
    rw [← List.cons_append, ← List.append_assoc, List.rtakeWhile_concat, List.rtakeWhile_concat,
      ih]

/-- A text that is cut at its first at sign, with something on either side of it. -/
structure CutAtFirst (text : List Char) (first : Char) (middle shown : List Char) : Prop where
  eq : text = first :: middle ++ '@' :: shown
  notMem : '@' ∉ first :: middle
  ne_nil : shown ≠ []

namespace CutAtFirst

variable {text : List Char} {first : Char} {middle shown : List Char}

theorem behindFirstAt_eq {text : String} (h : CutAtFirst text.toList first middle shown) :
    behindFirstAt text = String.ofList shown := by
  obtain ⟨_, hdrop⟩ := span_atSign h.notMem ('@' :: shown) (by simp)
  rw [behindFirstAt, h.eq, hdrop, List.tail_cons]

/-- With one at sign, the first is the last. -/
theorem domainOf_eq {text : String} (h : CutAtFirst text.toList first middle shown)
    (hone : text.toList.count '@' = 1) : domainOf text = String.ofList shown := by
  have hshown : '@' ∉ shown := by
    rw [h.eq, List.count_append, List.count_eq_zero_of_not_mem h.notMem, List.count_cons_self]
      at hone
    exact List.count_eq_zero.mp (by omega)
  rw [domainOf, h.eq, rtakeWhile_append_atSign, List.rtakeWhile_eq_self_iff.mpr]
  intro c hmem
  rw [decide_eq_true_eq]
  rintro rfl
  exact hshown hmem

end CutAtFirst

/-! ## What is shown -/

/-- **Redaction cuts an address at its first at sign.** -/
theorem redactEmail_eq_ok_iff {text masked : List Char} :
    Masking.redactEmail text = .ok masked ↔
      ∃ first middle shown, CutAtFirst text first middle shown ∧
        masked = first :: "***@".toList ++ shown := by
  constructor
  · intro h
    by_cases hmem : '@' ∈ text
    · obtain ⟨front, shown, rfl, hfront⟩ := List.eq_append_cons_of_mem hmem
      rw [redactEmail_append hfront] at h
      cases front with
      | nil => exact absurd h (by simp)
      | cons first middle =>
        cases shown with
        | nil => exact absurd h (by simp)
        | cons c rest =>
          exact ⟨first, middle, c :: rest, ⟨rfl, hfront, by simp⟩, (Except.ok.inj h).symm⟩
    · rw [redactEmail_of_notMem hmem] at h
      exact absurd h (by simp)
  · rintro ⟨first, middle, shown, ⟨rfl, hfront, hne⟩, rfl⟩
    obtain ⟨c, rest, rfl⟩ := List.exists_cons_of_ne_nil hne
    rw [redactEmail_append hfront]

theorem maskText_email_eq_ok_iff {text masked : String} :
    (Strategy.redact .email).maskText text = .ok masked ↔
      ∃ first middle shown, CutAtFirst text.toList first middle shown ∧
        masked = String.ofList (first :: "***@".toList ++ shown) := by
  rw [Strategy.maskText, Masking.redact]
  cases hr : Masking.redactEmail text.toList with
  | error reason =>
    simp only [reduceCtorEq, false_iff]
    rintro ⟨first, middle, shown, hcut, -⟩
    have hok := redactEmail_eq_ok_iff.mpr ⟨first, middle, shown, hcut, rfl⟩
    exact absurd (hr.symm.trans hok) (by simp)
  | ok chars =>
    simp only [Except.ok.injEq]
    constructor
    · rintro rfl
      obtain ⟨first, middle, shown, hcut, rfl⟩ := redactEmail_eq_ok_iff.mp hr
      exact ⟨first, middle, shown, hcut, rfl⟩
    · rintro ⟨first, middle, shown, hcut, rfl⟩
      have hok := redactEmail_eq_ok_iff.mpr ⟨first, middle, shown, hcut, rfl⟩
      rw [Except.ok.inj (hr.symm.trans hok)]

/-- **Redaction shows what is behind the first at sign of an address**: the first character stays,
and so does all that follows that sign. So of two accepted texts that begin alike and have the same
domain, the outputs are equal exactly if all that follows the first at sign is the same, as it is
if neither has another. -/
theorem redaction_shows_behind_first_at (text text' masked masked' : String)
    (h : (Strategy.redact .email).maskText text = .ok masked)
    (h' : (Strategy.redact .email).maskText text' = .ok masked')
    (hhead : text.toList.head? = text'.toList.head?) (hdomain : domainOf text = domainOf text') :
    (∃ first middle, text.toList = first :: middle ++ '@' :: (behindFirstAt text).toList ∧
      '@' ∉ first :: middle ∧
      masked = String.ofList (first :: "***@".toList ++ (behindFirstAt text).toList)) ∧
    (masked = masked' ↔ behindFirstAt text = behindFirstAt text') ∧
    (text.toList.count '@' = 1 → text'.toList.count '@' = 1 → masked = masked') := by
  obtain ⟨first, middle, shown, hcut, rfl⟩ := maskText_email_eq_ok_iff.mp h
  obtain ⟨first', middle', shown', hcut', rfl⟩ := maskText_email_eq_ok_iff.mp h'
  obtain rfl : first = first' := by
    rw [hcut.eq, hcut'.eq] at hhead
    exact Option.some.inj hhead
  have hiff : String.ofList (first :: "***@".toList ++ shown) =
        String.ofList (first :: "***@".toList ++ shown') ↔
      behindFirstAt text = behindFirstAt text' := by
    rw [hcut.behindFirstAt_eq, hcut'.behindFirstAt_eq, String.ofList_inj, String.ofList_inj,
      List.append_cancel_left_eq]
  have hshown : (behindFirstAt text).toList = shown := by
    rw [hcut.behindFirstAt_eq, String.toList_ofList]
  refine ⟨⟨first, middle, ?_, hcut.notMem, ?_⟩, hiff, fun hone hone' => hiff.mpr ?_⟩
  · rw [hshown, hcut.eq]
  · rw [hshown]
  · rw [hcut.behindFirstAt_eq, hcut'.behindFirstAt_eq, ← hcut.domainOf_eq hone,
      ← hcut'.domainOf_eq hone', hdomain]

/-- Two people at one domain, whose names begin alike. -/
theorem one_at_sign_shown :
    (Strategy.redact .email).maskText "john@example.com" = .ok "j***@example.com" ∧
      (Strategy.redact .email).maskText "jane@example.com" = .ok "j***@example.com" ∧
      domainOf "john@example.com" = domainOf "jane@example.com" ∧
      behindFirstAt "john@example.com" = behindFirstAt "jane@example.com" := by
  obtain ⟨hdomain, hhead⟩ : domainOf "john@example.com" = domainOf "jane@example.com" ∧
      "john@example.com".toList.head? = "jane@example.com".toList.head? := by decide +kernel
  obtain ⟨-, hiff, -⟩ := redaction_shows_behind_first_at "john@example.com" "jane@example.com"
    "j***@example.com" "j***@example.com" (by rfl) (by rfl) hhead hdomain
  exact ⟨by rfl, by rfl, hdomain, hiff.mp rfl⟩

/-- **A local part in quotes is shown from its at sign on**: two accepted addresses begin alike and
have the same domain, and redaction tells them apart. -/
theorem quoted_parts_shown :
    (Strategy.redact .email).maskText "\"john@doe\"@example.com" =
        .ok "\"***@doe\"@example.com" ∧
      (Strategy.redact .email).maskText "\"jane@roe\"@example.com" =
        .ok "\"***@roe\"@example.com" ∧
      "\"john@doe\"@example.com".toList.head? = "\"jane@roe\"@example.com".toList.head? ∧
      domainOf "\"john@doe\"@example.com" = "example.com" ∧
      domainOf "\"jane@roe\"@example.com" = "example.com" ∧
      "\"***@doe\"@example.com" ≠ "\"***@roe\"@example.com" := by
  exact ⟨by rfl, by rfl, by decide +kernel⟩

end Clearance
