import Clearance.Proofs.Document.RoundTrip

/-!
# The spellings of a document

A JSON value may say one thing in several ways: a name without content may stand alone or over a
null, a record may be an object, with any fields beside its own, or a list of its parts in order,
and settings may leave out what has a default. `Spells` lists these ways for each kind of
document, and **a value reads as something exactly if it spells it** (`read?_eq_some_iff`).

What is written is one of the spellings of what it was written from, so reading, writing and
reading again comes back to the same. Note that the payload of a variant is an object and never a
list, unlike the records around it.
-/

set_option autoImplicit false

namespace Clearance

/-! ## Names and records -/

/-- A name without content. -/
inductive Bare (name : String) : Value → Prop where
  | alone : Bare name (.text name)
  | overNull : Bare name (.object [(name, .null)])

/-- What a record holds under each of its names: the fields of an object, or the items of a list
by position, of which the last ones may be missing. -/
inductive Parts (names : List String) : Value → List (Option Value) → Prop where
  | object (fields : List (String × Value)) :
      Parts names (.object fields) (names.map fun name => Fields.get? fields name)
  | list {items : List Value} (h : items.length ≤ names.length) :
      Parts names (.list items) ((List.range names.length).map fun i => items[i]?)

/-- A part that may be missing and then says the default. -/
inductive OrDefault {α : Type} (Spells : Value → α → Prop) (default : α) :
    Option Value → α → Prop where
  | missing : OrDefault Spells default none default
  | present {v : Value} {x : α} (h : Spells v x) : OrDefault Spells default (some v) x

namespace Json

variable {v held : Value} {name : String} {payload : Option Value} {names : List String}

theorem variant?_eq_some_none : form.variant? v = some (name, none) ↔ v = .text name := by
  show variantOf? v = _ ↔ _
  unfold variantOf?
  split
  · simp
  · simp
  · next hne _ => exact ⟨fun h => absurd h (by simp), fun h => absurd h (hne _)⟩

theorem variant?_eq_some_some :
    form.variant? v = some (name, some held) ↔ v = .object [(name, held)] := by
  show variantOf? v = _ ↔ _
  unfold variantOf?
  split
  · simp
  · simp
  · next _ hne => exact ⟨fun h => absurd h (by simp), fun h => absurd h (hne _ _)⟩

/-- A variant without content is spelled by its bare name. -/
theorem bare_of_variant? {α : Type} {x y : α} (hv : form.variant? v = some (name, payload))
    (hb : form.bare payload x = some y) : Bare name v ∧ x = y := by
  cases payload with
  | none =>
    rw [variant?_eq_some_none] at hv
    subst hv
    exact ⟨.alone, Option.some.inj hb⟩
  | some held =>
    rw [variant?_eq_some_some] at hv
    subst hv
    cases held with
    | null => exact ⟨.overNull, Option.some.inj hb⟩
    | bool _ | number _ | text _ | list _ | object _ => exact absurd hb (by simp [Form.bare, form])

theorem exists_variant?_of_bare {α : Type} (h : Bare name v) (x : α) :
    ∃ payload, form.variant? v = some (name, payload) ∧ form.bare payload x = some x := by
  cases h with
  | alone => exact ⟨none, rfl, rfl⟩
  | overNull => exact ⟨some .null, rfl, rfl⟩

theorem byPosition_eq {items : List Value} (h : items.length ≤ names.length) :
    Form.byPosition names items = some ((List.range names.length).map fun i => items[i]?) := by
  rw [Form.byPosition, if_pos h]
  congr 1
  refine List.ext_getElem (by simp; omega) fun i hi _ => ?_
  by_cases hlt : i < items.length
  · rw [List.getElem_append_left (by simpa using hlt)]
    simp [hlt]
  · rw [List.getElem_append_right (by simpa using hlt)]
    simp [Nat.le_of_not_lt hlt]

theorem record?_eq_some_iff {parts : List (Option Value)} :
    form.record? names v = some parts ↔ Parts names v parts := by
  constructor
  · intro h
    cases v with
    | list items =>
      by_cases hle : items.length ≤ names.length
      · have hparts : some _ = some parts := (byPosition_eq hle).symm.trans h
        exact Option.some.inj hparts ▸ .list hle
      · exact absurd h (by simp [form, recordOf?, Form.byPosition, hle])
    | object fields =>
      have hparts : some (names.map (Fields.get? fields)) = some parts := h
      exact Option.some.inj hparts ▸ .object fields
    | null | bool _ | number _ | text _ => exact absurd h (by simp [form, recordOf?, fieldsOf?])
  · intro h
    cases h with
    | object fields => rfl
    | list hle => exact byPosition_eq hle

theorem payload?_eq_some_iff {held : Value} :
    form.payload? [name] v = some [some held] ↔
      ∃ fields, v = .object fields ∧ Fields.get? fields name = some held := by
  cases v with
  | object fields => simp [form, fieldsOf?]
  | null | bool _ | number _ | text _ | list _ => simp [form, fieldsOf?]

theorem count?_eq_some_iff {n : Nat} :
    form.count? v = some n ↔ v = .nat n ∧ n ≤ Number.largestUnsigned := by
  constructor
  · intro h
    simp only [form] at h
    split at h
    · next m =>
      by_cases hfits : Number.fitsUnsigned m = true
      · rw [if_pos hfits, Option.some.injEq] at h
        exact ⟨by rw [← h]; rfl, by rw [← h]; simpa [Number.fitsUnsigned] using hfits⟩
      · exact absurd h (by simp [hfits])
    · exact absurd h (by simp)
  · rintro ⟨rfl, hle⟩
    exact form_reads.count n hle

theorem text?_eq_some_iff {s : String} : form.text? v = some s ↔ v = .text s := by
  cases v <;> simp [form, Value.text?]

theorem flag?_eq_some_iff {b : Bool} : form.flag? v = some b ↔ v = .bool b := by
  cases v <;> simp [form]

theorem items?_eq_some_iff {items : List Value} :
    form.items? v = some items ↔ v = .list items := by
  cases v <;> simp [form]

end Json

theorem orElse_eq_some_iff {α : Type} {read? : Value → Option α} {Spells : Value → α → Prop}
    {default x : α} {part : Option Value} (h : ∀ v x, read? v = some x ↔ Spells v x) :
    Form.orElse default read? part = some x ↔ OrDefault Spells default part x := by
  constructor
  · intro hread
    cases part with
    | none => exact Option.some.inj hread ▸ .missing
    | some v => exact .present ((h v x).mp hread)
  · intro hspells
    cases hspells with
    | missing => rfl
    | present hv => exact (h _ _).mpr hv

/-! ## Spellings of masks -/

inductive Pattern.Spells : Value → Pattern → Prop where
  | ssn {v : Value} (h : Bare "ssn" v) : Spells v .ssn
  | phone {v : Value} (h : Bare "phone" v) : Spells v .phone
  | email {v : Value} (h : Bare "email" v) : Spells v .email
  | creditCard {v : Value} (h : Bare "credit-card" v) : Spells v .creditCard
  | custom {fields : List (String × Value)} {replacement : String}
      (h : Fields.get? fields "replacement" = some (.text replacement)) :
      Spells (.object [("custom", .object fields)]) (.custom replacement)

inductive Strategy.Spells : Value → Strategy → Prop where
  | redact {v : Value} {pattern : Pattern} (h : Pattern.Spells v pattern) :
      Spells (.object [("redact", v)]) (.redact pattern)
  | hash {v : Value} (h : Bare "hash" v) : Spells v .hash
  | tokenize {v : Value} (h : Bare "tokenize" v) : Spells v .tokenize
  | truncate {fields : List (String × Value)} {maxChars : Nat}
      (h : Fields.get? fields "max_chars" = some (.nat maxChars))
      (hle : maxChars ≤ Number.largestUnsigned) :
      Spells (.object [("truncate", .object fields)]) (.truncate maxChars)
  | keepLast {fields : List (String × Value)} {chars : Nat}
      (h : Fields.get? fields "chars" = some (.nat chars))
      (hle : chars ≤ Number.largestUnsigned) :
      Spells (.object [("keep-last", .object fields)]) (.keepLast chars)
  | null {v : Value} (h : Bare "null" v) : Spells v .null
  | remove {v : Value} (h : Bare "remove" v) : Spells v .remove

inductive Mask.Spells : Value → Mask → Prop where
  | record {v held : Value} {field : String} {strategy : Strategy}
      (h : Parts ["field", "strategy"] v [some (.text field), some held])
      (hs : Strategy.Spells held strategy) : Spells v ⟨field, strategy⟩

inductive Policy.Spells : Value → Policy → Prop where
  | list {items : List Value} {policy : Policy} (h : List.Forall₂ Mask.Spells items policy) :
      Spells (.list items) policy

theorem Pattern.read?_eq_some_iff {v : Value} {pattern : Pattern} :
    Pattern.read? Json.form v = some pattern ↔ Pattern.Spells v pattern := by
  constructor
  · intro h
    unfold Pattern.read? at h
    split at h
    · next hv => obtain ⟨hb, rfl⟩ := Json.bare_of_variant? hv h; exact .ssn hb
    · next hv => obtain ⟨hb, rfl⟩ := Json.bare_of_variant? hv h; exact .phone hb
    · next hv => obtain ⟨hb, rfl⟩ := Json.bare_of_variant? hv h; exact .email hb
    · next hv => obtain ⟨hb, rfl⟩ := Json.bare_of_variant? hv h; exact .creditCard hb
    · next hv =>
      rw [Json.variant?_eq_some_some] at hv
      subst hv
      split at h
      · next hpart =>
        obtain ⟨fields, rfl, hget⟩ := Json.payload?_eq_some_iff.mp hpart
        obtain ⟨replacement, htext, rfl⟩ := Option.map_eq_some_iff.mp h
        rw [Json.text?_eq_some_iff] at htext
        exact .custom (hget.trans (congrArg some htext))
      · exact absurd h (by simp)
    · exact absurd h (by simp)
  · intro h
    cases h with
    | ssn hb | phone hb | email hb | creditCard hb =>
      obtain ⟨payload, hv, hbare⟩ := Json.exists_variant?_of_bare hb _
      simp only [Pattern.read?, hv]
      exact hbare
    | custom hget =>
      simp [Pattern.read?, Json.form, Json.variantOf?, Json.fieldsOf?, hget, Value.text?]

theorem Strategy.count?_eq_some_iff {v : Value} {name : String} {n : Nat} :
    Strategy.count? Json.form name v = some n ↔
      ∃ fields, v = .object fields ∧ Fields.get? fields name = some (.nat n) ∧
        n ≤ Number.largestUnsigned := by
  constructor
  · intro h
    unfold Strategy.count? at h
    split at h
    · next hpart =>
      obtain ⟨fields, rfl, hget⟩ := Json.payload?_eq_some_iff.mp hpart
      obtain ⟨rfl, hle⟩ := Json.count?_eq_some_iff.mp h
      exact ⟨fields, rfl, hget, hle⟩
    · exact absurd h (by simp)
  · rintro ⟨fields, rfl, hget, hle⟩
    rw [Strategy.count?, Json.payload?_eq_some_iff.mpr ⟨fields, rfl, hget⟩]
    exact Json.form_reads.count n hle

theorem Strategy.read?_eq_some_iff {v : Value} {strategy : Strategy} :
    Strategy.read? Json.form v = some strategy ↔ Strategy.Spells v strategy := by
  constructor
  · intro h
    unfold Strategy.read? at h
    split at h
    · next hv =>
      rw [Json.variant?_eq_some_some] at hv
      obtain ⟨pattern, hp, rfl⟩ := Option.map_eq_some_iff.mp h
      exact hv ▸ .redact (Pattern.read?_eq_some_iff.mp hp)
    · next hv => obtain ⟨hb, rfl⟩ := Json.bare_of_variant? hv h; exact .hash hb
    · next hv => obtain ⟨hb, rfl⟩ := Json.bare_of_variant? hv h; exact .tokenize hb
    · next hv =>
      rw [Json.variant?_eq_some_some] at hv
      obtain ⟨maxChars, hn, rfl⟩ := Option.map_eq_some_iff.mp h
      obtain ⟨fields, rfl, hget, hle⟩ := Strategy.count?_eq_some_iff.mp hn
      exact hv ▸ .truncate hget hle
    · next hv =>
      rw [Json.variant?_eq_some_some] at hv
      obtain ⟨chars, hn, rfl⟩ := Option.map_eq_some_iff.mp h
      obtain ⟨fields, rfl, hget, hle⟩ := Strategy.count?_eq_some_iff.mp hn
      exact hv ▸ .keepLast hget hle
    · next hv => obtain ⟨hb, rfl⟩ := Json.bare_of_variant? hv h; exact .null hb
    · next hv => obtain ⟨hb, rfl⟩ := Json.bare_of_variant? hv h; exact .remove hb
    · exact absurd h (by simp)
  · intro h
    cases h with
    | redact hp => exact congrArg (Option.map Strategy.redact) (Pattern.read?_eq_some_iff.mpr hp)
    | truncate hget hle =>
      have hcount := Strategy.count?_eq_some_iff.mpr ⟨_, rfl, hget, hle⟩
      exact congrArg (Option.map Strategy.truncate) hcount
    | keepLast hget hle =>
      have hcount := Strategy.count?_eq_some_iff.mpr ⟨_, rfl, hget, hle⟩
      exact congrArg (Option.map Strategy.keepLast) hcount
    | hash hb | tokenize hb | null hb | remove hb =>
      obtain ⟨payload, hv, hbare⟩ := Json.exists_variant?_of_bare hb _
      simp only [Strategy.read?, hv]
      exact hbare

theorem Mask.read?_eq_some_iff {v : Value} {mask : Mask} :
    Mask.read? Json.form v = some mask ↔ Mask.Spells v mask := by
  simp only [Mask.read?_iff_parts, Json.record?_eq_some_iff, Json.text?_eq_some_iff,
    Strategy.read?_eq_some_iff]
  constructor
  · rintro ⟨_, strategy, hparts, rfl, hstrategy⟩
    exact .record hparts hstrategy
  · rintro ⟨hparts, hstrategy⟩
    exact ⟨_, _, hparts, rfl, hstrategy⟩

theorem Policy.read?_iff_spells {v : Value} {policy : Policy} :
    Policy.read? Json.form v = some policy ↔ Policy.Spells v policy := by
  simp only [Policy.read?_eq_some_iff, Mask.read?_eq_some_iff, Json.items?_eq_some_iff]
  constructor
  · rintro ⟨items, rfl, h⟩
    exact .list h
  · rintro ⟨h⟩
    exact ⟨_, rfl, h⟩

/-! ## Spellings of settings -/

namespace Settings

/-- The section of the authorizer, for its name and whether it logs its decisions. -/
inductive SpellsAuthorizer : Value → String × Bool → Prop where
  | record {v : Value} {name? logs? : Option Value} {name : String} {logsDecisions : Bool}
      (h : Parts ["name", "log_decisions"] v [name?, logs?])
      (hname : OrDefault (fun v s => v = .text s) "default" name? name)
      (hlogs : OrDefault (fun v b => v = .bool b) true logs? logsDecisions) :
      SpellsAuthorizer v (name, logsDecisions)

inductive SpellsMasking : Value → Policy → Prop where
  | record {v : Value} {masks? : Option Value} {masks : Policy}
      (h : Parts ["fields"] v [masks?]) (hmasks : OrDefault Policy.Spells [] masks? masks) :
      SpellsMasking v masks

inductive Spells : Value → Settings → Prop where
  | record {v : Value} {authorizer? masking? : Option Value} {name : String}
      {logsDecisions : Bool} {masks : Policy}
      (h : Parts ["authorizer", "masking"] v [authorizer?, masking?])
      (hauthorizer : OrDefault SpellsAuthorizer ("default", true) authorizer?
        (name, logsDecisions))
      (hmasking : OrDefault SpellsMasking [] masking? masks) :
      Spells v ⟨name, logsDecisions, masks⟩

theorem readAuthorizer?_eq_some_iff {v : Value} {section' : String × Bool} :
    readAuthorizer? Json.form v = some section' ↔ SpellsAuthorizer v section' := by
  obtain ⟨name, logsDecisions⟩ := section'
  simp only [readAuthorizer?_iff_parts, Json.record?_eq_some_iff,
    orElse_eq_some_iff fun _ _ => Json.text?_eq_some_iff,
    orElse_eq_some_iff fun _ _ => Json.flag?_eq_some_iff]
  constructor
  · rintro ⟨_, _, hparts, hname, hlogs⟩
    exact .record hparts hname hlogs
  · rintro ⟨hparts, hname, hlogs⟩
    exact ⟨_, _, hparts, hname, hlogs⟩

theorem readMasking?_eq_some_iff {v : Value} {masks : Policy} :
    readMasking? Json.form v = some masks ↔ SpellsMasking v masks := by
  simp only [readMasking?_iff_parts, Json.record?_eq_some_iff,
    orElse_eq_some_iff fun _ _ => Policy.read?_iff_spells]
  constructor
  · rintro ⟨_, hparts, hmasks⟩
    exact .record hparts hmasks
  · rintro ⟨hparts, hmasks⟩
    exact ⟨_, hparts, hmasks⟩

theorem read?_eq_some_iff {v : Value} {settings : Settings} :
    Settings.read? Json.form v = some settings ↔ Spells v settings := by
  simp only [read?_iff_parts, Json.record?_eq_some_iff,
    orElse_eq_some_iff fun _ _ => readAuthorizer?_eq_some_iff,
    orElse_eq_some_iff fun _ _ => readMasking?_eq_some_iff]
  constructor
  · rintro ⟨_, _, hparts, hauthorizer, hmasking⟩
    exact .record hparts hauthorizer hmasking
  · rintro ⟨hparts, hauthorizer, hmasking⟩
    exact ⟨_, _, hparts, hauthorizer, hmasking⟩

end Settings

/-! ## Counts that were read -/

theorem Strategy.Spells.count_le {v : Value} {strategy : Strategy}
    (h : Strategy.Spells v strategy) :
    strategy.count ≤ Number.largestUnsigned := by
  cases h with
  | truncate _ hle | keepLast _ hle => exact hle
  | redact _ | hash _ | tokenize _ | null _ | remove _ => exact Nat.zero_le _

theorem Mask.Spells.count_le {v : Value} {mask : Mask} (h : Mask.Spells v mask) :
    mask.strategy.count ≤ Number.largestUnsigned := by
  cases h with
  | record _ hs => exact hs.count_le

theorem Policy.Spells.countsTo {v : Value} {policy : Policy} (h : Policy.Spells v policy) :
    policy.CountsTo Number.largestUnsigned := by
  obtain ⟨h⟩ := h
  induction h with
  | nil => exact fun _ hmask => absurd hmask List.not_mem_nil
  | cons hmask _ ih => exact List.forall_mem_cons.mpr ⟨hmask.count_le, ih⟩

theorem Settings.Spells.countsTo {v : Value} {settings : Settings}
    (h : Settings.Spells v settings) :
    settings.masks.CountsTo Number.largestUnsigned := by
  have hnone : Policy.CountsTo Number.largestUnsigned [] :=
    fun _ hmask => absurd hmask List.not_mem_nil
  obtain ⟨_, _, hmasking⟩ := h
  cases hmasking with
  | missing => exact hnone
  | present hsection =>
    obtain ⟨_, hmasks⟩ := hsection
    cases hmasks with
    | missing => exact hnone
    | present hpolicy => exact hpolicy.countsTo

/-! ## What survives -/

/-- Nothing is lost or confused when values of a type are written as documents: each reads back,
no two are written alike, the documents that read as one are its spellings, and what any of them
says is still the same after it was written. -/
structure Survives {α : Type} (Fits : α → Prop) (write : α → Value) (read? : Value → Option α)
    (Spells : Value → α → Prop) : Prop where
  reads : ∀ x, Fits x → read? (write x) = some x
  injective : ∀ x y, Fits x → Fits y → write x = write y → x = y
  spelled : ∀ v x, read? v = some x ↔ Spells v x
  again : ∀ v x, read? v = some x → read? (write x) = some x

theorem survives_of_reads {α : Type} {Fits : α → Prop} {write : α → Value}
    {read? : Value → Option α} {Spells : Value → α → Prop}
    (hreads : ∀ x, Fits x → read? (write x) = some x)
    (hspelled : ∀ v x, read? v = some x ↔ Spells v x) (hfits : ∀ v x, Spells v x → Fits x) :
    Survives Fits write read? Spells where
  reads := hreads
  injective x y hx hy h := by
    have hxy : some x = some y := by rw [← hreads x hx, ← hreads y hy, h]
    exact Option.some.inj hxy
  spelled := hspelled
  again v x h := hreads x (hfits v x ((hspelled v x).mp h))

/-- **Patterns, strategies, masks, policies and settings survive as documents**, as long as a
count fits in 64 bits. Whatever spelling one was read from, it is written in a single way, and
that reads as the same. -/
theorem documents_survive :
    Survives (fun _ => True) Pattern.write (Pattern.read? Json.form) Pattern.Spells ∧
    Survives (fun strategy => strategy.count ≤ Number.largestUnsigned)
      Strategy.write (Strategy.read? Json.form) Strategy.Spells ∧
    Survives (fun mask => mask.strategy.count ≤ Number.largestUnsigned)
      Mask.write (Mask.read? Json.form) Mask.Spells ∧
    Survives (Policy.CountsTo Number.largestUnsigned)
      Policy.write (Policy.read? Json.form) Policy.Spells ∧
    Survives (fun settings => settings.masks.CountsTo Number.largestUnsigned)
      Settings.write (Settings.read? Json.form) Settings.Spells := by
  refine ⟨?pattern, ?strategy, ?mask, ?policy, ?settings⟩
  case pattern =>
    exact survives_of_reads (fun pattern _ => Pattern.read?_write Json.form_reads pattern)
      (fun _ _ => Pattern.read?_eq_some_iff) fun _ _ _ => trivial
  case strategy =>
    exact survives_of_reads (fun _ hcount => Strategy.read?_write Json.form_reads hcount)
      (fun _ _ => Strategy.read?_eq_some_iff) fun _ _ h => h.count_le
  case mask =>
    exact survives_of_reads (fun _ hcount => Mask.read?_write Json.form_reads hcount)
      (fun _ _ => Mask.read?_eq_some_iff) fun _ _ h => h.count_le
  case policy =>
    exact survives_of_reads (fun _ hcounts => Policy.read?_write Json.form_reads hcounts)
      (fun _ _ => Policy.read?_iff_spells) fun _ _ h => h.countsTo
  case settings =>
    exact survives_of_reads (fun _ hcounts => Settings.read?_write Json.form_reads hcounts)
      (fun _ _ => Settings.read?_eq_some_iff) fun _ _ h => h.countsTo

/-- Settings in a terse spelling: lists for records, the largest count that there is, a field that
nobody asked for, and no word about the authorizer's log. -/
def terseSettings : Value :=
  .list [.list [.text "gate"], .object [("fields", .list
    [.list [.text "ssn", .object [("keep-last", .object
      [("chars", .nat Number.largestUnsigned), ("unit", .text "digit")])]],
     .list [.text "note", .object [("remove", .null)]]])]]

def gateSettings : Settings :=
  { name := "gate", masks := [⟨"ssn", .keepLast Number.largestUnsigned⟩, ⟨"note", .remove⟩] }

theorem terseSettings_survive :
    Settings.read? Json.form terseSettings = some gateSettings ∧
      gateSettings.masks.CountsTo Number.largestUnsigned ∧
      Settings.read? Json.form gateSettings.write = some gateSettings ∧
      Settings.Spells terseSettings gateSettings := by
  have hread : Settings.read? Json.form terseSettings = some gateSettings := by rfl
  have hsettings := documents_survive.2.2.2.2
  refine ⟨hread, by decide, hsettings.again _ _ hread, ?_⟩
  exact (hsettings.spelled _ _).mp hread

end Clearance
