import Clearance.Config.Conversion
import Clearance.Proofs.Document.Parts

/-!
# What was written reads back

Patterns, strategies, masks, policies and settings are written as JSON values, and read from any
form of document that JSON values have a place in. `Form.Reads` says what such a place has to be
like, one field for each way in which a document is taken apart, and **under it everything that
is written reads back as itself**. JSON documents satisfy it in a trivial way (`Json.form_reads`),
raw settings by way of `Setting.ofValue` (`Setting.form_reads`), so both readers are covered by
one proof.

The only thing that can go wrong is a count too large to be read; `Policy.CountsTo` bounds the
counts of a policy.
-/

set_option autoImplicit false

namespace Clearance

/-! ## Counts -/

/-- The number of characters that a strategy counts; zero for one that counts none. -/
def Strategy.count : Strategy → Nat
  | .truncate maxChars => maxChars
  | .keepLast chars => chars
  | .redact _ | .hash | .tokenize | .null | .remove => 0

/-- No mask of a policy counts beyond a bound. -/
def Policy.CountsTo (bound : Nat) (policy : Policy) : Prop :=
  ∀ mask ∈ policy, mask.strategy.count ≤ bound

instance (bound : Nat) (policy : Policy) : Decidable (policy.CountsTo bound) :=
  inferInstanceAs (Decidable (∀ mask ∈ policy, mask.strategy.count ≤ bound))

/-! ## Documents that JSON values have a place in -/

variable {D : Type}

/-- A form reads the documents that JSON values stand for as it reads nothing else: scalars as
they are, counts up to a bound, lists and objects part by part. -/
structure Form.Reads (form : Form D) (bound : Nat) (embed : Value → D) : Prop where
  text : ∀ s, form.text? (embed (.text s)) = some s
  flag : ∀ b, form.flag? (embed (.bool b)) = some b
  count : ∀ n, n ≤ bound → form.count? (embed (.nat n)) = some n
  items : ∀ items, form.items? (embed (.list items)) = some (items.map embed)
  name : ∀ name, form.variant? (embed (.text name)) = some (name, none)
  variant : ∀ name payload,
    form.variant? (embed (.object [(name, payload)])) = some (name, some (embed payload))
  record : ∀ names fields, form.record? names (embed (.object fields)) =
    some (names.map fun name => (Fields.get? fields name).map embed)
  payload : ∀ names fields, form.payload? names (embed (.object fields)) =
    some (names.map fun name => (Fields.get? fields name).map embed)

theorem Json.form_reads : Json.form.Reads Number.largestUnsigned id where
  text _ := rfl
  flag _ := rfl
  count n hn := by simp [Json.form, Value.nat, Number.fitsUnsigned, hn]
  items items := by simp [Json.form]
  name _ := rfl
  variant _ _ := rfl
  record names fields := by simp [Json.form, Json.recordOf?, Json.fieldsOf?]
  payload names fields := by simp [Json.form, Json.fieldsOf?]

namespace Setting

theorem ofValues_eq (items : List Value) : ofValues items = items.map ofValue := by
  induction items with
  | nil => rfl
  | cons item rest ih => rw [ofValues, ih, List.map_cons]

theorem get?_ofFields (fields : List (String × Value)) (key : String) :
    Fields.get? (ofFields fields) key = (Fields.get? fields key).map ofValue := by
  induction fields with
  | nil => rfl
  | cons field rest ih =>
    obtain ⟨k, v⟩ := field
    rw [ofFields, Fields.get?_cons, Fields.get?_cons]
    split
    · rfl
    · exact ih

theorem form_reads (bound : Nat) : form.Reads bound ofValue where
  text _ := rfl
  flag _ := rfl
  count _ _ := rfl
  items items := by rw [← ofValues_eq]; rfl
  name _ := rfl
  variant _ _ := rfl
  record _ fields := congrArg some (List.map_congr_left fun name _ => get?_ofFields fields name)
  payload _ fields := congrArg some (List.map_congr_left fun name _ => get?_ofFields fields name)

end Setting

/-! ## What is written

Objects are put in order as they are written, so settings have the name of the authorizer last. -/

@[simp] theorem Value.ofFields_singleton (key : String) (held : Value) :
    Value.ofFields [(key, held)] = .object [(key, held)] := rfl

theorem Mask.write_eq (mask : Mask) :
    mask.write = .object [("field", .text mask.field), ("strategy", mask.strategy.write)] := by
  simp (disch := decide) [write, Value.ofFields, Fields.ofList, Fields.insert_nil,
    Fields.insert_cons_of_gt]

theorem Settings.write_eq (settings : Settings) :
    settings.write = .object
      [("authorizer", .object
          [("log_decisions", .bool settings.logsDecisions), ("name", .text settings.name)]),
       ("masking", .object [("fields", settings.masks.write)])] := by
  simp (disch := decide) [write, Value.ofFields, Fields.ofList, Fields.insert_nil,
    Fields.insert_cons_of_lt, Fields.insert_cons_of_gt]

/-! ## Reading what was written -/

section Reads

variable {form : Form D} {bound : Nat} {embed : Value → D}

theorem Pattern.read?_write (h : form.Reads bound embed) (pattern : Pattern) :
    Pattern.read? form (embed pattern.write) = some pattern := by
  cases pattern with
  | custom replacement => simp [read?, write, h.variant, h.payload, Fields.get?_cons, h.text]
  | ssn | phone | email | creditCard => simp [read?, write, h.name, Form.bare]

theorem Strategy.count?_object (h : form.Reads bound embed) (name : String) {n : Nat}
    (hn : n ≤ bound) :
    Strategy.count? form name (embed (.object [(name, .nat n)])) = some n := by
  simp [count?, h.payload, Fields.get?_cons, h.count n hn]

theorem Strategy.read?_write (h : form.Reads bound embed) {strategy : Strategy}
    (hcount : strategy.count ≤ bound) :
    Strategy.read? form (embed strategy.write) = some strategy := by
  cases strategy with
  | redact pattern => simp [read?, write, name, h.variant, Pattern.read?_write h]
  | truncate maxChars =>
    have hread := count?_object h "max_chars" (n := maxChars) hcount
    simp [read?, write, name, h.variant, hread]
  | keepLast chars =>
    have hread := count?_object h "chars" (n := chars) hcount
    simp [read?, write, name, h.variant, hread]
  | hash | tokenize | null | remove => simp [read?, write, name, h.name, Form.bare]

theorem Mask.read?_write (h : form.Reads bound embed) {mask : Mask}
    (hcount : mask.strategy.count ≤ bound) :
    Mask.read? form (embed mask.write) = some mask := by
  rw [write_eq]
  simp [read?, h.record, Fields.get?_cons, h.text, Strategy.read?_write h hcount]

theorem Policy.read?_write (h : form.Reads bound embed) {policy : Policy}
    (hcounts : policy.CountsTo bound) :
    Policy.read? form (embed policy.write) = some policy := by
  refine read?_eq_some_iff.mpr ⟨_, h.items _, ?_⟩
  rw [List.forall₂_map_left_iff, List.forall₂_map_left_iff, List.forall₂_same]
  exact fun mask hmask => Mask.read?_write h (hcounts mask hmask)

theorem Settings.read?_write (h : form.Reads bound embed) {settings : Settings}
    (hcounts : settings.masks.CountsTo bound) :
    Settings.read? form (embed settings.write) = some settings := by
  rw [write_eq]
  simp [read?, readAuthorizer?, readMasking?, Form.orElse, h.record, Fields.get?_cons, h.text,
    h.flag, Policy.read?_write h hcounts]

end Reads

end Clearance
