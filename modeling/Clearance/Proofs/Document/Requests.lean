import Clearance.Document.Request
import Clearance.Proofs.Document.Spelling

/-!
# Requests as documents

A request is written as one object and read from an object or a list. Unlike masks and settings,
**a request need not come back as itself**: the subject and the environment may be null, which is
written like any other value but read as if nothing were there. `read?_write` says what does come
back, and `read?_write_self_iff` when that is the request itself.

The other way round nothing is lost, since what was read has no null part: a request that was read
from any document comes back from the one that it is written as. `Spells` lists the documents that
a request is read from, and `exists_write_eq` what the one it is written as holds.
-/

set_option autoImplicit false

namespace Clearance
namespace Request

variable {request : Request} {v : Value}

/-! ## The documents that a request is read from -/

/-- What a document holds for a part of a request: an object by its name, a list by its position. -/
def held? (name : String) (position : Nat) : Value → Option Value
  | .object fields => Fields.get? fields name
  | .list items => items[position]?
  | _ => none

/-- What a document holds for a part that may be left out, and what is read from that. -/
inductive ReadsAs : Option Value → Option Value → Prop where
  | missing : ReadsAs none none
  | null : ReadsAs (some .null) none
  | present {v : Value} (h : v ≠ .null) : ReadsAs (some v) (some v)

/-- The document says the request. Its action and its resource have to be there, also if they are
null; the other two parts may be missing. A list has no more items than there are parts, an object
any other fields. -/
structure Spells (v : Value) (request : Request) : Prop where
  notLonger : ∀ items, v = .list items → items.length ≤ partNames.length
  subject : ReadsAs (held? "subject" 0 v) request.subject
  action : held? "action" 1 v = some request.action
  resource : held? "resource" 2 v = some request.resource
  environment : ReadsAs (held? "environment" 3 v) request.environment

theorem readsAs_iff {found part : Option Value} :
    ReadsAs found part ↔ optionalPart found = part := by
  constructor
  · intro h
    cases h with
    | missing => rfl
    | null => rfl
    | @present v h =>
      cases v with
      | null => exact absurd rfl h
      | _ => rfl
  · rintro rfl
    cases found with
    | none => exact .missing
    | some v =>
      cases v with
      | null => exact .null
      | _ => exact .present (by simp)

theorem record?_eq_some {parts : List (Option Value)}
    (h : Json.form.record? partNames v = some parts) :
    (∀ items, v = .list items → items.length ≤ partNames.length) ∧
      parts = [held? "subject" 0 v, held? "action" 1 v, held? "resource" 2 v,
        held? "environment" 3 v] := by
  cases Json.record?_eq_some_iff.mp h with
  | object fields => exact ⟨fun items hv => absurd hv (by simp), rfl⟩
  | @list items hle => exact ⟨fun items' hv => by rwa [← Value.list.inj hv], rfl⟩

theorem record?_of_held? {name : String} {position : Nat} {held : Value}
    (hlength : ∀ items, v = .list items → items.length ≤ partNames.length)
    (h : held? name position v = some held) :
    Json.form.record? partNames v =
      some [held? "subject" 0 v, held? "action" 1 v, held? "resource" 2 v,
        held? "environment" 3 v] := by
  cases v with
  | object fields => rfl
  | list items => exact Json.record?_eq_some_iff.mpr (.list (hlength items rfl))
  | _ => exact absurd h (by simp [held?])

/-- **A document reads as the request that it spells**, and as nothing else. -/
theorem read?_iff_spells : read? v = some request ↔ Spells v request := by
  constructor
  · intro h
    unfold read? at h
    split at h
    · next subject action resource environment hrecord =>
      obtain ⟨hlength, hparts⟩ := record?_eq_some hrecord
      simp only [List.cons.injEq, and_true] at hparts
      obtain ⟨hsubject, haction, hresource, henvironment⟩ := hparts
      obtain rfl := Option.some.inj h
      exact ⟨hlength, readsAs_iff.mpr (by rw [hsubject]), haction.symm, hresource.symm,
        readsAs_iff.mpr (by rw [henvironment])⟩
    · exact absurd h (by simp)
  · intro h
    have hrecord := record?_of_held? h.notLonger h.action
    rw [h.action, h.resource] at hrecord
    simp only [read?, hrecord, readsAs_iff.mp h.subject, readsAs_iff.mp h.environment]

theorem read?_eq_none (h : held? "action" 1 v = none ∨ held? "resource" 2 v = none) :
    read? v = none := by
  cases hr : read? v with
  | none => rfl
  | some request =>
    have hspells := read?_iff_spells.mp hr
    rcases h with h | h
    · exact absurd (h.symm.trans hspells.action) (by simp)
    · exact absurd (h.symm.trans hspells.resource) (by simp)

/-! ## The document that a request is written as -/

/-- What a request has under the name of a part. -/
def part? (request : Request) (name : String) : Option Value :=
  if name = "subject" then request.subject
  else if name = "action" then some request.action
  else if name = "resource" then some request.resource
  else if name = "environment" then request.environment
  else none

/-- The parts in the order of the names, each as a field if it is there. -/
def fields (request : Request) : List (String × Value) :=
  fieldOf "subject" request.subject
    ++ [("action", request.action), ("resource", request.resource)]
    ++ fieldOf "environment" request.environment

theorem nodup_keys_fields (request : Request) : (Fields.keys request.fields).Nodup := by
  obtain ⟨subject, action, resource, environment⟩ := request
  cases subject with
  | none => cases environment <;> simp [Fields.keys, fields, fieldOf]
  | some s => cases environment <;> simp [Fields.keys, fields, fieldOf]

theorem get?_fieldOf_append (name : String) (part : Option Value) (rest : List (String × Value))
    (key : String) :
    Fields.get? (fieldOf name part ++ rest) key =
      if name = key then part.or (Fields.get? rest key) else Fields.get? rest key := by
  cases part with
  | none => simp [fieldOf]
  | some v => simp [fieldOf, Fields.get?_cons]

theorem get?_fields (request : Request) (name : String) :
    Fields.get? request.fields name = request.part? name := by
  have hlast : Fields.get? (fieldOf "environment" request.environment) name =
      if "environment" = name then request.environment else none := by
    have happend := get?_fieldOf_append "environment" request.environment [] name
    rwa [List.append_nil, Fields.get?_nil, Option.or_none] at happend
  rw [fields, List.append_assoc, get?_fieldOf_append, List.cons_append, List.cons_append,
    List.nil_append, Fields.get?_cons, Fields.get?_cons, hlast, part?]
  by_cases hname : name = "subject"
  · subst hname
    simp
  · simp only [eq_comm, hname, if_false]

/-- **A request is written as an object of its parts**, without those that are absent. -/
theorem exists_write_eq (request : Request) :
    ∃ fields, request.write = .object fields ∧ Fields.Sorted fields ∧
      ∀ name, Fields.get? fields name = request.part? name := by
  refine ⟨_, rfl, Fields.sorted_ofList _, fun name => ?_⟩
  exact (Fields.get?_ofList (nodup_keys_fields request) name).trans (get?_fields request name)

/-! ## What comes back -/

/-- The request with its null parts left out. -/
def withoutNulls (request : Request) : Request :=
  { request with
    subject := optionalPart request.subject, environment := optionalPart request.environment }

theorem read?_write (request : Request) : read? request.write = some request.withoutNulls := by
  obtain ⟨fields, hwrite, _, hget⟩ := exists_write_eq request
  rw [read?_iff_spells, hwrite]
  exact ⟨fun items h => absurd h (by simp), readsAs_iff.mpr (congrArg optionalPart (hget "subject")),
    hget "action", hget "resource", readsAs_iff.mpr (congrArg optionalPart (hget "environment"))⟩

theorem optionalPart_eq_self_iff {part : Option Value} :
    optionalPart part = part ↔ part ≠ some .null := by
  cases part with
  | none => simp [optionalPart]
  | some v => cases v <;> simp [optionalPart]

theorem read?_write_self_iff :
    read? request.write = some request ↔
      request.subject ≠ some .null ∧ request.environment ≠ some .null := by
  obtain ⟨subject, action, resource, environment⟩ := request
  rw [read?_write, withoutNulls]
  simp [optionalPart_eq_self_iff]

/-- What is read from a part is never null. -/
theorem ReadsAs.ne_null {found part : Option Value} (h : ReadsAs found part) :
    part ≠ some .null := by
  cases h with
  | missing => simp
  | null => simp
  | present h => simpa using h

theorem Spells.read?_write (h : Spells v request) : read? request.write = some request :=
  read?_write_self_iff.mpr ⟨h.subject.ne_null, h.environment.ne_null⟩

/-- **Requests survive as documents but for their null parts.** A request comes back from the
document it is written as with a null subject and a null environment left out, so it comes back as
itself exactly if it has neither. A document of any shape reads as the request that it spells and
as no other; that has the action and the resource that the document holds, and comes back as itself
when it is written. What is written is an object that holds the parts of the request under their
names, and nothing under the name of an absent part or under any other. And a document without an
action or without a resource is refused. -/
theorem requests_survive_but_nulls :
    (∀ request : Request, read? request.write = some request.withoutNulls) ∧
    (∀ request : Request, read? request.write = some request ↔
      request.subject ≠ some .null ∧ request.environment ≠ some .null) ∧
    (∀ v request, read? v = some request ↔ Spells v request) ∧
    (∀ v request, read? v = some request →
      held? "action" 1 v = some request.action ∧ held? "resource" 2 v = some request.resource ∧
        read? request.write = some request) ∧
    (∀ request : Request, ∃ fields, request.write = .object fields ∧ Fields.Sorted fields ∧
      ∀ name, Fields.get? fields name = request.part? name) ∧
    ∀ v, held? "action" 1 v = none ∨ held? "resource" 2 v = none → read? v = none := by
  refine ⟨read?_write, fun _ => read?_write_self_iff, fun _ _ => read?_iff_spells, ?_,
    exists_write_eq, fun _ => read?_eq_none⟩
  intro v request h
  have hspells := read?_iff_spells.mp h
  exact ⟨hspells.action, hspells.resource, hspells.read?_write⟩

/-- A list that says no subject and ends before the environment, and a resource that is null. -/
def terseRequest : Value := .list [.null, .text "read", .null]

theorem terse_request_survives :
    read? terseRequest = some (.ofParts (.text "read") .null) ∧
      read? (Request.ofParts (.text "read") .null).write =
        some (.ofParts (.text "read") .null) ∧
      held? "resource" 2 (.list [.null, .text "read"]) = none ∧
      read? (.list [.null, .text "read"]) = none := by
  obtain ⟨_, _, hspells, hagain, _, hrefused⟩ := requests_survive_but_nulls
  have hread : read? terseRequest = some (.ofParts (.text "read") .null) :=
    (hspells _ _).mpr ⟨fun items h => by cases h; decide, .null, rfl, rfl, .missing⟩
  exact ⟨hread, (hagain _ _ hread).2.2, rfl, hrefused _ (.inr rfl)⟩

end Request
end Clearance
