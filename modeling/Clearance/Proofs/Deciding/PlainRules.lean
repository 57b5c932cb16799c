import Clearance.Proofs.Deciding.Fallback
import Clearance.Trial.Chain

/-!
# The engine on plain rules

Rules that are plain data can be decided without an engine: look for the first rule of the
request's chain that decides and, unless it allows, for the first of the default chain. This file
says that **the engine gives the answer that is found so** (`run_answers`), for all chains of such
rules, and that the trials of rule chains therefore hold.

The two meet in one lemma about a rule, `decides_toRule_iff`: turned into a real one, a plain rule
fires through its filter and its matcher exactly on the requests that it decides as data. From
there it is one chain (`evaluate_answers`) and then two.
-/

set_option autoImplicit false

namespace Clearance

theorem Chain.firstAt_append {request : Request} {before after : List Rule} {rule : Rule}
    (hpassed : ∀ earlier ∈ before, earlier.Passes request) (hstops : ¬ rule.Passes request) :
    FirstAt request (before ++ rule :: after) before.length rule where
  found := by simp
  stops := hstops
  passed := by
    rw [List.take_left]
    exact hpassed

namespace Trial

/-! ## One rule -/

namespace PlainRule

variable {plain : PlainRule} {request : Request} {resourceType actionType : String}

theorem asksFor_some (types : List String) (wanted : Option Nat) (actual : String) :
    asksFor types wanted (some actual) = wanted.all (typeAt types · == actual) := by
  cases wanted with
  | none => rfl
  | some n => simp [asksFor, Bool.beq_comm]

/-- The filter asks for what the rule asks for, also where it is left out. -/
theorem applies_toRule (plain : PlainRule) (name resourceType actionType : String) :
    (plain.toRule name).applies ⟨some resourceType, some actionType⟩ =
      (plain.resourceType.all (typeAt resourceTypes · == resourceType) &&
        plain.actionType.all (typeAt actionTypes · == actionType)) := by
  by_cases hasked : (plain.resourceType.isSome || plain.actionType.isSome) = true
  · simp only [Rule.applies, toRule, hasked, if_true, asksFor_some]
  · -- A rule that asks for no type has no filter.
    have hnone : plain.resourceType = none ∧ plain.actionType = none := by
      simpa using hasked
    simp [Rule.applies, toRule, hnone.1, hnone.2]

/-- **A plain rule decides as data what it decides as a rule.** -/
theorem decides_toRule_iff (name : String)
    (ht : request.types = ⟨some resourceType, some actionType⟩) :
    (plain.toRule name).Decides request ↔ plain.decides resourceType actionType = true := by
  have hfires : (plain.toRule name).fires request = .ok true ↔ plain.fires = true := by
    show Except.ok plain.fires = Except.ok true ↔ plain.fires = true
    simp
  rw [Rule.decides_iff, ht, applies_toRule, hfires, decides, Bool.and_eq_true _ plain.fires]

theorem passes_toRule (name : String)
    (ht : request.types = ⟨some resourceType, some actionType⟩)
    (h : plain.decides resourceType actionType = false) : (plain.toRule name).Passes request := by
  refine ⟨?_, ?_⟩
  · intro hd
    rw [decides_toRule_iff name ht, h] at hd
    exact absurd hd (by simp)
  · intro cause hf
    have hfires : Except.ok plain.fires = Except.error cause := (Rule.fails_iff.mp hf).2
    exact absurd hfires (by simp)

/-- What the rule grants if it decides. -/
def grant (plain : PlainRule) (resource : Value) : Option Granted :=
  match plain.effect with
  | .deny => none
  | .allow => some (if plain.tags then .mapped (tag resource) else .unchanged resource)

theorem outcome_conclude_toRule (kind : ChainKind) (position : Nat) (name : String) :
    (Chain.conclude kind request ⟨position, plain.toRule name⟩).outcome =
      .ok ⟨plain.effect, some ⟨position, plain.toRule name⟩, plain.grant request.resource⟩ := by
  have heffect : (plain.toRule name).effect = plain.effect := rfl
  cases he : plain.effect with
  | deny => simp only [Chain.conclude, heffect, he, grant, Evaluation.pure]
  | allow =>
    cases ht : plain.tags with
    | false =>
      have hmapper : (plain.toRule name).mapper = none := by simp [toRule, ht]
      simp [Chain.conclude, heffect, he, grant, hmapper, ht, Evaluation.pure]
    | true =>
      have hmapper : (plain.toRule name).mapper = some fun resource => ⟨.ok (tag resource), []⟩ := by
        simp [toRule, ht]
      simp [Chain.conclude, heffect, he, grant, hmapper, ht]

theorem field?_tag_masked (fields : List (String × Value)) :
    (tag (.object fields)).field? "masked" = some (.bool true) :=
  Fields.get?_insert_self fields "masked" (.bool true)

theorem field?_tag_of_ne (fields : List (String × Value)) {key : String} (h : key ≠ "masked") :
    (tag (.object fields)).field? key = Fields.get? fields key :=
  Fields.get?_insert_of_ne fields (.bool true) h

end PlainRule

/-! ## One chain -/

namespace ChainInput

variable {input : ChainInput} {kind : ChainKind} {rules : List PlainRule}

theorem resource_eq (input : ChainInput) :
    input.request.resource =
      .object [("id", .nat 7), ("type", .text input.resourceTypeName)] := by
  have hid : "id" < "type" := by decide
  simp only [request, Request.ofParts, Value.ofFields, Fields.ofList, List.foldl_cons,
    List.foldl_nil, Fields.insert_nil]
  rw [Fields.insert_cons_of_lt hid]

theorem types_request (input : ChainInput) :
    input.request.types = ⟨some input.resourceTypeName, some input.actionTypeName⟩ := by
  rw [Request.types, Request.typeOf, resource_eq]
  rfl

/-- The real rule that stands for a plain one at a position. -/
def ruleAt (kind : ChainKind) (numbered : PlainRule × Nat) : Rule :=
  numbered.1.toRule (kind.name ++ "-" ++ toString numbered.2)

theorem rulesOf_eq (kind : ChainKind) (rules : List PlainRule) :
    rulesOf kind rules = rules.zipIdx.map (ruleAt kind) := rfl

/-- What a request gets whom a plain rule decides, or none. -/
def Answers (input : ChainInput) : Option (String × PlainRule) → Response → Prop
  | none, response => response = .defaultDeny
  | some (name, plain), response => ∃ position, response =
      ⟨plain.effect, some ⟨position, plain.toRule name⟩, plain.grant input.request.resource⟩

theorem passes_of_firstDeciding_none (h : input.firstDeciding kind rules = none) :
    ∀ rule ∈ rulesOf kind rules, rule.Passes input.request := by
  intro rule hmem
  obtain ⟨numbered, hnumbered, rfl⟩ := List.mem_map.mp hmem
  have hnot := List.find?_eq_none.mp (Option.map_eq_none_iff.mp h) numbered hnumbered
  exact PlainRule.passes_toRule _ (types_request input) (by simpa using hnot)

theorem firstAt_of_firstDeciding {name : String} {plain : PlainRule}
    (h : input.firstDeciding kind rules = some (name, plain)) :
    ∃ position, Chain.FirstAt input.request (rulesOf kind rules) position (plain.toRule name) ∧
      (plain.toRule name).Decides input.request := by
  obtain ⟨⟨found, i⟩, hfind, hname⟩ := Option.map_eq_some_iff.mp h
  obtain ⟨rfl, rfl⟩ := Prod.mk.inj hname
  obtain ⟨hdecides, before, after, hsplit, hbefore⟩ := List.find?_eq_some_iff_append.mp hfind
  have hd : (ruleAt kind (found, i)).Decides input.request :=
    (PlainRule.decides_toRule_iff _ (types_request input)).mpr hdecides
  have hpassed : ∀ earlier ∈ before.map (ruleAt kind), earlier.Passes input.request := by
    intro earlier hmem
    obtain ⟨numbered, hnumbered, rfl⟩ := List.mem_map.mp hmem
    have hnot := hbefore numbered hnumbered
    exact PlainRule.passes_toRule _ (types_request input) (by simpa using hnot)
  refine ⟨(before.map (ruleAt kind)).length, ?_, hd⟩
  rw [rulesOf_eq, hsplit, List.map_append, List.map_cons]
  exact Chain.firstAt_append hpassed fun hp => hp.1 hd

/-- **One chain of plain rules is decided by the first that decides.** -/
theorem evaluate_answers (input : ChainInput) (kind : ChainKind) (rules : List PlainRule) :
    ∃ response, (Chain.evaluate kind (some (rulesOf kind rules)) input.request).outcome =
      .ok response ∧ input.Answers (input.firstDeciding kind rules) response := by
  cases hf : input.firstDeciding kind rules with
  | none =>
    have hpasses : ∀ rule ∈ (some (rulesOf kind rules)).getD [], rule.Passes input.request :=
      passes_of_firstDeciding_none hf
    refine ⟨.defaultDeny, ?_, rfl⟩
    rw [Chain.evaluate_of_passes hpasses]
  | some winner =>
    obtain ⟨name, plain⟩ := winner
    obtain ⟨position, hfirst, hd⟩ := firstAt_of_firstDeciding hf
    have hfirst' : Chain.FirstAt input.request ((some (rulesOf kind rules)).getD []) position
        (plain.toRule name) := hfirst
    refine ⟨_, ?_, position, rfl⟩
    rw [Chain.evaluate_of_decides hfirst' hd, Evaluation.outcome_after,
      PlainRule.outcome_conclude_toRule]

/-! ## Both chains -/

theorem Answers.effect {winner : String × PlainRule} {response : Response}
    (h : input.Answers (some winner) response) : response.effect = winner.2.effect := by
  obtain ⟨position, rfl⟩ := h
  rfl

theorem expected_of_none (h : input.requestChain.bind (input.firstDeciding .request) = none) :
    input.expected = input.firstDeciding .default input.defaultChain := by
  simp [expected, h]

theorem expected_of_deny {winner : String × PlainRule}
    (h : input.requestChain.bind (input.firstDeciding .request) = some winner)
    (hdeny : winner.2.effect = .deny) :
    input.expected = input.firstDeciding .default input.defaultChain := by
  simp [expected, h, hdeny, Option.filter, Effect.isAllow]

theorem expected_of_allow {winner : String × PlainRule}
    (h : input.requestChain.bind (input.firstDeciding .request) = some winner)
    (hallow : winner.2.effect = .allow) : input.expected = some winner := by
  simp [expected, h, hallow, Option.filter, Effect.isAllow]

/-- The chain of the request, which may be missing, answers by the first rule that decides. -/
theorem evaluate_request_answers (input : ChainInput) :
    ∃ response, (Chain.evaluate .request (input.requestChain.map (rulesOf .request))
        input.request).outcome = .ok response ∧
      input.Answers (input.requestChain.bind (input.firstDeciding .request)) response := by
  cases hc : input.requestChain with
  | none => exact ⟨.defaultDeny, rfl, rfl⟩
  | some rules => exact evaluate_answers input .request rules

/-- After a deny by the chain of the request, the default chain is left to decide. -/
theorem run_answers_of_deny {response : Response}
    (hown : (Chain.evaluate .request (input.requestChain.map (rulesOf .request))
      input.request).outcome = .ok response) (hdeny : response.effect = .deny)
    (hexpected : input.expected = input.firstDeciding .default input.defaultChain) :
    ∃ response, input.run.outcome = .ok response ∧ input.Answers input.expected response := by
  obtain ⟨answer, hanswer, hspec⟩ := evaluate_answers input .default input.defaultChain
  refine ⟨answer, ?_, by rw [hexpected]; exact hspec⟩
  rw [run, Authorizer.enforce_of_deny hown hdeny, Evaluation.outcome_after,
    Authorizer.outcome_conclude, hanswer]

/-- **The engine gives the answer that is found without it.** -/
theorem run_answers (input : ChainInput) :
    ∃ response, input.run.outcome = .ok response ∧ input.Answers input.expected response := by
  obtain ⟨response, hown, hspec⟩ := evaluate_request_answers input
  cases hw : input.requestChain.bind (input.firstDeciding .request) with
  | none =>
    rw [hw] at hspec
    obtain rfl : response = .defaultDeny := hspec
    exact run_answers_of_deny hown rfl (expected_of_none hw)
  | some winner =>
    rw [hw] at hspec
    have heffect := hspec.effect
    cases he : winner.2.effect with
    | deny => exact run_answers_of_deny hown (heffect.trans he) (expected_of_deny hw he)
    | allow =>
      refine ⟨response, ?_, by rw [expected_of_allow hw he]; exact hspec⟩
      rw [run, Authorizer.enforce_of_allow hown (heffect.trans he), Authorizer.outcome_conclude,
        hown]

/-! ## The trials hold -/

/-- What an allow grants is tagged if the rule tags, and is the same thing as before. -/
theorem resourceHolds_of_allow {plain : PlainRule} {matched : Option Placed}
    (h : plain.effect = .allow) :
    input.resourceHolds plain ⟨.allow, matched, plain.grant input.request.resource⟩ = true := by
  have hsame : (Value.nat 7).same (.nat 7) = true := rfl
  have hid : input.request.resource.field? "id" = some (.nat 7) := by rw [resource_eq]; rfl
  have hmasked : input.request.resource.field? "masked" = none := by rw [resource_eq]; rfl
  rw [resourceHolds, PlainRule.grant, h, hid]
  cases ht : plain.tags with
  | false => simp [Granted.resource, hid, hmasked, Value.sameOption, hsame]
  | true =>
    have hid' : (PlainRule.tag input.request.resource).field? "id" = some (.nat 7) := by
      rw [resource_eq]
      exact PlainRule.field?_tag_of_ne _ (by decide)
    have hmasked' : (PlainRule.tag input.request.resource).field? "masked" =
        some (.bool true) := by
      rw [resource_eq]
      exact PlainRule.field?_tag_masked _
    simp [Granted.resource, hid', hmasked', Value.sameOption, Value.same, hsame]

theorem responseHolds_of_answers {response : Response}
    (h : input.Answers input.expected response) : input.responseHolds response = true := by
  unfold responseHolds
  cases he : input.expected with
  | none =>
    rw [he] at h
    obtain rfl : response = .defaultDeny := h
    rfl
  | some winner =>
    rw [he] at h
    obtain ⟨name, plain⟩ := winner
    obtain ⟨position, rfl⟩ := h
    have hname : (plain.toRule name).name = some name := rfl
    cases heffect : plain.effect with
    | deny => simp [hname, heffect, Response.isAllowed, Effect.isAllow, PlainRule.grant]
    | allow =>
      have hgranted : (plain.grant input.request.resource).isSome = true := by
        simp [PlainRule.grant, heffect]
      simp [hname, heffect, hgranted, resourceHolds_of_allow heffect, Response.isAllowed,
        Effect.isAllow]

end ChainInput
end Trial

/-- **The engine agrees with the reference on all plain rules.** Whatever chains a trial is made
of, its run ends without a failure and every check on its answer holds. The answer is that of the
first rule of the request's chain that decides, if it allows, or else of the first of the default
chain: its name and effect, and on an allow the resource, tagged if the rule tags. Where no rule
decides the answer is a deny by no rule. -/
theorem engine_agrees_with_reference (input : Trial.ChainInput) :
    input.holds = true ∧
      ∃ response, input.run.outcome = .ok response ∧ input.Answers input.expected response := by
  obtain ⟨response, hrun, hanswers⟩ := input.run_answers
  refine ⟨?_, response, hrun, hanswers⟩
  rw [Trial.ChainInput.holds, hrun]
  exact Trial.ChainInput.responseHolds_of_answers hanswers

end Clearance
