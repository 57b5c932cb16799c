import Clearance.Authorizer
import Clearance.Proofs.Deciding.FirstMatch

/-!
# Two tiers

An authorizer puts a request to the chain that came with it and, if that does not allow, to its
own default chain. This file says what is left of the first evaluation in the answer: everything if
it failed or allowed, **nothing but its log and its callback runs if it denied**. The three
equations of `enforce` say so, and `Evaluation.Within` says which chain each callback run and each
failure comes from, so that the two tiers can be told apart in an answer.

The consequence that callers rely on is the last part of `enforce_two_tier`: giving a chain with a
request can add an allow and can fail, but **it never takes away an allow of the default chain**.
-/

set_option autoImplicit false

namespace Clearance

/-! ## What an evaluation belongs to -/

structure Evaluation.Within (kind : ChainKind) (evaluation : Evaluation) : Prop where
  calls : ∀ call ∈ evaluation.calls, call.chain = kind
  error : ∀ error, evaluation.outcome = .error error → error.chain = kind

theorem Evaluation.within_pure_ok (kind : ChainKind) (response : Response) :
    (Evaluation.pure (.ok response)).Within kind where
  calls := fun _ h => absurd h List.not_mem_nil
  error := fun _ h => absurd h (by simp [Evaluation.pure])

theorem Evaluation.Within.after {kind : ChainKind} {calls : List Call}
    {events : List Event} {evaluation : Evaluation}
    (h : evaluation.Within kind) (hcalls : ∀ call ∈ calls, call.chain = kind) :
    (evaluation.after calls events).Within kind where
  calls := by
    intro call hmem
    rcases List.mem_append.mp hmem with hmem | hmem
    · exact hcalls call hmem
    · exact h.calls call hmem
  error := h.error

namespace Chain

variable {kind : ChainKind} {request : Request}

theorem chain_of_mem_callOf {placed : Placed} {callback : Callback} {present : Bool} {call : Call}
    (h : call ∈ callOf kind placed callback present) : call.chain = kind := by
  unfold callOf at h
  split at h
  · rw [List.mem_singleton.mp h]
  · exact absurd h List.not_mem_nil

theorem within_conclude (kind : ChainKind) (request : Request) (placed : Placed) :
    (conclude kind request placed).Within kind := by
  unfold conclude
  split
  · exact Evaluation.within_pure_ok kind _
  · exact Evaluation.within_pure_ok kind _
  · next mapper _ _ =>
    refine ⟨?_, ?_⟩
    · intro call h
      have hmem : call ∈ callOf kind placed .mapper true := h
      exact chain_of_mem_callOf hmem
    · intro error herr
      cases hr : (mapper request.resource).result with
      | ok resource => exact absurd herr (by simp [hr])
      | error cause =>
        simp only [hr, Except.error.injEq] at herr
        rw [← herr]
        rfl

theorem within_ask (kind : ChainKind) (request : Request) (placed : List Placed) :
    (ask kind request placed).Within kind := by
  induction placed with
  | nil => exact Evaluation.within_pure_ok kind .defaultDeny
  | cons p rest ih =>
    rw [ask]
    cases hf : p.rule.fires request with
    | error cause =>
      refine ⟨fun call h => chain_of_mem_callOf h, ?_⟩
      intro error herr
      rw [← Except.error.inj herr]
      rfl
    | ok fired =>
      cases fired with
      | false => exact ih.after fun call h => chain_of_mem_callOf h
      | true => exact (within_conclude kind request p).after fun call h => chain_of_mem_callOf h

/-- An evaluation runs callbacks of its own chain only, and its failures name that chain. -/
theorem within_evaluate (kind : ChainKind) (chain : Option (List Rule)) (request : Request) :
    (evaluate kind chain request).Within kind := by
  rw [evaluate_eq]
  refine (within_ask kind request _).after fun call h => ?_
  obtain ⟨placed, _, rfl⟩ := List.mem_map.mp h
  rfl

end Chain

/-! ## The equations of enforcing -/

namespace Authorizer

variable {authorizer : Authorizer} {chain : Option (List Rule)} {request : Request}

@[simp] theorem outcome_conclude (authorizer : Authorizer) (request : Request) (kind : ChainKind)
    (evaluation : Evaluation) :
    (authorizer.conclude request kind evaluation).outcome = evaluation.outcome := by
  unfold conclude
  split <;> simp [*]

@[simp] theorem calls_conclude (authorizer : Authorizer) (request : Request) (kind : ChainKind)
    (evaluation : Evaluation) :
    (authorizer.conclude request kind evaluation).calls = evaluation.calls := by
  unfold conclude
  split <;> rfl

theorem enforce_of_error {error : EvaluationError}
    (h : (Chain.evaluate .request chain request).outcome = .error error) :
    authorizer.enforce chain request = Chain.evaluate .request chain request := by
  simp only [enforce, h]

theorem enforce_of_allow {response : Response}
    (h : (Chain.evaluate .request chain request).outcome = .ok response)
    (ha : response.effect = .allow) :
    authorizer.enforce chain request =
      authorizer.conclude request .request (Chain.evaluate .request chain request) := by
  simp only [enforce, h, Response.isAllowed, ha, Effect.isAllow, if_true]

theorem enforce_of_deny {response : Response}
    (h : (Chain.evaluate .request chain request).outcome = .ok response)
    (hd : response.effect = .deny) :
    authorizer.enforce chain request =
      (authorizer.conclude request .default
        (Chain.evaluate .default (some authorizer.defaultChain) request)).after
        (Chain.evaluate .request chain request).calls
        (Chain.evaluate .request chain request).events := by
  simp [enforce, h, Response.isAllowed, hd, Effect.isAllow]

/-- Without a chain of its own a request gets the answer of the default chain. -/
theorem outcome_enforce_none (authorizer : Authorizer) (request : Request) :
    (authorizer.enforce none request).outcome =
      (Chain.evaluate .default (some authorizer.defaultChain) request).outcome := by
  have hown : (Chain.evaluate .request none request).outcome = .ok .defaultDeny := rfl
  rw [enforce_of_deny hown rfl, Evaluation.outcome_after, outcome_conclude]

/-! ## Enforcing is two tiers -/

/-- **Two-tier fallback.** A failure of the request's chain is the outcome and names that chain,
an allow of it is the answer as it stands, and in both cases no callback of the default chain runs.
A deny of it, by a rule or for want of one, leaves the answer to the default chain alone. So a
request's chain never turns an allow into a deny. -/
theorem enforce_two_tier (authorizer : Authorizer) (chain : Option (List Rule))
    (request : Request) :
    (∀ error, (Chain.evaluate .request chain request).outcome = .error error →
      (authorizer.enforce chain request).outcome = .error error ∧ error.chain = .request ∧
        (authorizer.enforce chain request).calls = (Chain.evaluate .request chain request).calls ∧
        ∀ call ∈ (authorizer.enforce chain request).calls, call.chain = .request) ∧
    (∀ response, (Chain.evaluate .request chain request).outcome = .ok response →
      response.effect = .allow →
      (authorizer.enforce chain request).outcome = .ok response ∧
        (authorizer.enforce chain request).calls = (Chain.evaluate .request chain request).calls ∧
        ∀ call ∈ (authorizer.enforce chain request).calls, call.chain = .request) ∧
    (∀ response, (Chain.evaluate .request chain request).outcome = .ok response →
      response.effect = .deny →
      (authorizer.enforce chain request).outcome =
          (Chain.evaluate .default (some authorizer.defaultChain) request).outcome ∧
        (authorizer.enforce chain request).calls =
          (Chain.evaluate .request chain request).calls ++
            (Chain.evaluate .default (some authorizer.defaultChain) request).calls ∧
        ∀ error, (authorizer.enforce chain request).outcome = .error error →
          error.chain = .default) ∧
    (∀ granted, (authorizer.enforce none request).outcome = .ok granted →
      granted.effect = .allow →
      (∃ response, (authorizer.enforce chain request).outcome = .ok response ∧
        response.effect = .allow) ∨
      ∃ error, (authorizer.enforce chain request).outcome = .error error ∧
        (Chain.evaluate .request chain request).outcome = .error error ∧
        error.chain = .request) := by
  have hown := Chain.within_evaluate .request chain request
  have hdefault := Chain.within_evaluate .default (some authorizer.defaultChain) request
  refine ⟨?_, ?_, ?_, ?_⟩
  · intro error h
    rw [enforce_of_error h]
    exact ⟨h, hown.error error h, rfl, hown.calls⟩
  · intro response h ha
    rw [enforce_of_allow h ha, outcome_conclude, calls_conclude]
    exact ⟨h, rfl, hown.calls⟩
  · intro response h hd
    rw [enforce_of_deny h hd]
    simp only [Evaluation.outcome_after, outcome_conclude, Evaluation.calls_after, calls_conclude]
    exact ⟨trivial, trivial, hdefault.error⟩
  · intro granted hg hallow
    -- The default chain allows; what matters is how the request's own chain ends.
    rw [outcome_enforce_none] at hg
    cases h : (Chain.evaluate .request chain request).outcome with
    | error error =>
      refine Or.inr ⟨error, ?_, rfl, hown.error error h⟩
      rw [enforce_of_error h, h]
    | ok response =>
      refine Or.inl ?_
      cases he : response.effect with
      | allow => exact ⟨response, by rw [enforce_of_allow h he, outcome_conclude, h], he⟩
      | deny =>
        refine ⟨granted, ?_, hallow⟩
        rw [enforce_of_deny h he, Evaluation.outcome_after, outcome_conclude, hg]

/-- Of a deny by the request's chain nothing is left: the position and the rule are those of the
default chain. -/
theorem enforce_always_deny :
    (Chain.evaluate .request (some [.always .deny]) (.ofParts .null .null)).outcome =
        .ok ⟨.deny, some ⟨0, .always .deny⟩, none⟩ ∧
      (enforce { defaultChain := [{ filter := some fun _ => false }, .always .allow] }
        (some [.always .deny]) (.ofParts .null .null)).outcome =
        .ok ⟨.allow, some ⟨1, .always .allow⟩, some (.unchanged .null)⟩ := by
  have htiers := enforce_two_tier
    { defaultChain := [{ filter := some fun _ => false }, .always .allow] }
    (some [.always .deny]) (.ofParts .null .null)
  have hdenied : (Chain.evaluate .request (some [.always .deny]) (.ofParts .null .null)).outcome =
      .ok ⟨.deny, some ⟨0, .always .deny⟩, none⟩ := rfl
  obtain ⟨houtcome, _⟩ := htiers.2.2.1 _ hdenied rfl
  refine ⟨hdenied, ?_⟩
  rw [houtcome]
  rfl

end Authorizer
end Clearance
