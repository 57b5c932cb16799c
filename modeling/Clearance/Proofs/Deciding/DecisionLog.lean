import Clearance.Proofs.Deciding.Fallback

/-!
# The log tells what was decided

A decision is logged in three places: each chain that is evaluated logs how many of its rules apply
and which one fired, and the authorizer adds one event for the answer that it gives. This file says
what the events of a request are, all of them and in order: `Chain.Logs` for one chain,
`Authorizer.Logs` for both, with the outcome beside the events, so that **what is logged can be
held against what was decided**. The other direction is `enforce_setLogging`: whether decisions are
logged changes nothing but the log.

A mapper may log as well, as masking policies do. Its events stand behind the event of its rule.
-/

set_option autoImplicit false

namespace Clearance

/-! ## One chain -/

/-- What the mapper of a rule logs. It runs only in a rule that allows. -/
def Rule.mapperEvents (rule : Rule) (request : Request) : List Event :=
  match rule.effect, rule.mapper with
  | .allow, some mapper => (mapper request.resource).events
  | _, _ => []

namespace Chain

variable {kind : ChainKind} {request : Request} {rules : List Rule} {events : List Event}

/-- The event that opens the evaluation of a chain with rules. -/
def evaluatingEvent (kind : ChainKind) (request : Request) (rules : List Rule) : Event :=
  .evaluating kind rules.length (rules.countP fun rule => rule.applies request.types)
    request.types

/-- What the evaluation of a chain logs: how many of its rules apply, and the rule that fired if
one did, be it that its mapper fails afterwards. -/
inductive Logs (kind : ChainKind) (request : Request) : List Rule → List Event → Prop where
  | empty : Logs kind request [] [.emptyChain kind]
  | silent {rules : List Rule} (hne : rules ≠ []) (h : ∀ rule ∈ rules, rule.Passes request) :
      Logs kind request rules [evaluatingEvent kind request rules]
  | failed {rules : List Rule} {position : Nat} {rule : Rule} {cause : Fault}
      (h : FirstAt request rules position rule) (hf : rule.Fails request cause) :
      Logs kind request rules [evaluatingEvent kind request rules]
  | fired {rules : List Rule} {position : Nat} {rule : Rule}
      (h : FirstAt request rules position rule) (hd : rule.Decides request) :
      Logs kind request rules
        (evaluatingEvent kind request rules :: .fired kind (rule.label position) rule.effect ::
          rule.mapperEvents request)

theorem map_rule_place (rules : List Rule) : (place rules).map Placed.rule = rules := by
  rw [place, List.map_map]
  exact List.zipIdx_map_fst 0 rules

/-- The rules that are asked are as many as there are to which the request's types are right. -/
theorem length_applicable (request : Request) (rules : List Rule) :
    (applicable request rules).length = rules.countP fun rule => rule.applies request.types := by
  have hplace := congrArg (List.countP fun rule => rule.applies request.types)
    (map_rule_place rules)
  rw [List.countP_map] at hplace
  rw [applicable, ← List.countP_eq_length_filter]
  exact hplace

theorem opening_of_ne_nil (kind : ChainKind) (request : Request) (hne : rules ≠ []) :
    opening kind request rules = [evaluatingEvent kind request rules] := by
  obtain ⟨rule, rest, rfl⟩ := List.exists_cons_of_ne_nil hne
  rw [opening, length_applicable]
  · rfl
  · simp

theorem FirstAt.ne_nil {position : Nat} {rule : Rule} (h : FirstAt request rules position rule) :
    rules ≠ [] := by
  rintro rfl
  exact absurd h.found (by simp)

theorem events_conclude (kind : ChainKind) (request : Request) (placed : Placed) :
    (conclude kind request placed).events = placed.rule.mapperEvents request := by
  unfold conclude Rule.mapperEvents
  cases placed.rule.effect with
  | deny => rfl
  | allow => cases placed.rule.mapper <;> rfl

theorem exists_logs (kind : ChainKind) (request : Request) (rules : List Rule) :
    ∃ events, Logs kind request rules events := by
  rcases passes_or_firstAt request rules with h | ⟨position, rule, h⟩
  · cases rules with
    | nil => exact ⟨_, .empty⟩
    | cons rule rest => exact ⟨_, .silent (by simp) h⟩
  · rcases Rule.decides_or_fails h.stops with hd | ⟨cause, hf⟩
    · exact ⟨_, .fired h hd⟩
    · exact ⟨_, .failed h hf⟩

theorem Logs.eq_evaluate {chain : Option (List Rule)}
    (h : Logs kind request (chain.getD []) events) :
    events = (evaluate kind chain request).events := by
  generalize hc : chain.getD [] = rules at h
  cases h with
  | empty =>
    rw [evaluate, hc]
  | silent hne h =>
    rw [← hc] at h
    rw [evaluate_of_passes h, hc, opening_of_ne_nil kind request hne]
  | failed h hf =>
    have hne := h.ne_nil
    rw [← hc] at h
    rw [evaluate_of_fails h hf, hc, opening_of_ne_nil kind request hne]
  | fired h hd =>
    have hne := h.ne_nil
    rw [← hc] at h
    rw [evaluate_of_decides h hd, Evaluation.events_after, events_conclude, hc,
      opening_of_ne_nil kind request hne]
    rfl

/-- The events of an evaluation are those that tell what happened in it, and no others. -/
theorem logs_iff (kind : ChainKind) (chain : Option (List Rule)) (request : Request)
    (events : List Event) :
    Logs kind request (chain.getD []) events ↔
      events = (evaluate kind chain request).events := by
  constructor
  · exact Logs.eq_evaluate
  · rintro rfl
    obtain ⟨events, h⟩ := exists_logs kind request (chain.getD [])
    rw [← h.eq_evaluate]
    exact h

end Chain

/-! ## What an event says -/

namespace Event

/-- The printed record of an event has this level and this message, and these fields among others. -/
def Reads (event : Event) (level : Level) (message : String) (fields : List (String × Value)) :
    Prop :=
  ∀ field ∈ ("level", .text level.name) :: ("message", .text message) :: fields,
    event.record.field? field.1 = some field.2

theorem nodup_keys_printed (event : Event) :
    (Fields.keys (("level", .text event.level.name) :: ("message", .text event.message) ::
      event.fields)).Nodup := by
  cases event <;> simp [Fields.keys, fields, typeFields]

/-- No field of an event hides another, so the record says all that the event holds. -/
theorem reads (event : Event) : event.Reads event.level event.message event.fields :=
  fun _ h => Fields.get?_ofList_of_mem event.nodup_keys_printed h

end Event

namespace Authorizer

variable {authorizer : Authorizer} {chain : Option (List Rule)} {request : Request}

/-! ## The event of a decision -/

/-- What the authorizer says of its answer: one event if it logs decisions, which names the chain
that the answer comes from and the rule, the effect and the word of the answer. -/
inductive Announces (authorizer : Authorizer) (request : Request) (kind : ChainKind)
    (response : Response) : List Event → Prop where
  | silent (h : authorizer.logsDecisions = false) : Announces authorizer request kind response []
  | told {event : Event} (h : authorizer.logsDecisions = true)
      (hr : event.Reads .info
        (if response.effect = .allow then "Access granted" else "Access denied")
        [("authorizer", .text authorizer.name),
          ("resource_type", .text (Text.quotedOption request.types.resource)),
          ("action_type", .text (Text.quotedOption request.types.action)),
          ("rule", .text (response.label.getD "<none>")),
          ("chain", .text kind.name),
          ("effect", .text response.effect.name)]) :
      Announces authorizer request kind response [event]

theorem announces_decisionLog (authorizer : Authorizer) (request : Request) (kind : ChainKind)
    (response : Response) :
    authorizer.Announces request kind response (authorizer.decisionLog request kind response) := by
  unfold decisionLog
  cases h : authorizer.logsDecisions with
  | false => exact .silent h
  | true =>
    refine .told h ?_
    have hreads := (Event.decided authorizer.name request.types response.label kind
      response.effect).reads
    cases he : response.effect with
    | allow => rwa [he] at hreads
    | deny => rwa [he] at hreads

/-! ## Both tiers -/

/-- The four ways a request can end, with the answer and the whole log of each. `own` and `default`
are what the request's chain and the default chain make of the request. -/
inductive Logs (authorizer : Authorizer) (request : Request) (own default : Evaluation) :
    Except EvaluationError Response → List Event → Prop where
  | ownFailed {error : EvaluationError} (h : own.outcome = .error error) :
      Logs authorizer request own default (.error error) own.events
  | ownAllowed {response : Response} {decision : List Event} (h : own.outcome = .ok response)
      (ha : response.effect = .allow)
      (hd : authorizer.Announces request .request response decision) :
      Logs authorizer request own default (.ok response) (own.events ++ decision)
  | defaultFailed {denied : Response} {error : EvaluationError} (h : own.outcome = .ok denied)
      (hdeny : denied.effect = .deny) (hf : default.outcome = .error error) :
      Logs authorizer request own default (.error error) (own.events ++ default.events)
  | defaultDecided {denied response : Response} {decision : List Event}
      (h : own.outcome = .ok denied) (hdeny : denied.effect = .deny)
      (hr : default.outcome = .ok response)
      (hd : authorizer.Announces request .default response decision) :
      Logs authorizer request own default (.ok response)
        (own.events ++ (default.events ++ decision))

theorem conclude_of_error {kind : ChainKind} {evaluation : Evaluation} {error : EvaluationError}
    (h : evaluation.outcome = .error error) :
    authorizer.conclude request kind evaluation = evaluation := by
  simp only [conclude, h]

theorem events_conclude_of_ok {kind : ChainKind} {evaluation : Evaluation} {response : Response}
    (h : evaluation.outcome = .ok response) :
    (authorizer.conclude request kind evaluation).events =
      evaluation.events ++ authorizer.decisionLog request kind response := by
  simp only [conclude, h]

theorem logs_enforce (authorizer : Authorizer) (chain : Option (List Rule)) (request : Request) :
    authorizer.Logs request (Chain.evaluate .request chain request)
      (Chain.evaluate .default (some authorizer.defaultChain) request)
      (authorizer.enforce chain request).outcome (authorizer.enforce chain request).events := by
  cases h : (Chain.evaluate .request chain request).outcome with
  | error error =>
    rw [enforce_of_error h, h]
    exact .ownFailed h
  | ok response =>
    cases he : response.effect with
    | allow =>
      rw [enforce_of_allow h he, outcome_conclude, events_conclude_of_ok h, h]
      exact .ownAllowed h he (announces_decisionLog authorizer request .request response)
    | deny =>
      rw [enforce_of_deny h he, Evaluation.outcome_after, Evaluation.events_after,
        outcome_conclude]
      cases hr : (Chain.evaluate .default (some authorizer.defaultChain) request).outcome with
      | error error =>
        rw [conclude_of_error hr]
        exact .defaultFailed h he hr
      | ok answer =>
        rw [events_conclude_of_ok hr]
        exact .defaultDecided h he hr (announces_decisionLog authorizer request .default answer)

/-! ## The log decides nothing -/

/-- Whether decisions are logged changes neither the answer nor which callbacks run. -/
theorem enforce_setLogging (authorizer : Authorizer) (chain : Option (List Rule))
    (request : Request) (logs : Bool) :
    (enforce { authorizer with logsDecisions := logs } chain request).outcome =
        (authorizer.enforce chain request).outcome ∧
      (enforce { authorizer with logsDecisions := logs } chain request).calls =
        (authorizer.enforce chain request).calls := by
  cases h : (Chain.evaluate .request chain request).outcome with
  | error error =>
    rw [enforce_of_error h, enforce_of_error h]
    exact ⟨rfl, rfl⟩
  | ok response =>
    cases he : response.effect with
    | allow =>
      rw [enforce_of_allow h he, enforce_of_allow h he]
      simp only [outcome_conclude, calls_conclude, and_self]
    | deny =>
      rw [enforce_of_deny h he, enforce_of_deny h he]
      simp only [Evaluation.outcome_after, outcome_conclude, Evaluation.calls_after,
        calls_conclude, and_self]

/-- **The log tells the decision and has no part in it.** Logging changes neither the answer nor
the callbacks that run; the events of a chain are those that `Chain.Logs` lists, and they say how
many rules there are, how many apply and which one fired; and the events of a request are those of
the chains that were evaluated for it, then the announcement of its answer, which names the chain
that the answer comes from. -/
theorem log_tells_decision (authorizer : Authorizer) (chain : Option (List Rule))
    (request : Request) :
    (∀ logs,
      (enforce { authorizer with logsDecisions := logs } chain request).outcome =
          (authorizer.enforce chain request).outcome ∧
        (enforce { authorizer with logsDecisions := logs } chain request).calls =
          (authorizer.enforce chain request).calls) ∧
    (∀ kind chain events, Chain.Logs kind request (chain.getD []) events ↔
      events = (Chain.evaluate kind chain request).events) ∧
    (∀ kind, (Event.emptyChain kind).Reads .trace "Empty rule chain; default deny"
      [("chain", .text kind.name)]) ∧
    (∀ kind rules, (Chain.evaluatingEvent kind request rules).Reads .debug "Evaluating rule chain"
      [("chain", .text kind.name), ("rules", .nat rules.length),
        ("applicable", .nat (rules.countP fun rule => rule.applies request.types)),
        ("resource_type", .text (Text.quotedOption request.types.resource)),
        ("action_type", .text (Text.quotedOption request.types.action))]) ∧
    (∀ kind label effect, (Event.fired kind label effect).Reads .trace "Rule fired"
      [("chain", .text kind.name), ("rule", .text label), ("effect", .text effect.name)]) ∧
    authorizer.Logs request (Chain.evaluate .request chain request)
      (Chain.evaluate .default (some authorizer.defaultChain) request)
      (authorizer.enforce chain request).outcome (authorizer.enforce chain request).events := by
  refine ⟨authorizer.enforce_setLogging chain request, ?_, ?_, ?_, ?_,
    authorizer.logs_enforce chain request⟩
  · intro kind chain events
    exact Chain.logs_iff kind chain request events
  · intro kind
    exact (Event.emptyChain kind).reads
  · intro kind rules
    exact (Chain.evaluatingEvent kind request rules).reads
  · intro kind label effect
    exact (Event.fired kind label effect).reads

end Authorizer
end Clearance
