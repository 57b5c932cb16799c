import Clearance.Proofs.Deciding.Fallback
import Clearance.Proofs.Masking.Application

/-!
# Masking fails closed

A rule that allows through a masking policy has two ends and no third: the resource that **all**
masks of the policy left, or the error of the first mask that failed, as the failure of that rule.
What must not happen is that a mask which could not be applied turns into an answer, be it a
resource that is masked in part, a later rule, or the default chain.

`FailsClosed` lists the two ends, each with the events that the masks logged on the way, and
`masking_fails_closed` says that an authorizer ends in one of them whenever such a rule decides,
wherever it stands.
-/

set_option autoImplicit false

namespace Clearance

/-! ## Who decides -/

/-- The chain leaves a request to the next one: no rule of it decides or fails, or one denies. -/
def Chain.HandsOver (request : Request) (rules : List Rule) : Prop :=
  (∀ rule ∈ rules, rule.Passes request) ∨
    ∃ position rule, FirstAt request rules position rule ∧ rule.Decides request ∧
      rule.effect = .deny

/-- The rule at a position of one of the two chains is the one that decides a request. -/
def Authorizer.DecidedBy (authorizer : Authorizer) (chain : Option (List Rule))
    (request : Request) (kind : ChainKind) (position : Nat) (rule : Rule) : Prop :=
  match kind with
  | .request => Chain.FirstAt request (chain.getD []) position rule ∧ rule.Decides request
  | .default =>
      Chain.HandsOver request (chain.getD []) ∧
        Chain.FirstAt request authorizer.defaultChain position rule ∧ rule.Decides request

/-- The two ends of a request that a rule with a masking policy decides. -/
inductive FailsClosed (policy : Policy) (resource : Value) (kind : ChainKind) (position : Nat)
    (rule : Rule) : Except EvaluationError Response → List Event → Prop where
  | masked {events : List Event} {masked : Value}
      (hrun : Policy.Run policy resource events masked) :
      FailsClosed policy resource kind position rule
        (.ok ⟨.allow, some ⟨position, rule⟩, some (.mapped masked)⟩) events
  | failed {before after : Policy} {mask : Mask} {events : List Event} {current : Value}
      {error : MaskError} (hsplit : policy = before ++ mask :: after)
      (hrun : Policy.Run before resource events current)
      (hf : (mask.apply current).applied = .error error) :
      FailsClosed policy resource kind position rule
        (.error (.mapperFailed (rule.label position) kind (.masking error))) events

/-! ## The events of masks among all events -/

def Event.isMask : Event → Bool
  | .maskEvaluated .. => true
  | _ => false

def maskEvents (events : List Event) : List Event := events.filter Event.isMask

theorem maskEvents_append (first second : List Event) :
    maskEvents (first ++ second) = maskEvents first ++ maskEvents second :=
  List.filter_append first second

theorem maskEvents_of_run {policy : Policy} {resource masked : Value} {events : List Event}
    (h : Policy.Run policy resource events masked) : maskEvents events = events := by
  induction h with
  | done resource => rfl
  | mask happly hrest ih =>
    show _ :: maskEvents _ = _
    rw [ih]

theorem maskEvents_opening (kind : ChainKind) (request : Request) (rules : List Rule) :
    maskEvents (Chain.opening kind request rules) = [] := by
  cases rules <;> rfl

theorem maskEvents_conclude (authorizer : Authorizer) (request : Request) (kind : ChainKind)
    (evaluation : Evaluation) :
    maskEvents (authorizer.conclude request kind evaluation).events =
      maskEvents evaluation.events := by
  unfold Authorizer.conclude
  split
  · rfl
  · show maskEvents (evaluation.events ++ authorizer.decisionLog request kind _) = _
    rw [maskEvents_append, Authorizer.decisionLog]
    split
    · exact List.append_nil _
    · exact List.append_nil _

/-! ## One chain -/

section Chain

variable {kind : ChainKind} {chain : Option (List Rule)} {request : Request} {position : Nat}
  {rule : Rule} {policy : Policy}

theorem Chain.conclude_toMapper (kind : ChainKind) (request : Request) (position : Nat)
    (ha : rule.effect = .allow) (hm : rule.mapper = some policy.toMapper) :
    conclude kind request ⟨position, rule⟩ =
      ⟨match (policy.apply request.resource).result with
        | .ok masked => .ok ⟨.allow, some ⟨position, rule⟩, some (.mapped masked)⟩
        | .error error => .error (.mapperFailed (rule.label position) kind (.masking error)),
        [⟨kind, position, .mapper⟩], (policy.apply request.resource).events⟩ := by
  simp only [conclude, ha, hm, Policy.toMapper, callOf, if_true, Placed.label]
  cases (policy.apply request.resource).result <;> rfl

theorem failsClosed_apply (policy : Policy) (resource : Value) (kind : ChainKind)
    (position : Nat) (rule : Rule) :
    FailsClosed policy resource kind position rule
        (match (policy.apply resource).result with
          | .ok masked => .ok ⟨.allow, some ⟨position, rule⟩, some (.mapped masked)⟩
          | .error error => .error (.mapperFailed (rule.label position) kind (.masking error)))
        (policy.apply resource).events ∧
      maskEvents (policy.apply resource).events = (policy.apply resource).events := by
  rcases Policy.run_or_fails policy resource with ⟨events, masked, hrun⟩ |
    ⟨before, mask, after, events, current, error, rfl, hrun, hf⟩
  · rw [Policy.apply_of_run hrun]
    exact ⟨.masked hrun, maskEvents_of_run hrun⟩
  · rw [Policy.apply_of_run_error hrun hf]
    exact ⟨.failed rfl hrun hf, maskEvents_of_run hrun⟩

/-- A chain that a masking rule decides fails closed, and the last callback that runs is the
mapper of that rule. -/
theorem Chain.evaluate_failsClosed (kind : ChainKind) (chain : Option (List Rule))
    (h : FirstAt request (chain.getD []) position rule) (hd : rule.Decides request)
    (ha : rule.effect = .allow) (hm : rule.mapper = some policy.toMapper) :
    FailsClosed policy request.resource kind position rule (evaluate kind chain request).outcome
        (maskEvents (evaluate kind chain request).events) ∧
      (evaluate kind chain request).calls.getLast? = some ⟨kind, position, .mapper⟩ := by
  obtain ⟨hclosed, hevents⟩ := failsClosed_apply policy request.resource kind position rule
  rw [evaluate_of_decides h hd, conclude_toMapper kind request position ha hm]
  refine ⟨?_, List.getLast?_concat⟩
  rw [Evaluation.outcome_after, Evaluation.events_after, maskEvents_append, maskEvents_append,
    maskEvents_opening, hevents]
  exact hclosed

/-- A chain that hands over denies, and no mapper has logged anything. -/
theorem Chain.HandsOver.evaluate (kind : ChainKind) (h : HandsOver request (chain.getD [])) :
    ∃ response, (Chain.evaluate kind chain request).outcome = .ok response ∧
      response.effect = .deny ∧ maskEvents (Chain.evaluate kind chain request).events = [] := by
  rcases h with h | ⟨position, rule, h, hd, hdeny⟩
  · rw [evaluate_of_passes h]
    exact ⟨_, rfl, rfl, maskEvents_opening kind request _⟩
  -- A rule that denies has no say in what is handed out: its mapper does not run.
  · rw [evaluate_of_decides h hd, conclude, hdeny]
    refine ⟨_, rfl, rfl, ?_⟩
    rw [Evaluation.events_after, maskEvents_append, maskEvents_append, maskEvents_opening]
    rfl

end Chain

/-! ## Both chains -/

/-- **Masking fails closed.** When the rule that decides allows through a masking policy, the
answer is the resource that all its masks left, or the failure of that rule for the first mask that
failed. The events of masks are those of the masks that succeeded, no callback runs after the
mapper, and none of the default chain if the rule stands in the chain of the request. Two policies
one after the other do what they do one by one. -/
theorem masking_fails_closed :
    (∀ (authorizer : Authorizer) (chain : Option (List Rule)) (request : Request)
      (kind : ChainKind) (position : Nat) (rule : Rule) (policy : Policy),
      authorizer.DecidedBy chain request kind position rule → rule.effect = .allow →
      rule.mapper = some policy.toMapper →
      FailsClosed policy request.resource kind position rule
          (authorizer.enforce chain request).outcome
          (maskEvents (authorizer.enforce chain request).events) ∧
        (authorizer.enforce chain request).calls.getLast? = some ⟨kind, position, .mapper⟩ ∧
        (kind = .request →
          ∀ call ∈ (authorizer.enforce chain request).calls, call.chain = .request)) ∧
    ∀ (first second : Policy) (resource : Value),
      Policy.apply (first ++ second) resource =
        match (Policy.apply first resource).result with
        | .error _ => Policy.apply first resource
        | .ok masked =>
            ⟨(Policy.apply second masked).result,
              (Policy.apply first resource).events ++ (Policy.apply second masked).events⟩ := by
  refine ⟨?_, Policy.apply_append_eq⟩
  intro authorizer chain request kind position rule policy hdecided ha hm
  cases kind with
  | request =>
    obtain ⟨hfirst, hd⟩ := hdecided
    obtain ⟨hclosed, hlast⟩ := Chain.evaluate_failsClosed .request chain hfirst hd ha hm
    have hwithin := (Chain.within_evaluate .request chain request).calls
    -- Both ends of the request's chain are the end of the whole: an allow, or a failure.
    cases ho : (Chain.evaluate .request chain request).outcome with
    | error error =>
      rw [Authorizer.enforce_of_error ho]
      exact ⟨hclosed, hlast, fun _ => hwithin⟩
    | ok response =>
      have hallow : response.effect = .allow := by
        rw [ho] at hclosed
        cases hclosed with
        | masked hrun => rfl
      rw [Authorizer.enforce_of_allow ho hallow, Authorizer.outcome_conclude,
        Authorizer.calls_conclude, maskEvents_conclude]
      exact ⟨hclosed, hlast, fun _ => hwithin⟩
  | default =>
    obtain ⟨hover, hfirst, hd⟩ := hdecided
    obtain ⟨response, ho, hdeny, hnone⟩ := hover.evaluate .request
    obtain ⟨hclosed, hlast⟩ := Chain.evaluate_failsClosed .default
      (some authorizer.defaultChain) hfirst hd ha hm
    rw [Authorizer.enforce_of_deny ho hdeny, Evaluation.outcome_after, Evaluation.calls_after,
      Evaluation.events_after, Authorizer.outcome_conclude, Authorizer.calls_conclude,
      maskEvents_append, maskEvents_conclude, hnone, List.nil_append, List.getLast?_append, hlast]
    exact ⟨hclosed, rfl, fun h => absurd h (by simp)⟩

/-- A letter that cannot be read in part: its date is shortened, and whether it is sealed has no
text to be hashed. -/
def sealedLetter : Value := .object [("date", .text "1 May"), ("sealed", .bool true)]

def sealedPolicy : Policy := [⟨"date", .truncate 1⟩, ⟨"sealed", .hash⟩]

def sealedRule : Rule := { effect := .allow, mapper := some sealedPolicy.toMapper }

/-- The rule behind the one that fails would hand out the letter as it is. -/
def letterbox : Authorizer := { defaultChain := [sealedRule, .always .allow] }

theorem letterbox_fails_closed :
    letterbox.DecidedBy none (.ofParts .null sealedLetter) .default 0 sealedRule ∧
      FailsClosed sealedPolicy sealedLetter .default 0 sealedRule
        (letterbox.enforce none (.ofParts .null sealedLetter)).outcome
        (maskEvents (letterbox.enforce none (.ofParts .null sealedLetter)).events) ∧
      (letterbox.enforce none (.ofParts .null sealedLetter)).outcome =
        .error (.mapperFailed "#0" .default (.masking (.unsupported "sealed" .boolean .hash))) := by
  have hdecides : sealedRule.Decides (.ofParts .null sealedLetter) :=
    ⟨fun _ h => absurd h (by simp [sealedRule]), fun _ h => absurd h (by simp [sealedRule])⟩
  have hdecided : letterbox.DecidedBy none (.ofParts .null sealedLetter) .default 0 sealedRule :=
    ⟨.inl fun _ h => absurd h List.not_mem_nil,
      ⟨rfl, fun h => h.1 hdecides, fun _ h => absurd h List.not_mem_nil⟩, hdecides⟩
  obtain ⟨hclosed, _⟩ := masking_fails_closed.1 letterbox none (.ofParts .null sealedLetter)
    .default 0 sealedRule sealedPolicy hdecided rfl rfl
  exact ⟨hdecided, hclosed, rfl⟩

end Clearance
