import Clearance.Proofs.Deciding.FirstMatch

/-!
# Chains one after the other

What a chain answers depends on the first rule that settles the request and on where it stands, and
on nothing else (`outcome_of_firstAt`). So a chain in front of another answers for both if a rule
of it settles the request, and if none does **the second chain answers as it would alone, its
rules counted on from where the first ends** (`Moved`). The count shows in the position that is
reported and in the label of a rule without a name, and nowhere else.

The same goes for rules in between: behind the rule that settles the request anything may stand,
and rules that leave the request alone move the others up and do no more (`Padded`).
-/

set_option autoImplicit false

namespace Clearance

/-- The rule does not apply to the request, or its matcher says no. -/
def Rule.Idle (rule : Rule) (request : Request) : Prop :=
  (∃ filter ∈ rule.filter, filter request.types = false) ∨
    ∃ matcher ∈ rule.matcher, matcher request = .ok false

namespace Rule

variable {rule : Rule} {request : Request}

theorem Idle.passes (h : rule.Idle request) : rule.Passes request := by
  rw [passes_iff]
  intro happ
  rcases h with ⟨filter, hfilter, hno⟩ | ⟨matcher, hmatcher, hno⟩
  · have hyes := applies_iff.mp happ filter hfilter
    exact absurd (hno.symm.trans hyes) (by simp)
  · have hsome : rule.matcher = some matcher := hmatcher
    rw [fires, hsome]
    exact hno

end Rule

namespace Chain

/-- The answer of a chain, without what happens on the way. -/
def outcome (kind : ChainKind) (request : Request) (rules : List Rule) :
    Except EvaluationError Response :=
  (evaluate kind (some rules) request).outcome

/-- Some rule settled the request: it fired, or a callback of it failed. -/
def Settled : Except EvaluationError Response → Prop
  | .error _ => True
  | .ok response => response.matched.isSome = true

/-- An answer of a chain and the same answer where the rules stand elsewhere: both are about the
first rule of the chain that settles the request, but report it at different positions, and call it
by its position if it has no name. -/
inductive Moved (request : Request) (rules : List Rule) (move : Nat → Nat) :
    Except EvaluationError Response → Except EvaluationError Response → Prop where
  | silent (h : ∀ rule ∈ rules, rule.Passes request) :
      Moved request rules move (.ok .defaultDeny) (.ok .defaultDeny)
  | fired {position : Nat} {rule : Rule} (h : FirstAt request rules position rule)
      (effect : Effect) (granted : Option Granted) :
      Moved request rules move (.ok ⟨effect, some ⟨position, rule⟩, granted⟩)
        (.ok ⟨effect, some ⟨move position, rule⟩, granted⟩)
  | matcherFailed {position : Nat} {rule : Rule} (h : FirstAt request rules position rule)
      (kind : ChainKind) (cause : Fault) :
      Moved request rules move (.error (.matcherFailed (rule.label position) kind cause))
        (.error (.matcherFailed (rule.label (move position)) kind cause))
  | mapperFailed {position : Nat} {rule : Rule} (h : FirstAt request rules position rule)
      (kind : ChainKind) (cause : Fault) :
      Moved request rules move (.error (.mapperFailed (rule.label position) kind cause))
        (.error (.mapperFailed (rule.label (move position)) kind cause))

/-- The second chain is the first with rules put in anywhere that leave the request alone. -/
inductive Padded (request : Request) : List Rule → List Rule → Prop where
  | nil : Padded request [] []
  | keep {rules longer : List Rule} (rule : Rule) (h : Padded request rules longer) :
      Padded request (rule :: rules) (rule :: longer)
  | put {rules longer : List Rule} {rule : Rule} (hidle : rule.Idle request)
      (h : Padded request rules longer) : Padded request rules (rule :: longer)

variable {kind : ChainKind} {request : Request} {rules longer first second : List Rule}
  {move : Nat → Nat} {position : Nat} {rule : Rule}
  {answer answer' : Except EvaluationError Response} {calls : List Call}

/-! ## The rule that settles the request -/

theorem FirstAt.position_le {position' : Nat} {rule' : Rule}
    (h : FirstAt request rules position rule) (h' : FirstAt request rules position' rule') :
    position ≤ position' := by
  refine Nat.le_of_not_lt ?_
  intro hlt
  refine h'.stops (h.passed rule' (List.mem_of_getElem? (i := position') ?_))
  rw [List.getElem?_take_of_lt hlt, h'.found]

theorem FirstAt.unique {position' : Nat} {rule' : Rule}
    (h : FirstAt request rules position rule) (h' : FirstAt request rules position' rule') :
    position' = position ∧ rule' = rule := by
  obtain rfl := Nat.le_antisymm (h.position_le h') (h'.position_le h)
  exact ⟨rfl, Option.some.inj (h'.found.symm.trans h.found)⟩

theorem FirstMatch.outcome_eq (h : FirstMatch kind request rules answer calls) :
    outcome kind request rules = answer := by
  have hmatch : FirstMatch kind request ((some rules).getD []) answer calls := h
  exact hmatch.eq_evaluate.1.symm

theorem settled_iff :
    Settled (outcome kind request rules) ↔
      ∃ position rule, FirstAt request rules position rule := by
  obtain ⟨answer, calls, h⟩ := exists_firstMatch kind request rules
  rw [h.outcome_eq]
  cases h with
  | silent hpasses =>
    constructor
    · intro h
      exact absurd h (by simp [Settled])
    · rintro ⟨position, rule, h⟩
      exact absurd (hpasses rule (List.mem_of_getElem? h.found)) h.stops
  | failed h _ => exact ⟨fun _ => ⟨_, _, h⟩, fun _ => trivial⟩
  | denied h _ _ => exact ⟨fun _ => ⟨_, _, h⟩, fun _ => rfl⟩
  | allowed h _ _ _ => exact ⟨fun _ => ⟨_, _, h⟩, fun _ => rfl⟩
  | mapped h _ _ _ _ => exact ⟨fun _ => ⟨_, _, h⟩, fun _ => rfl⟩
  | unmapped h _ _ _ _ => exact ⟨fun _ => ⟨_, _, h⟩, fun _ => trivial⟩

theorem not_settled_iff :
    ¬ Settled (outcome kind request rules) ↔ ∀ rule ∈ rules, rule.Passes request := by
  rw [settled_iff]
  constructor
  · intro h
    exact (passes_or_firstAt request rules).resolve_right h
  · rintro hpasses ⟨position, rule, h⟩
    exact h.stops (hpasses rule (List.mem_of_getElem? h.found))

/-- **Chains that the same rule settles answer the same**, up to where it stands. The law of the
first match names the rule, and holds of the other chain by the same clause. -/
theorem moved_outcome (kind : ChainKind)
    (hpasses : (∀ rule ∈ rules, rule.Passes request) → ∀ rule ∈ longer, rule.Passes request)
    (hfirst : ∀ position rule, FirstAt request rules position rule →
      FirstAt request longer (move position) rule) :
    Moved request rules move (outcome kind request rules) (outcome kind request longer) := by
  obtain ⟨answer, calls, h⟩ := exists_firstMatch kind request rules
  rw [h.outcome_eq]
  cases h with
  | silent h =>
    rw [(FirstMatch.silent (hpasses h)).outcome_eq]
    exact .silent h
  | failed h hf =>
    rw [(FirstMatch.failed (hfirst _ _ h) hf).outcome_eq]
    exact .matcherFailed h kind _
  | denied h hd he =>
    rw [(FirstMatch.denied (hfirst _ _ h) hd he).outcome_eq]
    exact .fired h .deny none
  | allowed h hd he hm =>
    rw [(FirstMatch.allowed (hfirst _ _ h) hd he hm).outcome_eq]
    exact .fired h .allow _
  | mapped h hd he hm hr =>
    rw [(FirstMatch.mapped (hfirst _ _ h) hd he hm hr).outcome_eq]
    exact .fired h .allow _
  | unmapped h hd he hm hr =>
    rw [(FirstMatch.unmapped (hfirst _ _ h) hd he hm hr).outcome_eq]
    exact .mapperFailed h kind _

theorem Moved.eq (h : Moved request rules (fun position => position) answer answer') :
    answer' = answer := by
  cases h with
  | silent _ => rfl
  | fired _ _ _ => rfl
  | matcherFailed _ _ _ => rfl
  | mapperFailed _ _ _ => rfl

/-- A chain answers as another one if the same rule settles the request at the same position. -/
theorem outcome_eq_of_firstAt (kind : ChainKind) (h : FirstAt request rules position rule)
    (h' : FirstAt request longer position rule) :
    outcome kind request longer = outcome kind request rules := by
  refine (moved_outcome kind ?_ ?_).eq
  · intro hpasses
    exact absurd (hpasses rule (List.mem_of_getElem? h.found)) h.stops
  · intro other otherRule hother
    obtain ⟨rfl, rfl⟩ := h.unique hother
    exact h'

/-! ## One chain after another -/

/-- What stands behind the rule that settles the request may be anything. -/
theorem FirstAt.take_append (h : FirstAt request rules position rule) (later : List Rule) :
    FirstAt request (rules.take (position + 1) ++ later) position rule := by
  have hlen := h.split.2
  rw [h.take_succ, List.append_assoc]
  refine ⟨?_, h.stops, ?_⟩
  · rw [List.getElem?_append_right (Nat.le_of_eq hlen), hlen, Nat.sub_self]
    rfl
  · rw [List.take_left' hlen]
    exact h.passed

theorem FirstAt.append_right (h : FirstAt request first position rule) (second : List Rule) :
    FirstAt request (first ++ second) position rule := by
  have h' := h.take_append (first.drop (position + 1) ++ second)
  rwa [← List.append_assoc, List.take_append_drop] at h'

theorem FirstAt.append_left (h : FirstAt request second position rule)
    (hpasses : ∀ rule ∈ first, rule.Passes request) :
    FirstAt request (first ++ second) (first.length + position) rule := by
  refine ⟨?_, h.stops, ?_⟩
  · rw [List.getElem?_append_right (Nat.le_add_right _ _), Nat.add_sub_cancel_left, h.found]
  · intro earlier hmem
    rw [List.take_length_add_append, List.mem_append] at hmem
    rcases hmem with hmem | hmem
    · exact hpasses earlier hmem
    · exact h.passed earlier hmem

/-! ## Rules that leave the request alone -/

theorem Padded.passes (h : Padded request rules longer)
    (hpasses : ∀ rule ∈ rules, rule.Passes request) : ∀ rule ∈ longer, rule.Passes request := by
  induction h with
  | nil => exact hpasses
  | keep rule _ ih =>
    rw [List.forall_mem_cons] at hpasses ⊢
    exact ⟨hpasses.1, ih hpasses.2⟩
  | put hidle _ ih =>
    rw [List.forall_mem_cons]
    exact ⟨hidle.passes, ih hpasses⟩

/-- Every rule of the chain has its place in the longer one, and the first that settles the request
stays the first. -/
theorem Padded.exists_move (h : Padded request rules longer) :
    ∃ move : Nat → Nat, (∀ position rule, rules[position]? = some rule →
        longer[move position]? = some rule) ∧
      ∀ position rule, FirstAt request rules position rule →
        FirstAt request longer (move position) rule := by
  induction h with
  | nil => exact ⟨id, fun _ _ h => h, fun _ _ h => h⟩
  | keep rule _ ih =>
    obtain ⟨move, hplace, hfirst⟩ := ih
    refine ⟨fun | 0 => 0 | position + 1 => move position + 1, ?_, ?_⟩
    · intro position other hother
      cases position with
      | zero => exact hother
      | succ position => exact hplace position other hother
    · intro position other hother
      cases position with
      | zero => exact ⟨hother.found, hother.stops, fun _ h => absurd h (by simp)⟩
      | succ position =>
        have hpassed := hother.passed
        rw [List.take_succ_cons, List.forall_mem_cons] at hpassed
        exact (hfirst position other ⟨hother.found, hother.stops, hpassed.2⟩).cons hpassed.1
  | put hidle _ ih =>
    obtain ⟨move, hplace, hfirst⟩ := ih
    exact ⟨fun position => move position + 1, hplace, fun position rule h =>
      (hfirst position rule h).cons hidle.passes⟩

/-! ## Chains compose -/

/-- **Chains compose.** If the first of two chains settles the request, with a response or with an
error, then both together answer as it does alone. If it does not, they answer as the second does
alone, with the position that is reported, and the label of a rule without a name, counted on from
the length of the first. So what stands behind the rule that settles the request is of no account,
and rules that do not apply or do not fire can be put in anywhere: the request is settled by the
same rule with the same effect, resource or failure, at the place that this rule then has. -/
theorem chains_compose (kind : ChainKind) (request : Request)
    (first second : List Rule) :
    (Settled (outcome kind request first) →
      outcome kind request (first ++ second) = outcome kind request first) ∧
    (¬ Settled (outcome kind request first) →
      Moved request second (first.length + ·) (outcome kind request second)
        (outcome kind request (first ++ second))) ∧
    (∀ position rule, FirstAt request first position rule → ∀ later,
      outcome kind request (first.take (position + 1) ++ later) = outcome kind request first) ∧
    ∀ longer, Padded request first longer →
      ∃ move : Nat → Nat, (∀ position rule, first[position]? = some rule →
          longer[move position]? = some rule) ∧
        Moved request first move (outcome kind request first) (outcome kind request longer) := by
  refine ⟨?settled, ?silent, ?later, ?padded⟩
  case settled =>
    intro hsettled
    obtain ⟨position, rule, h⟩ := settled_iff.mp hsettled
    exact outcome_eq_of_firstAt kind h (h.append_right second)
  case silent =>
    intro hsilent
    have hpasses := not_settled_iff.mp hsilent
    refine moved_outcome kind ?_ fun position rule h => h.append_left hpasses
    intro hsecond rule hmem
    exact (List.mem_append.mp hmem).elim (hpasses rule) (hsecond rule)
  case later =>
    intro position rule h later
    exact outcome_eq_of_firstAt kind h (h.take_append later)
  case padded =>
    intro longer h
    obtain ⟨move, hplace, hfirst⟩ := h.exists_move
    exact ⟨move, hplace, moved_outcome kind h.passes hfirst⟩

/-- A rule without a name that never fires. -/
def silentRule : Rule := { effect := .allow, matcher := some fun _ => .ok false }

/-- A rule without a name that always fails. -/
def brokenRule : Rule := { effect := .allow, matcher := some fun _ => .error (.failed "down") }

def reading : Request := .ofParts (.text "read") .null

/-- A chain that fails at its second rule, behind others, before others and with rules put in. -/
theorem brokenRule_composes :
    outcome .request reading ([silentRule, brokenRule] ++ [.always .allow]) =
        outcome .request reading [silentRule, brokenRule] ∧
      (Moved reading [silentRule, brokenRule] (1 + ·)
        (outcome .request reading [silentRule, brokenRule])
        (outcome .request reading ([silentRule] ++ [silentRule, brokenRule])) ∧
        outcome .request reading [silentRule, brokenRule] =
          .error (.matcherFailed "#1" .request (.failed "down")) ∧
        outcome .request reading ([silentRule] ++ [silentRule, brokenRule]) =
          .error (.matcherFailed "#2" .request (.failed "down"))) ∧
      outcome .request reading ([brokenRule] ++ [.always .deny]) =
        outcome .request reading [brokenRule, .always .allow] ∧
      ∃ move, (∀ position rule, [brokenRule][position]? = some rule →
          [silentRule, brokenRule][move position]? = some rule) ∧
        Moved reading [brokenRule] move (outcome .request reading [brokenRule])
          (outcome .request reading [silentRule, brokenRule]) := by
  have hsilent : silentRule.Idle reading := .inr ⟨_, rfl, rfl⟩
  have hbroken : brokenRule.Fails reading (.failed "down") := Rule.fails_iff.mpr ⟨rfl, rfl⟩
  have hstops : ¬ brokenRule.Passes reading := fun h => h.2 _ hbroken
  have hnone : ¬ Settled (outcome .request reading [silentRule]) :=
    not_settled_iff.mpr (by simpa using hsilent.passes)
  refine ⟨?_, ⟨?_, rfl, rfl⟩, ?_, ?_⟩
  · exact (chains_compose .request reading [silentRule, brokenRule] _).1 trivial
  · exact (chains_compose .request reading [silentRule] _).2.1 hnone
  · exact (chains_compose .request reading [brokenRule, .always .allow] []).2.2.1 0
      brokenRule ⟨rfl, hstops, fun _ h => absurd h (by simp)⟩ [.always .deny]
  · exact (chains_compose .request reading [brokenRule] []).2.2.2 _
      (.put hsilent (.keep brokenRule .nil))

end Chain
end Clearance
