import Clearance.Evaluation

/-!
# The first match wins

`Chain.evaluate` filters a whole chain into a list of placed rules and then asks these until one
fires or fails. What it is meant to compute is said without either pass: look at the rules in the
order of the chain, and **the first one that decides or fails settles the request, whatever comes
after it**. `FirstMatch` is that law, one constructor for each way a request can end, with the
callbacks that run on the way; `firstMatch_iff` says that evaluation and the law are the same.

The work is to keep the positions straight. A rule is asked at its place in the filtered list and
reported at its place in the chain, so everything here speaks of `place rules` and its beginnings
(`applicable_of_firstAt`), and a beginning in which no rule settles the request adds its matcher
runs and nothing else (`ask_append`).
-/

set_option autoImplicit false

namespace Clearance

/-! ## What a rule does to a request -/

namespace Rule

variable {rule : Rule} {request : Request} {cause : Fault}

/-- The rule applies and fires. A filter or a matcher that is missing lets everything pass. -/
def Decides (rule : Rule) (request : Request) : Prop :=
  (∀ filter ∈ rule.filter, filter request.types = true) ∧
    ∀ matcher ∈ rule.matcher, matcher request = .ok true

/-- The rule applies and its matcher fails. -/
def Fails (rule : Rule) (request : Request) (cause : Fault) : Prop :=
  (∀ filter ∈ rule.filter, filter request.types = true) ∧
    ∃ matcher ∈ rule.matcher, matcher request = .error cause

/-- The rule leaves the request to those after it. -/
def Passes (rule : Rule) (request : Request) : Prop :=
  ¬ rule.Decides request ∧ ∀ cause, ¬ rule.Fails request cause

theorem applies_iff :
    rule.applies request.types = true ↔ ∀ filter ∈ rule.filter, filter request.types = true := by
  unfold applies
  cases rule.filter with
  | none => simp
  | some filter => simp

theorem decides_iff :
    rule.Decides request ↔ rule.applies request.types = true ∧ rule.fires request = .ok true := by
  rw [Decides, applies_iff]
  refine and_congr Iff.rfl ?_
  unfold fires
  cases rule.matcher with
  | none => simp
  | some matcher => simp

theorem fails_iff :
    rule.Fails request cause ↔
      rule.applies request.types = true ∧ rule.fires request = .error cause := by
  rw [Fails, applies_iff]
  refine and_congr Iff.rfl ?_
  unfold fires
  cases rule.matcher with
  | none => simp
  | some matcher => simp

theorem passes_iff :
    rule.Passes request ↔
      (rule.applies request.types = true → rule.fires request = .ok false) := by
  simp only [Passes, decides_iff, fails_iff]
  cases rule.applies request.types with
  | false => simp
  | true =>
    cases hf : rule.fires request with
    | error cause => simp
    | ok fired => cases fired <;> simp

theorem decides_or_fails (h : ¬ rule.Passes request) :
    rule.Decides request ∨ ∃ cause, rule.Fails request cause := by
  by_cases hd : rule.Decides request
  · exact Or.inl hd
  · refine Or.inr (Classical.byContradiction ?_)
    intro hn
    refine h ⟨hd, ?_⟩
    intro cause hf
    exact hn ⟨cause, hf⟩

theorem applies_of_not_passes (h : ¬ rule.Passes request) :
    rule.applies request.types = true := by
  rcases decides_or_fails h with hd | ⟨cause, hf⟩
  · exact (decides_iff.mp hd).1
  · exact (fails_iff.mp hf).1

end Rule

/-! ## The law -/

namespace Chain

/-- The runs of one callback by those rules of a chain that are asked for it, in chain order. -/
def runs (kind : ChainKind) (callback : Callback) (asked : Rule → Bool) (rules : List Rule) :
    List Call :=
  ((place rules).filter fun placed => asked placed.rule).map fun placed =>
    ⟨kind, placed.position, callback⟩

def filterRuns (kind : ChainKind) (rules : List Rule) : List Call :=
  runs kind .filter (fun rule => rule.filter.isSome) rules

/-- Of these rules the matchers run, wherever the rule applies. -/
def matcherRuns (kind : ChainKind) (request : Request) (rules : List Rule) : List Call :=
  runs kind .matcher (fun rule => rule.applies request.types && rule.matcher.isSome) rules

/-- The rule at a position is the first that does not pass. -/
structure FirstAt (request : Request) (rules : List Rule) (position : Nat) (rule : Rule) :
    Prop where
  found : rules[position]? = some rule
  stops : ¬ rule.Passes request
  passed : ∀ earlier ∈ rules.take position, earlier.Passes request

/-- **First match wins**: the outcome of a request and the callbacks that run for it. A chain in
which every rule passes denies. Otherwise the first rule that does not pass settles the request,
and no matcher after its own is run. -/
inductive FirstMatch (kind : ChainKind) (request : Request) (rules : List Rule) :
    Except EvaluationError Response → List Call → Prop where
  | silent (h : ∀ rule ∈ rules, rule.Passes request) :
      FirstMatch kind request rules (.ok ⟨.deny, none, none⟩)
        (filterRuns kind rules ++ matcherRuns kind request rules)
  | failed {position : Nat} {rule : Rule} {cause : Fault}
      (h : FirstAt request rules position rule) (hf : rule.Fails request cause) :
      FirstMatch kind request rules (.error (.matcherFailed (rule.label position) kind cause))
        (filterRuns kind rules ++ matcherRuns kind request (rules.take (position + 1)))
  | denied {position : Nat} {rule : Rule} (h : FirstAt request rules position rule)
      (hd : rule.Decides request) (he : rule.effect = .deny) :
      FirstMatch kind request rules (.ok ⟨.deny, some ⟨position, rule⟩, none⟩)
        (filterRuns kind rules ++ matcherRuns kind request (rules.take (position + 1)))
  | allowed {position : Nat} {rule : Rule} (h : FirstAt request rules position rule)
      (hd : rule.Decides request) (he : rule.effect = .allow) (hm : rule.mapper = none) :
      FirstMatch kind request rules
        (.ok ⟨.allow, some ⟨position, rule⟩, some (.unchanged request.resource)⟩)
        (filterRuns kind rules ++ matcherRuns kind request (rules.take (position + 1)))
  | mapped {position : Nat} {rule : Rule} {mapper : Mapper} {resource : Value}
      (h : FirstAt request rules position rule) (hd : rule.Decides request)
      (he : rule.effect = .allow) (hm : rule.mapper = some mapper)
      (hr : (mapper request.resource).result = .ok resource) :
      FirstMatch kind request rules
        (.ok ⟨.allow, some ⟨position, rule⟩, some (.mapped resource)⟩)
        (filterRuns kind rules ++ matcherRuns kind request (rules.take (position + 1))
          ++ [⟨kind, position, .mapper⟩])
  | unmapped {position : Nat} {rule : Rule} {mapper : Mapper} {cause : Fault}
      (h : FirstAt request rules position rule) (hd : rule.Decides request)
      (he : rule.effect = .allow) (hm : rule.mapper = some mapper)
      (hr : (mapper request.resource).result = .error cause) :
      FirstMatch kind request rules (.error (.mapperFailed (rule.label position) kind cause))
        (filterRuns kind rules ++ matcherRuns kind request (rules.take (position + 1))
          ++ [⟨kind, position, .mapper⟩])

/-! ## The rules that are asked -/

def applicable (request : Request) (rules : List Rule) : List Placed :=
  (place rules).filter fun placed => placed.rule.applies request.types

def opening (kind : ChainKind) (request : Request) : List Rule → List Event
  | [] => [.emptyChain kind]
  | rules => [.evaluating kind rules.length (applicable request rules).length request.types]

variable {kind : ChainKind} {request : Request} {rules : List Rule} {position : Nat}
  {rule : Rule}

theorem flatMap_callOf (kind : ChainKind) (callback : Callback) (asked : Rule → Bool)
    (placed : List Placed) :
    (placed.flatMap fun p => callOf kind p callback (asked p.rule))
      = (placed.filter fun p => asked p.rule).map fun p => ⟨kind, p.position, callback⟩ := by
  induction placed with
  | nil => rfl
  | cons p rest ih =>
    rw [List.flatMap_cons, ih]
    cases ha : asked p.rule with
    | false => simp [callOf, ha]
    | true => simp [callOf, ha]

theorem flatMap_matcher_applicable :
    ((applicable request rules).flatMap fun p => callOf kind p .matcher p.rule.matcher.isSome)
      = matcherRuns kind request rules := by
  rw [flatMap_callOf kind .matcher fun rule => rule.matcher.isSome, applicable, List.filter_filter]
  simp only [matcherRuns, runs, Bool.and_comm]

/-- Evaluation is one pass over the rules that apply, after the filters and the opening event. A
chain without rules is no exception. -/
theorem evaluate_eq (kind : ChainKind) (chain : Option (List Rule)) (request : Request) :
    evaluate kind chain request =
      (ask kind request (applicable request (chain.getD []))).after
        (filterRuns kind (chain.getD [])) (opening kind request (chain.getD [])) := by
  unfold evaluate
  cases chain.getD [] with
  | nil => rfl
  | cons rule rest =>
    dsimp only
    rw [flatMap_callOf kind .filter fun rule => rule.filter.isSome]
    rfl

theorem place_append (before after : List Rule) :
    place (before ++ after) =
      place before ++
        (after.zipIdx before.length).map fun (rule, position) => ⟨position, rule⟩ := by
  simp [place, List.zipIdx_append]

theorem matcherRuns_append (before : List Rule) (rule : Rule) :
    matcherRuns kind request (before ++ [rule]) =
      matcherRuns kind request before ++
        if rule.applies request.types && rule.matcher.isSome
          then [⟨kind, before.length, .matcher⟩] else [] := by
  simp only [matcherRuns, runs, place_append, List.zipIdx_cons, List.zipIdx_nil, List.map_cons,
    List.map_nil, List.filter_append, List.map_append]
  cases h : rule.applies request.types && rule.matcher.isSome with
  | false => simp [h]
  | true => simp [h]

theorem FirstAt.split (h : FirstAt request rules position rule) :
    rules = rules.take position ++ rule :: rules.drop (position + 1) ∧
      (rules.take position).length = position := by
  obtain ⟨hlt, hget⟩ := List.getElem?_eq_some_iff.mp h.found
  refine ⟨?_, List.length_take_of_le (Nat.le_of_lt hlt)⟩
  rw [← hget, ← List.drop_eq_getElem_cons hlt, List.take_append_drop]

theorem FirstAt.take_succ (h : FirstAt request rules position rule) :
    rules.take (position + 1) = rules.take position ++ [rule] := by
  rw [List.take_add_one, h.found, Option.toList_some]

/-- The rules that apply are those before the first that does not pass, then that rule at its
position in the whole chain, then others. -/
theorem applicable_of_firstAt (h : FirstAt request rules position rule) :
    ∃ later, applicable request rules =
      applicable request (rules.take position) ++ ⟨position, rule⟩ :: later := by
  obtain ⟨hsplit, hlen⟩ := h.split
  have happ : rule.applies request.types = true := Rule.applies_of_not_passes h.stops
  -- The rule is placed behind `position` others, so filtering leaves it at that position.
  have hplace := congrArg (List.filter fun p => p.rule.applies request.types)
    (congrArg place hsplit)
  rw [place_append, hlen, List.zipIdx_cons, List.map_cons, List.filter_append] at hplace
  simp only [List.filter_cons, happ, if_true] at hplace
  exact ⟨_, hplace⟩

theorem fires_of_mem_applicable (h : ∀ rule ∈ rules, rule.Passes request) :
    ∀ p ∈ applicable request rules, p.rule.fires request = .ok false := by
  intro p hp
  obtain ⟨hmem, happ⟩ := List.mem_filter.mp hp
  obtain ⟨⟨rule, position⟩, hz, rfl⟩ := List.mem_map.mp hmem
  exact Rule.passes_iff.mp (h rule (List.fst_mem_of_mem_zipIdx hz)) happ

/-! ## Asking -/

/-- Rules that do not fire add the runs of their matchers and nothing else. -/
theorem ask_append (kind : ChainKind) {passed : List Placed} (rest : List Placed)
    (h : ∀ p ∈ passed, p.rule.fires request = .ok false) :
    ask kind request (passed ++ rest) =
      (ask kind request rest).after
        (passed.flatMap fun p => callOf kind p .matcher p.rule.matcher.isSome) [] := by
  induction passed with
  | nil => rfl
  | cons p passed ih =>
    have hp := h p List.mem_cons_self
    have hrest := ih fun q hq => h q (List.mem_cons_of_mem p hq)
    rw [List.cons_append, ask, hp, hrest]
    simp only [Evaluation.after_after, List.flatMap_cons, List.append_nil]

/-- The events and calls up to the rule that settles the request are those of the beginning; what
that rule itself does is left to `ask`. -/
theorem evaluate_of_firstAt (kind : ChainKind) {chain : Option (List Rule)}
    (h : FirstAt request (chain.getD []) position rule) :
    ∃ later, evaluate kind chain request =
      (ask kind request (⟨position, rule⟩ :: later)).after
        (filterRuns kind (chain.getD [])
          ++ matcherRuns kind request ((chain.getD []).take position))
        (opening kind request (chain.getD [])) := by
  obtain ⟨later, happ⟩ := applicable_of_firstAt h
  refine ⟨later, ?_⟩
  rw [evaluate_eq, happ, ask_append kind _ (fires_of_mem_applicable h.passed),
    flatMap_matcher_applicable, Evaluation.after_after, List.append_nil]

theorem matcherRuns_take_succ (h : FirstAt request rules position rule) :
    matcherRuns kind request (rules.take (position + 1)) =
      matcherRuns kind request (rules.take position)
        ++ callOf kind ⟨position, rule⟩ .matcher rule.matcher.isSome := by
  rw [h.take_succ, matcherRuns_append, h.split.2, Rule.applies_of_not_passes h.stops]
  rfl

theorem evaluate_of_passes {chain : Option (List Rule)}
    (h : ∀ rule ∈ chain.getD [], rule.Passes request) :
    evaluate kind chain request =
      ⟨.ok .defaultDeny,
        filterRuns kind (chain.getD []) ++ matcherRuns kind request (chain.getD []),
        opening kind request (chain.getD [])⟩ := by
  have hask := ask_append kind [] (fires_of_mem_applicable h)
  rw [List.append_nil, flatMap_matcher_applicable] at hask
  rw [evaluate_eq, hask]
  simp [Evaluation.after, ask, Evaluation.pure]

theorem evaluate_of_fails {chain : Option (List Rule)} {cause : Fault}
    (h : FirstAt request (chain.getD []) position rule) (hf : rule.Fails request cause) :
    evaluate kind chain request =
      ⟨.error (.matcherFailed (rule.label position) kind cause),
        filterRuns kind (chain.getD [])
          ++ matcherRuns kind request ((chain.getD []).take (position + 1)),
        opening kind request (chain.getD [])⟩ := by
  obtain ⟨later, heval⟩ := evaluate_of_firstAt kind h
  rw [heval, ask, (Rule.fails_iff.mp hf).2, matcherRuns_take_succ h]
  simp [Evaluation.after, Placed.label]

theorem evaluate_of_decides {chain : Option (List Rule)}
    (h : FirstAt request (chain.getD []) position rule) (hd : rule.Decides request) :
    evaluate kind chain request =
      (conclude kind request ⟨position, rule⟩).after
        (filterRuns kind (chain.getD [])
          ++ matcherRuns kind request ((chain.getD []).take (position + 1)))
        (opening kind request (chain.getD [])
          ++ [.fired kind (rule.label position) rule.effect]) := by
  obtain ⟨later, heval⟩ := evaluate_of_firstAt kind h
  rw [heval, ask, (Rule.decides_iff.mp hd).2, matcherRuns_take_succ h]
  simp [Evaluation.after_after, Placed.label]

/-! ## Evaluation is first match -/

theorem FirstAt.cons {first : Rule} (h : FirstAt request rules position rule)
    (hp : first.Passes request) : FirstAt request (first :: rules) (position + 1) rule where
  found := by rw [List.getElem?_cons_succ, h.found]
  stops := h.stops
  passed := by
    intro earlier hmem
    rcases List.mem_cons.mp (by simpa using hmem) with rfl | hmem
    · exact hp
    · exact h.passed earlier hmem

theorem passes_or_firstAt (request : Request) (rules : List Rule) :
    (∀ rule ∈ rules, rule.Passes request) ∨
      ∃ position rule, FirstAt request rules position rule := by
  induction rules with
  | nil => exact Or.inl fun _ h => absurd h List.not_mem_nil
  | cons first rest ih =>
    by_cases hp : first.Passes request
    · rcases ih with hall | ⟨position, rule, h⟩
      · refine Or.inl ?_
        intro rule hmem
        rcases List.mem_cons.mp hmem with rfl | hmem
        · exact hp
        · exact hall rule hmem
      · exact Or.inr ⟨position + 1, rule, h.cons hp⟩
    · exact Or.inr ⟨0, first, rfl, hp, fun _ h => absurd h (by simp)⟩

theorem exists_firstMatch (kind : ChainKind) (request : Request) (rules : List Rule) :
    ∃ outcome calls, FirstMatch kind request rules outcome calls := by
  rcases passes_or_firstAt request rules with h | ⟨position, rule, h⟩
  · exact ⟨_, _, .silent h⟩
  rcases Rule.decides_or_fails h.stops with hd | ⟨cause, hf⟩
  · cases he : rule.effect with
    | deny => exact ⟨_, _, .denied h hd he⟩
    | allow =>
      cases hm : rule.mapper with
      | none => exact ⟨_, _, .allowed h hd he hm⟩
      | some mapper =>
        cases hr : (mapper request.resource).result with
        | ok resource => exact ⟨_, _, .mapped h hd he hm hr⟩
        | error cause => exact ⟨_, _, .unmapped h hd he hm hr⟩
  · exact ⟨_, _, .failed h hf⟩

/-- What the law allows is what evaluation does. Each constructor names the rule that settles the
request, and with it the equation of evaluation that applies. -/
theorem FirstMatch.eq_evaluate {chain : Option (List Rule)}
    {outcome : Except EvaluationError Response} {calls : List Call}
    (h : FirstMatch kind request (chain.getD []) outcome calls) :
    outcome = (evaluate kind chain request).outcome ∧
      calls = (evaluate kind chain request).calls := by
  cases h with
  | silent h =>
    rw [evaluate_of_passes h]
    exact ⟨rfl, rfl⟩
  | failed h hf =>
    rw [evaluate_of_fails h hf]
    exact ⟨rfl, rfl⟩
  | denied h hd he =>
    rw [evaluate_of_decides h hd]
    simp [conclude, he, Evaluation.pure]
  | allowed h hd he hm =>
    rw [evaluate_of_decides h hd]
    simp [conclude, he, hm, Evaluation.pure]
  | mapped h hd he hm hr =>
    rw [evaluate_of_decides h hd]
    simp [conclude, he, hm, hr, callOf]
  | unmapped h hd he hm hr =>
    rw [evaluate_of_decides h hd]
    simp [conclude, he, hm, hr, callOf, Placed.label]

/-- **Evaluation is first match.** For every chain, missing, empty or of any length, whatever its
callbacks do: the outcome and the callback runs of an evaluation are those of the law, and of no
other does the law hold. -/
theorem firstMatch_iff (kind : ChainKind) (chain : Option (List Rule)) (request : Request)
    (outcome : Except EvaluationError Response) (calls : List Call) :
    FirstMatch kind request (chain.getD []) outcome calls ↔
      outcome = (evaluate kind chain request).outcome ∧
        calls = (evaluate kind chain request).calls := by
  constructor
  · exact FirstMatch.eq_evaluate
  · rintro ⟨rfl, rfl⟩
    -- The law is met by something, and that can only be what evaluation does.
    obtain ⟨outcome, calls, h⟩ := exists_firstMatch kind request (chain.getD [])
    obtain ⟨rfl, rfl⟩ := h.eq_evaluate
    exact h

end Chain
end Clearance
