import AgentRuntime.Domain.Policy
import AgentRuntime.Python.Sorted

/-!
# What a policy decides

`PolicyEvaluator.evaluate` sorts the rules and takes the first that matches: of the rules that match, the
first of those with the greatest priority (`evaluate_eq_reference`). From this it is read off what the parts
of a rule do. Its type decides nothing, its effect does (`type_honoured_iff`); its resource pattern is compared
with a resource that the request names, and passed where it names none (`resource_restricted`); and a rule
whose expression fails is left out (`errors_leave_rules_out`).
-/

namespace AgentRuntime

namespace PolicyEvaluator

section
variable (cel : Cel) (policy : ToolPolicy) (action : String) (resource : Option String)
  (context : Option Dict)

/-- The condition of the rule matches the request. -/
def ruleMatches (rule : PolicyRule) : Bool :=
  matchesCondition cel rule.condition action resource (context.getD [])

/-- The rule at the place `i` of the policy decides: of the rules that match, it has the greatest priority,
and the smallest place among those of its priority. -/
abbrev Decides (i : Nat) (rule : PolicyRule) : Prop :=
  StableSort.FirstGreatest PolicyRule.priority (ruleMatches cel action resource context) policy.rules i rule

end

variable {cel : Cel} {policy : ToolPolicy} {action : String} {resource : Option String}
  {context : Option Dict} {now : Time} {i : Nat} {rule : PolicyRule}

/-- The rule that is found is the one that decides: the first that matches, by priority. -/
theorem matchedRule_eq_some_iff : matchedRule cel policy action resource context = some rule ↔
    ∃ i, Decides cel policy action resource context i rule :=
  StableSort.find?_insertionSort_eq_some_iff

/-- None is found exactly if no rule of the policy matches. -/
theorem matchedRule_eq_none_iff : matchedRule cel policy action resource context = none ↔
    ∀ rule ∈ policy.rules, ruleMatches cel action resource context rule = false :=
  StableSort.find?_insertionSort_eq_none_iff

/-- A decision names the rule that it rests on. -/
@[simp] theorem applyEffect_matchedRule (effect : PolicyEffect) (rule : Option PolicyRule) (now : Time) :
    (applyEffect effect rule now).matchedRule = rule := by
  unfold applyEffect
  cases effect.requiresApproval <;> cases effect.allow <;> rfl

/-- What a decision by this effect says, under this rule: it asks for approval where the effect does, else it
allows or denies as the effect does, and it carries the rate limit of the effect unless it denies. -/
structure DecidedBy (effect : PolicyEffect) (rule : Option PolicyRule) (now : Time) (decision : PolicyDecision) :
    Prop where
  matchedRule : decision.matchedRule = rule
  requiresApproval : decision.requiresApproval = effect.requiresApproval
  allowed : decision.allowed = true ↔ effect.requiresApproval = false ∧ effect.allow = true
  reason : decision.reason = if effect.requiresApproval then "Policy requires approval"
    else if effect.allow then "Policy allows access" else "Policy denies access"
  rateLimit : decision.rateLimit =
    if effect.requiresApproval || effect.allow then buildRateLimit effect now else none

/-- A decision has the fields that its effect and its rule demand. -/
theorem decidedBy_applyEffect (effect : PolicyEffect) (rule : Option PolicyRule) (now : Time) :
    DecidedBy effect rule now (applyEffect effect rule now) := by
  refine ⟨applyEffect_matchedRule .., applyEffect_requiresApproval .., ?_, ?_, ?_⟩
  · simp
  · unfold applyEffect
    cases effect.requiresApproval <;> cases effect.allow <;> rfl
  · unfold applyEffect
    cases effect.requiresApproval <;> cases effect.allow <;> rfl

/-- If a rule decides, its effect is applied. -/
theorem evaluate_of_decides (h : Decides cel policy action resource context i rule) :
    evaluate cel policy action resource context now = applyEffect rule.effect (some rule) now := by
  unfold evaluate
  rw [matchedRule_eq_some_iff.2 ⟨i, h⟩]

/-- If no rule matches, the default effect is applied. -/
theorem evaluate_of_forall_not
    (h : ∀ rule ∈ policy.rules, ruleMatches cel action resource context rule = false) :
    evaluate cel policy action resource context now = applyEffect policy.defaultEffect none now := by
  unfold evaluate
  rw [matchedRule_eq_none_iff.2 h]

/-- A rule decides, or none matches. -/
theorem decides_or_forall_not : (∃ i rule, Decides cel policy action resource context i rule) ∨
    ∀ rule ∈ policy.rules, ruleMatches cel action resource context rule = false := by
  cases hmatched : matchedRule cel policy action resource context with
  | none => exact .inr (matchedRule_eq_none_iff.1 hmatched)
  | some rule =>
    obtain ⟨i, h⟩ := matchedRule_eq_some_iff.1 hmatched
    exact .inl ⟨i, rule, h⟩

end PolicyEvaluator

open PolicyEvaluator

/-- The decision is the effect of the rule that decides, which is reported with it, and the default effect
where no rule matches. -/
theorem evaluate_eq_reference (cel : Cel) (policy : ToolPolicy) (action : String)
    (resource : Option String) (context : Option Dict) (now : Time) :
    (∃ i rule, Decides cel policy action resource context i rule ∧
        evaluate cel policy action resource context now = applyEffect rule.effect (some rule) now ∧
          DecidedBy rule.effect (some rule) now (evaluate cel policy action resource context now)) ∨
      (∀ rule ∈ policy.rules, ruleMatches cel action resource context rule = false) ∧
        evaluate cel policy action resource context now = applyEffect policy.defaultEffect none now ∧
          DecidedBy policy.defaultEffect none now (evaluate cel policy action resource context now) := by
  rcases decides_or_forall_not with ⟨i, rule, h⟩ | h
  · refine .inl ⟨i, rule, h, evaluate_of_decides h, ?_⟩
    rw [evaluate_of_decides h]
    exact decidedBy_applyEffect rule.effect (some rule) now
  · refine .inr ⟨h, evaluate_of_forall_not h, ?_⟩
    rw [evaluate_of_forall_not h]
    exact decidedBy_applyEffect policy.defaultEffect none now

/-! ## Types and effects -/

/-- A rule that denies does not allow, and one that requires approval does not allow without it. -/
def TypeHonoured (rule : PolicyRule) (decision : PolicyDecision) : Prop :=
  (rule.type = .deny → decision.allowed = false) ∧
    (rule.type = .requireApproval → decision.allowed = true → decision.requiresApproval = true)

/-- The decision is that of the effect whatever the type of the rule is, so that the type is honoured
exactly if the effect says the same. -/
theorem type_honoured_iff (cel : Cel) (policy : ToolPolicy) (action : String) (resource : Option String)
    (context : Option Dict) (now : Time) (i : Nat) (rule : PolicyRule)
    (h : Decides cel policy action resource context i rule) :
    ((evaluate cel policy action resource context now).allowed =
        (!rule.effect.requiresApproval && rule.effect.allow) ∧
      (evaluate cel policy action resource context now).requiresApproval =
        rule.effect.requiresApproval) ∧
      (TypeHonoured rule (evaluate cel policy action resource context now) ↔
        (rule.type = .deny ∨ rule.type = .requireApproval →
          rule.effect.requiresApproval = true ∨ rule.effect.allow = false)) := by
  rw [evaluate_of_decides h]
  refine ⟨⟨applyEffect_allowed .., applyEffect_requiresApproval ..⟩, ?_⟩
  unfold TypeHonoured
  rw [applyEffect_allowed, applyEffect_requiresApproval]
  cases rule.effect.requiresApproval with
  | true => simp
  | false =>
    cases rule.effect.allow with
    | true => simp
    | false => simp

namespace RuleTypes

/-- A policy of one rule that is for every request. -/
def policy (type : PolicyType) (effect : PolicyEffect) : ToolPolicy where
  toolName := "tool"
  rules := [{ type, condition := {}, effect }]

end RuleTypes

/-- The rule denies, the effect is left at its defaults, and the request is allowed. -/
theorem not_type_honoured :
    ∃ rule, matchedRule (fun _ _ => none) (RuleTypes.policy .deny {}) "read" none none = some rule ∧
      ¬TypeHonoured rule (evaluate (fun _ _ => none) (RuleTypes.policy .deny {}) "read" none none 0) := by
  refine ⟨⟨.deny, {}, {}, 0⟩, rfl, fun h => ?_⟩
  cases h.1 rfl

/-- A rule that denies and says so. -/
theorem type_honoured_deny :
    TypeHonoured ⟨.deny, {}, { allow := false }, 0⟩
      (evaluate (fun _ _ => none) (RuleTypes.policy .deny { allow := false }) "read" none none 0) :=
  (type_honoured_iff (fun _ _ => none) (RuleTypes.policy .deny { allow := false }) "read" none none 0 0
    ⟨.deny, {}, { allow := false }, 0⟩ (StableSort.firstGreatest_cons_zero rfl fun rule h => by cases h)
      ).2.2 fun _ => .inr rfl

/-! ## Expressions that fail -/

/-- The expression of the rule, if it has one, cannot be evaluated. -/
def expressionFails (cel : Cel) (context : Option Dict) (rule : PolicyRule) : Bool :=
  (given rule.condition.expression).any fun expression => (cel expression (context.getD [])).isNone

/-- A condition matches if its action and its resource do, and its expression is true. -/
theorem ruleMatches_eq_true_iff {cel : Cel} {action : String} {resource : Option String}
    {context : Option Dict} {rule : PolicyRule} :
    ruleMatches cel action resource context rule = true ↔
      (∀ wanted ∈ given rule.condition.action, wanted = action) ∧
        (∀ pattern ∈ given rule.condition.resource, ∀ value ∈ given resource,
          Fnmatch.fnmatch value pattern = true) ∧
        ∀ expression ∈ given rule.condition.expression, cel expression (context.getD []) = some true := by
  have hgetD (expression : String) : (cel expression (context.getD [])).getD false = true ↔
      cel expression (context.getD []) = some true := by
    cases cel expression (context.getD []) with
    | none => simp
    | some value => simp
  unfold ruleMatches matchesCondition
  generalize given rule.condition.action = wanted
  generalize given rule.condition.expression = expression
  -- what is not given is not compared
  cases expression with
  | none =>
    cases given rule.condition.resource with
    | none => cases wanted <;> simp
    | some pattern => cases given resource <;> cases wanted <;> simp
  | some expression =>
    cases given rule.condition.resource with
    | none => cases wanted <;> simp [hgetD]
    | some pattern => cases given resource <;> cases wanted <;> simp [hgetD]

section
variable {cel cel' : Cel} {action : String} {resource : Option String} {context : Option Dict}
  {rule : PolicyRule}

/-- With more expressions that fail, fewer rules match. -/
theorem ruleMatches_of_errors
    (herrors : ∀ expression context, cel' expression context = none ∨
      cel' expression context = cel expression context)
    (h : ruleMatches cel' action resource context rule = true) :
    ruleMatches cel action resource context rule = true := by
  obtain ⟨haction, hresource, hexpression⟩ := ruleMatches_eq_true_iff.1 h
  refine ruleMatches_eq_true_iff.2 ⟨haction, hresource, fun expression hgiven => ?_⟩
  have htrue := hexpression expression hgiven
  rcases herrors expression (context.getD []) with hnone | hsame
  · rw [hnone] at htrue
    cases htrue
  · rw [← hsame, htrue]

/-- A rule whose own expression does not fail still matches. -/
theorem ruleMatches_of_not_fails
    (herrors : ∀ expression context, cel' expression context = none ∨
      cel' expression context = cel expression context)
    (hfails : expressionFails cel' context rule = false)
    (h : ruleMatches cel action resource context rule = true) :
    ruleMatches cel' action resource context rule = true := by
  obtain ⟨haction, hresource, hexpression⟩ := ruleMatches_eq_true_iff.1 h
  refine ruleMatches_eq_true_iff.2 ⟨haction, hresource, fun expression hgiven => ?_⟩
  rcases herrors expression (context.getD []) with hnone | hsame
  · unfold expressionFails at hfails
    rw [Option.mem_def.1 hgiven, Option.any_some, hnone] at hfails
    cases hfails
  · rw [hsame, hexpression expression hgiven]

/-- A rule whose expression fails does not match. -/
theorem not_expressionFails_of_ruleMatches (h : ruleMatches cel action resource context rule = true) :
    expressionFails cel context rule = false := by
  obtain ⟨-, -, hexpression⟩ := ruleMatches_eq_true_iff.1 h
  unfold expressionFails
  cases hgiven : given rule.condition.expression with
  | none => rfl
  | some expression => rw [Option.any_some, hexpression expression hgiven]; rfl

end

/-- A rule whose expression fails is left out. So errors turn a request that was not allowed into one that
is only by leaving out the rule that decided, which denied or asked for approval. -/
theorem errors_leave_rules_out (cel cel' : Cel) (policy : ToolPolicy) (action : String)
    (resource : Option String) (context : Option Dict) (now : Time)
    (herrors : ∀ expression context, cel' expression context = none ∨
      cel' expression context = cel expression context) :
    evaluate cel' policy action resource context now = evaluate cel' { policy with
        rules := policy.rules.filter fun rule => !expressionFails cel' context rule }
          action resource context now ∧
      ((evaluate cel policy action resource context now).allowed = false →
        (evaluate cel' policy action resource context now).allowed = true →
        ∃ i rule, Decides cel policy action resource context i rule ∧
          expressionFails cel' context rule = true ∧
            (rule.effect.requiresApproval = true ∨ rule.effect.allow = false)) := by
  constructor
  · have hmatched : matchedRule cel' { policy with
          rules := policy.rules.filter fun rule => !expressionFails cel' context rule }
            action resource context = matchedRule cel' policy action resource context := by
      refine StableSort.find?_insertionSort_filter fun rule hmatches => ?_
      rw [not_expressionFails_of_ruleMatches hmatches]
      rfl
    unfold evaluate
    rw [hmatched]
  · intro hdenied hallowed
    rcases @decides_or_forall_not cel policy action resource context with ⟨i, rule, h⟩ | hnone
    · refine ⟨i, rule, h, ?_⟩
      rw [evaluate_of_decides h, applyEffect_allowed] at hdenied
      cases hfails : expressionFails cel' context rule with
      | true =>
        refine ⟨rfl, ?_⟩
        cases happroval : rule.effect.requiresApproval with
        | true => exact .inl rfl
        | false => exact .inr (by simpa [happroval] using hdenied)
      | false =>
        -- the rule still matches, and no rule before it does
        have h' : Decides cel' policy action resource context i rule :=
          ⟨h.get, ruleMatches_of_not_fails herrors hfails h.holds, fun j other hother hmatches =>
            h.greatest j other hother (ruleMatches_of_errors herrors hmatches)⟩
        rw [evaluate_of_decides h', applyEffect_allowed, hdenied] at hallowed
        cases hallowed
    · have hnone' : ∀ rule ∈ policy.rules, ruleMatches cel' action resource context rule = false := by
        intro rule hrule
        cases hmatches : ruleMatches cel' action resource context rule with
        | false => rfl
        | true =>
          rw [← ruleMatches_of_errors herrors hmatches]
          exact hnone rule hrule
      rw [evaluate_of_forall_not hnone, ← evaluate_of_forall_not hnone', hallowed] at hdenied
      cases hdenied

namespace FailingExpression

/-- Who is not suspended may use the tool. -/
def policy : ToolPolicy where
  toolName := "tool"
  rules := [{ type := .deny, condition := { expression := some "context.suspended" },
              effect := { allow := false }, priority := 10 },
            { type := .allow, condition := {}, effect := {} }]

def decision (cel : Cel) : PolicyDecision := evaluate cel policy "read" none none 0

end FailingExpression

/-- Where the expression of the rule that denies fails, the request is allowed. -/
theorem not_fails_closed :
    (FailingExpression.decision fun _ _ => some true).allowed = false ∧
      (FailingExpression.decision fun _ _ => none).allowed = true :=
  ⟨rfl, rfl⟩

/-- The rule that denies is left out. -/
theorem errors_leave_rules_out_suspended :
    FailingExpression.decision (fun _ _ => none) = evaluate (fun _ _ => none) { FailingExpression.policy with
        rules := FailingExpression.policy.rules.filter fun rule =>
          !expressionFails (fun _ _ => none) none rule } "read" none none 0 :=
  (errors_leave_rules_out (fun _ _ => some true) (fun _ _ => none) FailingExpression.policy "read" none none 0
    fun _ _ => .inl rfl).1

/-! ## Resource patterns -/

/-- The effect allows without asking for approval. -/
def PlainlyAllows (effect : PolicyEffect) : Prop := effect.requiresApproval = false ∧ effect.allow = true

section
variable {cel : Cel} {policy : ToolPolicy} {action : String} {resource : Option String}
  {context : Option Dict} {now : Time} {rule : PolicyRule}

/-- A text that is not empty counts as given. -/
theorem given_eq_some {value : String} (h : value ≠ "") : given (some value) = some value :=
  if_pos (by simpa using h)

/-- A rule that matches a request with a resource matches the request without it. -/
theorem ruleMatches_omitted {omitted : Option String} (homitted : given omitted = none)
    (h : ruleMatches cel action resource context rule = true) :
    ruleMatches cel action omitted context rule = true := by
  obtain ⟨haction, -, hexpression⟩ := ruleMatches_eq_true_iff.1 h
  refine ruleMatches_eq_true_iff.2 ⟨haction, fun pattern _ value hvalue => ?_, hexpression⟩
  rw [homitted] at hvalue
  cases hvalue

/-- A rule without a pattern does not look at the resource. -/
theorem ruleMatches_of_no_pattern {resource' : Option String}
    (hpattern : given rule.condition.resource = none)
    (h : ruleMatches cel action resource context rule = true) :
    ruleMatches cel action resource' context rule = true := by
  obtain ⟨haction, -, hexpression⟩ := ruleMatches_eq_true_iff.1 h
  refine ruleMatches_eq_true_iff.2 ⟨haction, fun pattern hgiven => ?_, hexpression⟩
  rw [hpattern] at hgiven
  cases hgiven

/-- If the rule that decides a request without a resource has no pattern, it decides the request with any
resource. -/
theorem decides_of_omitted {i : Nat} {omitted : Option String} (homitted : given omitted = none)
    (h : Decides cel policy action omitted context i rule) (hpattern : given rule.condition.resource = none) :
    Decides cel policy action resource context i rule where
  get := h.get
  holds := ruleMatches_of_no_pattern hpattern h.holds
  greatest j other hother hmatches := h.greatest j other hother (ruleMatches_omitted homitted hmatches)

end

/-- A rule with a pattern decides about a resource that is named only if the resource matches. Where none is
named patterns are passed: a request that is denied for every resource outside some pattern is allowed without
a resource only by a rule that has a pattern itself. -/
theorem resource_restricted (cel : Cel) (policy : ToolPolicy) (action : String) (context : Option Dict)
    (now : Time) :
    (∀ value, value ≠ "" → ∀ rule, (evaluate cel policy action (some value) context now).matchedRule =
        some rule → ∀ pattern, given rule.condition.resource = some pattern →
          Fnmatch.fnmatch value pattern = true) ∧
      ∀ omitted, given omitted = none → ∀ pattern outside, outside ≠ "" →
        Fnmatch.fnmatch outside pattern = false →
        (∀ value, value ≠ "" → Fnmatch.fnmatch value pattern = false →
          (evaluate cel policy action (some value) context now).allowed = false) →
        (evaluate cel policy action omitted context now).allowed = true →
        ∃ i rule, Decides cel policy action omitted context i rule ∧
          PlainlyAllows rule.effect ∧ (given rule.condition.resource).isSome = true := by
  constructor
  · intro value hvalue rule hmatched pattern hpattern
    rcases @decides_or_forall_not cel policy action (some value) context with ⟨i, rule', h⟩ | hnone
    · rw [evaluate_of_decides h, applyEffect_matchedRule] at hmatched
      obtain rfl := Option.some.inj hmatched
      obtain ⟨-, hresource, -⟩ := ruleMatches_eq_true_iff.1 h.holds
      exact hresource pattern hpattern value (given_eq_some hvalue)
    · rw [evaluate_of_forall_not hnone, applyEffect_matchedRule] at hmatched
      cases hmatched
  · intro omitted homitted pattern outside houtside hoff hdenied hallowed
    have hdenied := hdenied outside houtside hoff
    rcases @decides_or_forall_not cel policy action omitted context with ⟨i, rule, h⟩ | hnone
    · refine ⟨i, rule, h, ?_⟩
      rw [evaluate_of_decides h, applyEffect_allowed] at hallowed
      have hplain : PlainlyAllows rule.effect := by simpa [PlainlyAllows] using hallowed
      refine ⟨hplain, ?_⟩
      cases hpattern : given rule.condition.resource with
      | some pattern => rfl
      | none =>
        -- it would allow the resource outside the pattern as well
        rw [evaluate_of_decides (decides_of_omitted homitted h hpattern), applyEffect_allowed,
          hallowed] at hdenied
        cases hdenied
    · have hnone' : ∀ rule ∈ policy.rules, ruleMatches cel action (some outside) context rule = false := by
        intro rule hrule
        cases hmatches : ruleMatches cel action (some outside) context rule with
        | false => rfl
        | true =>
          rw [← ruleMatches_omitted homitted hmatches]
          exact hnone rule hrule
      rw [evaluate_of_forall_not hnone', ← evaluate_of_forall_not hnone, hallowed] at hdenied
      cases hdenied

namespace PdfOnly

/-- Only files of one kind may be read. -/
def policy : ToolPolicy where
  toolName := "tool"
  rules := [{ type := .allow, condition := { resource := some "*.pdf" }, effect := {} }]

def decision (resource : Option String) : PolicyDecision :=
  evaluate (fun _ _ => none) policy "read" resource none 0

end PdfOnly

/-- A file of the kind is read. -/
theorem resource_restricted_pdf : Fnmatch.fnmatch "notes.pdf" "*.pdf" = true :=
  (resource_restricted (fun _ _ => none) PdfOnly.policy "read" none 0).1 "notes.pdf" (by decide)
    ⟨.allow, { resource := some "*.pdf" }, {}, 0⟩ rfl "*.pdf" rfl

/-- Every other resource is denied, and a request that names none is allowed by the rule. -/
theorem not_resource_restricted :
    (∀ value, value ≠ "" → Fnmatch.fnmatch value "*.pdf" = false →
        (PdfOnly.decision (some value)).allowed = false) ∧
      (PdfOnly.decision none).allowed = true ∧
        ((PdfOnly.decision none).matchedRule.map fun rule => rule.condition.resource) =
          some (some "*.pdf") := by
  refine ⟨fun value hvalue hoff => ?_, by decide, by decide⟩
  have hnone : ∀ rule ∈ PdfOnly.policy.rules,
      ruleMatches (fun _ _ => none) "read" (some value) none rule = false := by
    intro rule hrule
    obtain rfl := List.mem_singleton.1 hrule
    rw [← Bool.not_eq_true, ruleMatches_eq_true_iff]
    rintro ⟨-, hresource, -⟩
    have hmatches : Fnmatch.fnmatch value "*.pdf" = true :=
      hresource "*.pdf" rfl value (given_eq_some hvalue)
    rw [hoff] at hmatches
    cases hmatches
  exact congrArg PolicyDecision.allowed (evaluate_of_forall_not hnone)

end AgentRuntime
