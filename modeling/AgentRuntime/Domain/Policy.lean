import AgentRuntime.Python.Fnmatch
import AgentRuntime.Python.Values
import Mathlib.Data.List.Sort

/-!
# Tool policies and grants

Policy rules, their evaluation (`app/domain/value_objects/policy.py`) and the grant that holds a
policy (`app/domain/entities/tool_grant.py`). A rule's CEL expression is evaluated by a library;
`Cel` is that evaluation, the truth value of the expression in a context, or nothing when compiling
or running it raises.
-/

namespace AgentRuntime

/-- The library's evaluation of a CEL expression with `context` bound to the given mapping. -/
abbrev Cel := String → Dict → Option Bool

inductive PolicyType where
  | allow
  | deny
  | requireApproval
  | rateLimit
  | conditional
  deriving DecidableEq, Repr

/-- Condition for policy evaluation. -/
structure PolicyCondition where
  action : Option String := none
  resource : Option String := none
  context : Option Dict := none
  expression : Option String := none
  deriving Repr

/-- Effect when condition matches. -/
structure PolicyEffect where
  allow : Bool := true
  requiresApproval : Bool := false
  maxCallsPerMinute : Option Int := none
  maxCallsPerHour : Option Int := none
  maxCallsPerDay : Option Int := none
  metadata : Dict := []
  deriving Repr

/-- Single policy rule with condition and effect. -/
structure PolicyRule where
  type : PolicyType
  condition : PolicyCondition
  effect : PolicyEffect
  priority : Int := 0
  deriving Repr

/-- Complete policy for a tool. -/
structure ToolPolicy where
  toolName : String
  version : Int := 1
  rules : List PolicyRule := []
  defaultEffect : PolicyEffect := { allow := false }
  metadata : Dict := []
  deriving Repr

/-- Rate limit information. -/
structure RateLimitInfo where
  limit : Int
  remaining : Int
  resetAt : Time
  scope : String
  deriving Repr

/-- Result of policy evaluation. -/
structure PolicyDecision where
  allowed : Bool
  requiresApproval : Bool := false
  reason : String := ""
  matchedRule : Option PolicyRule := none
  rateLimit : Option RateLimitInfo := none
  metadata : Dict := []
  deriving Repr

namespace PolicyEvaluator

/-- `if text:` of an optional string. -/
def given (text : Option String) : Option String := text.filter (· ≠ "")

/-- Check if condition matches request. -/
def matchesCondition (cel : Cel) (condition : PolicyCondition) (action : String)
    (resource : Option String) (context : Dict) : Bool :=
  if (given condition.action).any (· ≠ action) then
    false
  else if (match given condition.resource, given resource with
      | some pattern, some value => !Fnmatch.fnmatch value pattern
      | _, _ => false) then
    false
  else
    match given condition.expression with
    | some expression => (cel expression context).getD false
    | none => true

/-- `if limit:` of an optional integer. -/
def configured (limit : Option Int) : Option Int := limit.filter (· ≠ 0)

/-- The rate limit of an effect: the first of the minute, hour and day limits that is set. -/
def buildRateLimit (effect : PolicyEffect) (now : Time) : Option RateLimitInfo :=
  match configured effect.maxCallsPerMinute with
  | some limit => some ⟨limit, limit, now.floorTo Time.perMinute + Time.perMinute, "minute"⟩
  | none =>
    match configured effect.maxCallsPerHour with
    | some limit => some ⟨limit, limit, now.floorTo Time.perHour + Time.perHour, "hour"⟩
    | none =>
      match configured effect.maxCallsPerDay with
      | some limit => some ⟨limit, limit, now.floorTo Time.perDay + Time.perDay, "day"⟩
      | none => none

/-- All the limits that an effect sets, each with its window. -/
def configuredLimits (effect : PolicyEffect) : List (Int × String) :=
  [(effect.maxCallsPerMinute, "minute"), (effect.maxCallsPerHour, "hour"),
    (effect.maxCallsPerDay, "day")].filterMap fun limit => (configured limit.1).map (·, limit.2)

/-- Apply policy effect. -/
def applyEffect (effect : PolicyEffect) (rule : Option PolicyRule) (now : Time) : PolicyDecision :=
  if effect.requiresApproval then
    { allowed := false, requiresApproval := true, reason := "Policy requires approval",
      matchedRule := rule, rateLimit := buildRateLimit effect now }
  else if !effect.allow then
    { allowed := false, reason := "Policy denies access", matchedRule := rule }
  else
    { allowed := true, reason := "Policy allows access", matchedRule := rule,
      rateLimit := buildRateLimit effect now }

/-- The rules in the order they are tried: by descending priority, rules of one priority in the
order of the policy (the sort is stable). -/
def sortedRules (policy : ToolPolicy) : List PolicyRule :=
  policy.rules.insertionSort fun a b => b.priority ≤ a.priority

/-- The first rule, in priority order, whose condition matches. -/
def matchedRule (cel : Cel) (policy : ToolPolicy) (action : String) (resource : Option String)
    (context : Option Dict) : Option PolicyRule :=
  (sortedRules policy).find? fun rule =>
    matchesCondition cel rule.condition action resource (context.getD [])

/-- Evaluate policy rules in priority order. -/
def evaluate (cel : Cel) (policy : ToolPolicy) (action : String) (resource : Option String)
    (context : Option Dict) (now : Time) : PolicyDecision :=
  match matchedRule cel policy action resource context with
  | some rule => applyEffect rule.effect (some rule) now
  | none => applyEffect policy.defaultEffect none now

/-- The effect that decides a request: that of the matched rule, or else the default one. -/
def effectFor (cel : Cel) (policy : ToolPolicy) (action : String) (resource : Option String)
    (context : Option Dict) : PolicyEffect :=
  ((matchedRule cel policy action resource context).map PolicyRule.effect).getD policy.defaultEffect

/-! ## What a decision says -/

/-- A decision allows exactly when its effect allows without asking for approval. -/
@[simp] theorem applyEffect_allowed (effect : PolicyEffect) (rule : Option PolicyRule)
    (now : Time) : (applyEffect effect rule now).allowed =
      (!effect.requiresApproval && effect.allow) := by
  unfold applyEffect
  cases effect.requiresApproval <;> cases effect.allow <;> rfl

/-- A decision asks for an approval exactly if the effect does. -/
@[simp] theorem applyEffect_requiresApproval (effect : PolicyEffect) (rule : Option PolicyRule)
    (now : Time) : (applyEffect effect rule now).requiresApproval = effect.requiresApproval := by
  unfold applyEffect
  cases effect.requiresApproval <;> cases effect.allow <;> rfl

/-- A denial carries no rate limit. -/
theorem applyEffect_rateLimit_of_deny {effect : PolicyEffect} {rule : Option PolicyRule} {now : Time}
    (happroval : effect.requiresApproval = false) (hallow : effect.allow = false) :
    (applyEffect effect rule now).rateLimit = none := by
  simp [applyEffect, happroval, hallow]

/-- An effect that allows carries its rate limit. -/
theorem applyEffect_rateLimit_of_allow {effect : PolicyEffect} {rule : Option PolicyRule} {now : Time}
    (happroval : effect.requiresApproval = false) (hallow : effect.allow = true) :
    (applyEffect effect rule now).rateLimit = buildRateLimit effect now := by
  simp [applyEffect, happroval, hallow]

/-- The rate limit of an effect is the first that it sets. -/
theorem buildRateLimit_of_cons {effect : PolicyEffect} {first : Int × String}
    {others : List (Int × String)} (h : configuredLimits effect = first :: others) (now : Time) :
    ∃ info, buildRateLimit effect now = some info ∧ info.limit = first.1 ∧ info.scope = first.2 := by
  unfold configuredLimits at h
  unfold buildRateLimit
  cases hminute : configured effect.maxCallsPerMinute with
  | some limit =>
    simp only [List.filterMap_cons, hminute, Option.map_some, List.cons.injEq] at h
    obtain ⟨rfl, -⟩ := h
    exact ⟨_, rfl, rfl, rfl⟩
  | none =>
    cases hhour : configured effect.maxCallsPerHour with
    | some limit =>
      simp only [List.filterMap_cons, hminute, hhour, Option.map_none, Option.map_some,
        List.cons.injEq] at h
      obtain ⟨rfl, -⟩ := h
      exact ⟨_, rfl, rfl, rfl⟩
    | none =>
      cases hday : configured effect.maxCallsPerDay with
      | some limit =>
        simp only [List.filterMap_cons, List.filterMap_nil, hminute, hhour, hday, Option.map_none,
          Option.map_some, List.cons.injEq] at h
        obtain ⟨rfl, -⟩ := h
        exact ⟨_, rfl, rfl, rfl⟩
      | none => simp [hminute, hhour, hday] at h

variable (cel : Cel) (policy : ToolPolicy) (action : String) (resource : Option String)
  (context : Option Dict) (now : Time)

/-- A policy is evaluated by applying the effect that decides the request. -/
theorem evaluate_eq : ∃ rule, evaluate cel policy action resource context now =
    applyEffect (effectFor cel policy action resource context) rule now := by
  unfold evaluate effectFor
  cases matchedRule cel policy action resource context with
  | some rule => exact ⟨some rule, rfl⟩
  | none => exact ⟨none, rfl⟩

end PolicyEvaluator

/-- Tool grant entity. -/
structure ToolGrant where
  id : UUID
  createdAt : Time
  updatedAt : Time
  agentVersionId : UUID
  toolName : String
  policy : ToolPolicy
  isActive : Bool := true
  deriving Repr

namespace ToolGrant

/-- Evaluate policy for a tool action. -/
def evaluate (self : ToolGrant) (cel : Cel) (action : String) (resource : Option String)
    (context : Option Dict) (now : Time) : PolicyDecision :=
  if self.isActive then
    PolicyEvaluator.evaluate cel self.policy action resource context now
  else
    { allowed := false, reason := "Grant is inactive" }

variable {self : ToolGrant} {cel : Cel} {action : String} {resource : Option String}
  {context : Option Dict} {now : Time}

/-- A grant allows exactly when it is active and the deciding effect allows without approval. -/
theorem evaluate_allowed : (self.evaluate cel action resource context now).allowed = true ↔
    self.isActive = true ∧
      (PolicyEvaluator.effectFor cel self.policy action resource context).requiresApproval = false ∧
      (PolicyEvaluator.effectFor cel self.policy action resource context).allow = true := by
  unfold evaluate
  split
  · next h =>
    obtain ⟨rule, hrule⟩ := PolicyEvaluator.evaluate_eq cel self.policy action resource context now
    simp [hrule, h]
  · next h => simp [h]

/-- A grant asks for approval exactly when it is active and the deciding effect does. -/
theorem evaluate_requiresApproval :
    (self.evaluate cel action resource context now).requiresApproval = true ↔
      self.isActive = true ∧
        (PolicyEvaluator.effectFor cel self.policy action resource context).requiresApproval =
          true := by
  unfold evaluate
  split
  · next h =>
    obtain ⟨rule, hrule⟩ := PolicyEvaluator.evaluate_eq cel self.policy action resource context now
    simp [hrule, h]
  · next h => simp [h]

/-- A decision that neither allows nor asks for approval carries no rate limit. -/
theorem evaluate_rateLimit_of_deny
    (hallowed : (self.evaluate cel action resource context now).allowed = false)
    (happroval : (self.evaluate cel action resource context now).requiresApproval = false) :
    (self.evaluate cel action resource context now).rateLimit = none := by
  unfold evaluate at *
  split
  · next h =>
    obtain ⟨rule, hrule⟩ := PolicyEvaluator.evaluate_eq cel self.policy action resource context now
    rw [if_pos h, hrule] at hallowed happroval
    rw [hrule]
    simp only [PolicyEvaluator.applyEffect_requiresApproval] at happroval
    refine PolicyEvaluator.applyEffect_rateLimit_of_deny happroval ?_
    simpa [happroval] using hallowed
  · rfl

/-- An active grant decides with the effect of its policy. -/
theorem evaluate_of_active (hactive : self.isActive = true) :
    ∃ rule, self.evaluate cel action resource context now = PolicyEvaluator.applyEffect
      (PolicyEvaluator.effectFor cel self.policy action resource context) rule now := by
  rw [evaluate, if_pos hactive]
  exact PolicyEvaluator.evaluate_eq cel self.policy action resource context now

end ToolGrant

end AgentRuntime
