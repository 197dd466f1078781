import Mathlib.Logic.Function.Basic
import AgentRuntime.Python.Values

/-!
# The fallback handler

`FallbackHandler` (`app/infrastructure/providers/fallback.py`) with its configuration
(`app/domain/providers/value_objects.py`). `_fallback_count` is the index of the rotation and the
number of attempts at once, and every call of `get_fallback_provider` takes one
(`getFallbackProvider_eq_some`): `should_fallback` as well, for the target of its decision.
-/

namespace AgentRuntime

/-- An optional string where the source asks for its truth: the empty string is none. -/
def nonempty? (name : Option String) : Option String := name.filter fun name => name ≠ ""

/-- A name counts exactly if it is there and not empty. -/
theorem nonempty?_eq_some {name : Option String} {value : String} :
    nonempty? name = some value ↔ name = some value ∧ value ≠ "" := by
  simp [nonempty?, Option.filter_eq_some_iff]

/-- Fallback configuration. A configuration that the constructor refuses cannot be built. -/
structure FallbackConfig where
  primaryProvider : String
  fallbackProviders : List String := []
  maxFallbackAttempts : Nat := 2
  primaryProvider_ne : primaryProvider ≠ "" := by decide

/-- `FallbackConfig(…)`. -/
def FallbackConfig.ofValues (primaryProvider : String) (fallbackProviders : List String)
    (maxFallbackAttempts : Int) : Except PyError FallbackConfig :=
  if hprimary : primaryProvider = "" then
    .error (.valueError "Primary provider cannot be empty")
  else if maxFallbackAttempts < 0 then
    .error (.valueError "Max fallback attempts cannot be negative")
  else
    .ok ⟨primaryProvider, fallbackProviders, maxFallbackAttempts.toNat, hprimary⟩

/-- Reasons for triggering fallback. -/
inductive FallbackReason where
  | circuitOpen
  | timeout
  | rateLimit
  | serverError
  | authError
  | manual
  deriving DecidableEq, Repr

/-- `reason.value`. -/
def FallbackReason.value : FallbackReason → String
  | circuitOpen => "circuit_open"
  | timeout => "timeout"
  | rateLimit => "rate_limit"
  | serverError => "server_error"
  | authError => "auth_error"
  | manual => "manual"

/-- Decision about whether to fallback and to which provider. Its metadata are texts. -/
structure FallbackDecision where
  shouldFallback : Bool
  targetProvider : Option String := none
  reason : FallbackReason := .manual
  metadata : List (String × String)
  deriving DecidableEq, Repr

/-- Handler for fallback logic between providers. -/
structure FallbackHandler where
  config : FallbackConfig
  fallbackCount : String → Nat := fun _ => 0

namespace FallbackHandler

/-- Get the next fallback provider. -/
def getFallbackProvider (primaryProvider : String) (self : FallbackHandler) :
    Option String × FallbackHandler :=
  if self.config.fallbackProviders = [] then
    (none, self)
  else if self.config.maxFallbackAttempts ≤ self.fallbackCount primaryProvider then
    (none, self)
  else
    (self.config.fallbackProviders[self.fallbackCount primaryProvider %
        self.config.fallbackProviders.length]?,
      { self with
        fallbackCount := Function.update self.fallbackCount primaryProvider
          (self.fallbackCount primaryProvider + 1) })

/-- Validate that fallback provider is compatible with primary. -/
def validateProviderCompatibility (primaryProvider fallbackProvider : String)
    (self : FallbackHandler) : Bool :=
  if primaryProvider = fallbackProvider then false
  else if fallbackProvider ∉ self.config.fallbackProviders then false
  else true

/-- Create a fallback decision. -/
def createFallbackDecision (primaryProvider : String) (reason : FallbackReason)
    (metadata : List (String × String)) (self : FallbackHandler) :
    FallbackDecision × FallbackHandler :=
  let (fallbackProvider, self) := self.getFallbackProvider primaryProvider
  match nonempty? fallbackProvider with
  | some fallbackProvider =>
    if self.validateProviderCompatibility primaryProvider fallbackProvider then
      ({ shouldFallback := true, targetProvider := fallbackProvider, reason, metadata }, self)
    else
      ({ shouldFallback := false, reason
         metadata := metadata ++ [("reason", "no_valid_fallback_provider")] }, self)
  | none =>
    ({ shouldFallback := false, reason
       metadata := metadata ++ [("reason", "no_valid_fallback_provider")] }, self)

/-- Check if error type is suitable for fallback. -/
def isErrorTypeFallbackable (errorType : String) : Bool :=
  errorType ∈ ["timeout", "rate_limit", "server_error"]

/-- Determine if fallback should occur. -/
def shouldFallback (primaryProvider errorType circuitState : String)
    (irreversibleEffectsExecuted : Bool) (self : FallbackHandler) :
    FallbackDecision × FallbackHandler :=
  if irreversibleEffectsExecuted then
    ({ shouldFallback := false, metadata := [("reason", "irreversible_effects_executed")] }, self)
  else if !isErrorTypeFallbackable errorType then
    ({ shouldFallback := false, metadata := [("reason", "error_type_not_fallbackable")] }, self)
  else if circuitState = "open" then
    self.createFallbackDecision primaryProvider .circuitOpen [("circuit_state", circuitState)]
  else if errorType = "timeout" then
    self.createFallbackDecision primaryProvider .timeout [("error_type", errorType)]
  else if errorType = "rate_limit" then
    self.createFallbackDecision primaryProvider .rateLimit [("error_type", errorType)]
  else if errorType = "server_error" then
    self.createFallbackDecision primaryProvider .serverError [("error_type", errorType)]
  else
    ({ shouldFallback := false, metadata := [("reason", "error_type_not_fallbackable")] }, self)

/-- Reset fallback count for a provider. -/
def resetFallbackCount (primaryProvider : String) (self : FallbackHandler) : FallbackHandler :=
  { self with fallbackCount := Function.update self.fallbackCount primaryProvider 0 }

/-- Reset all fallback counts. -/
def resetAllFallbackCounts (self : FallbackHandler) : FallbackHandler :=
  { self with fallbackCount := fun _ => 0 }

/-! ## The rotation -/

/-- The rotation has attempts left for the primary provider after `taken` more have been taken, and
`fallbackProvider` is at its place. -/
structure Offers (handler : FallbackHandler) (primaryProvider : String) (taken : Nat)
    (fallbackProvider : String) : Prop where
  attempt : handler.fallbackCount primaryProvider + taken < handler.config.maxFallbackAttempts
  place : handler.config.fallbackProviders[(handler.fallbackCount primaryProvider + taken) %
    handler.config.fallbackProviders.length]? = some fallbackProvider
  nonempty : fallbackProvider ≠ ""
  compatible : fallbackProvider ≠ primaryProvider

section
variable {self : FallbackHandler} {primaryProvider fallbackProvider : String} {taken : Nat}

/-- A fallback that is offered is one of the configured ones. -/
theorem Offers.mem (h : self.Offers primaryProvider taken fallbackProvider) :
    fallbackProvider ∈ self.config.fallbackProviders :=
  List.mem_of_getElem? h.place

/-- One place offers one provider. -/
theorem Offers.unique {fallbackProvider' : String}
    (h : self.Offers primaryProvider taken fallbackProvider)
    (h' : self.Offers primaryProvider taken fallbackProvider') :
    fallbackProvider = fallbackProvider' :=
  Option.some.inj (h.place.symm.trans h'.place)

/-- What `get_fallback_provider` returns. -/
theorem getFallbackProvider_eq_some :
    (self.getFallbackProvider primaryProvider).1 = some fallbackProvider ↔
      self.fallbackCount primaryProvider < self.config.maxFallbackAttempts ∧
      self.config.fallbackProviders[self.fallbackCount primaryProvider %
        self.config.fallbackProviders.length]? = some fallbackProvider := by
  unfold getFallbackProvider
  split_ifs with hempty hmax
  · simp [hempty]
  · simp [Nat.not_lt.2 hmax]
  · simp [Nat.lt_of_not_le hmax]

/-- It keeps the configuration, and takes an attempt if it returns a provider. -/
theorem config_getFallbackProvider :
    (self.getFallbackProvider primaryProvider).2.config = self.config := by
  unfold getFallbackProvider
  split_ifs <;> rfl

/-- A fallback that is given counts as one attempt of its primary provider. -/
theorem fallbackCount_getFallbackProvider
    (h : (self.getFallbackProvider primaryProvider).1 = some fallbackProvider) :
    (self.getFallbackProvider primaryProvider).2.fallbackCount primaryProvider =
      self.fallbackCount primaryProvider + 1 := by
  unfold getFallbackProvider at h ⊢
  split_ifs at h ⊢
  exact Function.update_self primaryProvider _ self.fallbackCount

/-- A provider is a compatible fallback if it is another one, and configured. -/
theorem validateProviderCompatibility_eq_true :
    self.validateProviderCompatibility primaryProvider fallbackProvider = true ↔
      fallbackProvider ≠ primaryProvider ∧ fallbackProvider ∈ self.config.fallbackProviders := by
  unfold validateProviderCompatibility
  split_ifs with heq hmem
  · simp [heq]
  · simp [hmem, Ne.symm heq]
  · simp [hmem]

/-- What the rotation offers is what `get_fallback_provider` returns, if it is not empty and passes
the check of compatibility. -/
theorem offers_zero_iff : self.Offers primaryProvider 0 fallbackProvider ↔
    nonempty? (self.getFallbackProvider primaryProvider).1 = some fallbackProvider ∧
      (self.getFallbackProvider primaryProvider).2.validateProviderCompatibility primaryProvider
        fallbackProvider = true := by
  rw [nonempty?_eq_some, getFallbackProvider_eq_some, validateProviderCompatibility_eq_true,
    config_getFallbackProvider]
  constructor
  · intro h
    exact ⟨⟨⟨h.attempt, h.place⟩, h.nonempty⟩, h.compatible, h.mem⟩
  · rintro ⟨⟨⟨hattempt, hplace⟩, hnonempty⟩, hcompatible, -⟩
    exact ⟨hattempt, hplace, hnonempty, hcompatible⟩

/-- After an attempt the rotation offers what it offered for one attempt later. -/
theorem Offers.next {target : String} (h : self.Offers primaryProvider 0 target) (taken : Nat)
    (fallbackProvider : String) :
    (self.getFallbackProvider primaryProvider).2.Offers primaryProvider taken fallbackProvider ↔
      self.Offers primaryProvider (taken + 1) fallbackProvider := by
  have hsome := (nonempty?_eq_some.1 (offers_zero_iff.1 h).1).1
  have hcount := fallbackCount_getFallbackProvider hsome
  have hconfig : (self.getFallbackProvider primaryProvider).2.config = self.config :=
    config_getFallbackProvider
  have hplace : self.fallbackCount primaryProvider + 1 + taken =
      self.fallbackCount primaryProvider + (taken + 1) := by omega
  constructor
  · rintro ⟨hattempt, hp, hnonempty, hcompatible⟩
    rw [hcount, hconfig, hplace] at hattempt hp
    exact ⟨hattempt, hp, hnonempty, hcompatible⟩
  · rintro ⟨hattempt, hp, hnonempty, hcompatible⟩
    refine ⟨?_, ?_, hnonempty, hcompatible⟩
    · rwa [hcount, hconfig, hplace]
    · rwa [hcount, hconfig, hplace]

/-- A decision takes an attempt, and is for what the rotation offers. -/
theorem createFallbackDecision_cases (self : FallbackHandler) (primaryProvider : String)
    (reason : FallbackReason) (metadata : List (String × String)) :
    (∃ target, self.Offers primaryProvider 0 target ∧
      self.createFallbackDecision primaryProvider reason metadata =
        ({ shouldFallback := true, targetProvider := target, reason, metadata },
          (self.getFallbackProvider primaryProvider).2)) ∨
    (∀ target, ¬self.Offers primaryProvider 0 target) ∧
      self.createFallbackDecision primaryProvider reason metadata =
        ({ shouldFallback := false, reason
           metadata := metadata ++ [("reason", "no_valid_fallback_provider")] },
          (self.getFallbackProvider primaryProvider).2) := by
  unfold createFallbackDecision
  cases hprovider : nonempty? (self.getFallbackProvider primaryProvider).1 with
  | none =>
    refine .inr ⟨fun target h => ?_, by simp only [hprovider]⟩
    cases hprovider.symm.trans (offers_zero_iff.1 h).1
  | some target =>
    by_cases hcompatible : (self.getFallbackProvider primaryProvider).2.validateProviderCompatibility
        primaryProvider target = true
    · refine .inl ⟨target, offers_zero_iff.2 ⟨hprovider, hcompatible⟩, ?_⟩
      simp only [hprovider, hcompatible, if_true]
    · refine .inr ⟨fun target' h => hcompatible ?_, ?_⟩
      · obtain ⟨hprovider', hcompatible'⟩ := offers_zero_iff.1 h
        obtain rfl := Option.some.inj (hprovider.symm.trans hprovider')
        exact hcompatible'
      · simp only [hprovider, hcompatible]
        rfl

/-- For an error that allows a fallback, `should_fallback` creates a decision. -/
theorem shouldFallback_of_fallbackable {errorType : String}
    (herror : isErrorTypeFallbackable errorType = true) (circuitState : String) :
    ∃ reason metadata, self.shouldFallback primaryProvider errorType circuitState false =
      self.createFallbackDecision primaryProvider reason metadata := by
  unfold shouldFallback
  rw [if_neg Bool.false_ne_true, herror, if_neg (by simp)]
  split_ifs with hopen htimeout hrate hserver
  · exact ⟨_, _, rfl⟩
  · exact ⟨_, _, rfl⟩
  · exact ⟨_, _, rfl⟩
  · exact ⟨_, _, rfl⟩
  · simp [isErrorTypeFallbackable, htimeout, hrate, hserver] at herror

/-- Its decision is for what the rotation offers, and it takes the attempt. -/
theorem shouldFallback_spec {errorType : String}
    (herror : isErrorTypeFallbackable errorType = true) (self : FallbackHandler)
    (primaryProvider circuitState : String) :
    ∃ decision : FallbackDecision,
      self.shouldFallback primaryProvider errorType circuitState false =
        (decision, (self.getFallbackProvider primaryProvider).2) ∧
      decision.shouldFallback = decision.targetProvider.isSome ∧
      ∀ target, decision.targetProvider = some target ↔ self.Offers primaryProvider 0 target := by
  obtain ⟨reason, metadata, hcreate⟩ := shouldFallback_of_fallbackable herror circuitState
  rw [hcreate]
  obtain ⟨target, hoffers, hdecision⟩ | ⟨hnone, hdecision⟩ :=
    self.createFallbackDecision_cases primaryProvider reason metadata
  · refine ⟨_, hdecision, rfl, fun target' => ?_⟩
    constructor
    · intro htarget
      rwa [← Option.some.inj htarget]
    · intro hoffers'
      exact congrArg some (hoffers.unique hoffers')
  · refine ⟨_, hdecision, rfl, fun target' => ?_⟩
    constructor
    · intro htarget
      cases htarget
    · intro hoffers
      exact absurd hoffers (hnone target')

/-- For others, and after irreversible effects, it declines, and says why. -/
theorem shouldFallback_of_not {errorType : String} {irreversibleEffectsExecuted : Bool}
    (h : irreversibleEffectsExecuted = true ∨ isErrorTypeFallbackable errorType = false)
    (self : FallbackHandler) (primaryProvider circuitState : String) :
    ∃ reason, self.shouldFallback primaryProvider errorType circuitState
        irreversibleEffectsExecuted =
      ({ shouldFallback := false, metadata := [("reason", reason)] }, self) := by
  unfold shouldFallback
  split_ifs with hirreversible herror
  · exact ⟨_, rfl⟩
  · exact ⟨_, rfl⟩
  all_goals
    rcases h with h | h
    · exact absurd h hirreversible
    · simp [h] at herror

end

end FallbackHandler

end AgentRuntime
