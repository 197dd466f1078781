import AgentRuntime.Services.ProviderService

/-!
# The fallback service

`FallbackService.execute_with_fallback` (`app/application/services/fallback_service.py`): what is to
be done after a primary provider has failed, without its breaker. It consults the same handler as
`ProviderService`, and as often.
-/

namespace AgentRuntime

open Interaction

/-- The metrics of the fallback service. -/
structure FallbackMetrics where
  totalFallbackAttempts : Nat := 0
  successfulFallbacks : Nat := 0
  failedFallbacks : Nat := 0
  byReason : String → Nat := fun _ => 0
  byProvider : String → Nat := fun _ => 0

/-- `d[key] += 1`, from zero. -/
def incrementCount (key : String) (counts : String → Nat) : String → Nat :=
  Function.update counts key (counts key + 1)

/-- Service for managing fallback between providers. -/
structure FallbackService where
  registry : ProviderRegistry
  fallbackHandler : FallbackHandler
  fallbackMetrics : FallbackMetrics := {}

/-- The service, the providers that it sent requests to, and the decisions that it took. -/
structure FallbackSession where
  service : FallbackService
  requests : List String := []
  decisions : List FallbackDecision := []

namespace FallbackSession

/-- The fallback handler after one of its methods. -/
def withHandler (fallbackHandler : FallbackHandler) (session : FallbackSession) : FallbackSession :=
  { session with service := { session.service with fallbackHandler } }

/-- The metrics after an update. -/
def withMetrics (f : FallbackMetrics → FallbackMetrics) (session : FallbackSession) :
    FallbackSession :=
  { session with service := { session.service with fallbackMetrics := f session.service.fallbackMetrics } }

end FallbackSession

/-- A call of `execute_with_fallback`, and what each provider would answer to its request. -/
structure FallbackCall (Response : Type) where
  primaryProviderName : String
  errorType : String
  circuitState : String
  irreversibleEffectsExecuted : Bool := false
  answer : String → Except RaisedError Response

namespace FallbackService

variable {Response : Type}

/-- A method of the service that may raise. -/
abbrev Call := Method RaisedError FallbackSession

/-- Record a successful fallback. -/
def recordFallbackSuccess (primaryProvider reason : String) (metrics : FallbackMetrics) :
    FallbackMetrics :=
  { metrics with
    successfulFallbacks := metrics.successfulFallbacks + 1
    byReason := incrementCount reason metrics.byReason
    byProvider := incrementCount primaryProvider metrics.byProvider }

/-- Record a failed fallback. -/
def recordFallbackFailure (metrics : FallbackMetrics) : FallbackMetrics :=
  { metrics with failedFallbacks := metrics.failedFallbacks + 1 }

/-- `_fallback_handler.should_fallback(…)`. -/
def shouldFallback (call : FallbackCall Response) : Call FallbackDecision := do
  let session ← get
  let (decision, fallbackHandler) := session.service.fallbackHandler.shouldFallback
    call.primaryProviderName call.errorType call.circuitState call.irreversibleEffectsExecuted
  set { session.withHandler fallbackHandler with decisions := session.decisions ++ [decision] }
  pure decision

/-- `_fallback_handler.get_fallback_provider(…)`. -/
def getFallbackProvider (primaryProvider : String) : Call (Option String) := do
  let session ← get
  let (fallbackProvider, fallbackHandler) :=
    session.service.fallbackHandler.getFallbackProvider primaryProvider
  set (session.withHandler fallbackHandler)
  pure (nonempty? fallbackProvider)

/-- The failure is recorded, and raised. -/
def fail {α : Type} (message primaryProvider : String) : Call α := do
  modify (FallbackSession.withMetrics recordFallbackFailure)
  throw (providerUnavailableError message primaryProvider)

/-- The request is sent to the fallback provider, and how it ended recorded. -/
def execute (call : FallbackCall Response) (fallbackProvider reason : String) : Call Response :=
  tryCatch
    (do
      modify fun session => { session with requests := session.requests ++ [fallbackProvider] }
      let response ← Method.ofExcept (call.answer fallbackProvider)
      modify (FallbackSession.withMetrics (recordFallbackSuccess call.primaryProviderName reason))
      pure response)
    fun e => do
      if e.isException then
        modify (FallbackSession.withMetrics recordFallbackFailure)
        throw e
      else
        throw e

/-- The second half of `execute_with_fallback`: a provider is taken, checked and asked. -/
def attemptFallback (call : FallbackCall Response) (reason : String) : Call Response := do
  match ← getFallbackProvider call.primaryProviderName with
  | none => fail "No fallback provider available" call.primaryProviderName
  | some fallbackProviderName =>
    let session ← get
    if !session.service.fallbackHandler.validateProviderCompatibility call.primaryProviderName
        fallbackProviderName then
      fail s!"Fallback provider {fallbackProviderName} not compatible" call.primaryProviderName
    else
      match session.service.registry.getProvider fallbackProviderName with
      | none => fail s!"Fallback provider {fallbackProviderName} not found" call.primaryProviderName
      | some fallbackProvider => execute call fallbackProvider reason

/-- Execute request with fallback if primary provider fails. -/
def executeWithFallback (call : FallbackCall Response) : Call Response := do
  let decision ← shouldFallback call
  if !decision.shouldFallback then
    let reason := (decision.metadata.lookup "reason").getD "unknown"
    throw (providerUnavailableError s!"Fallback not allowed: {reason}" call.primaryProviderName)
  else
    modify (FallbackSession.withMetrics fun metrics =>
      { metrics with totalFallbackAttempts := metrics.totalFallbackAttempts + 1 })
    attemptFallback call decision.reason.value

/-! ## What a call does -/

/-- The handler's rotation offers the provider after `taken` more attempts, and it is registered. -/
def Available (service : FallbackService) (primaryProvider : String) (taken : Nat)
    (fallbackProvider : String) : Prop :=
  service.fallbackHandler.Offers primaryProvider taken fallbackProvider ∧
    fallbackProvider ∈ service.registry.providers

section
variable {call : FallbackCall Response} {session : FallbackSession}

/-- Every way in which no fallback answers counts a failed fallback, and raises. -/
@[simp] theorem fail_on {α : Type} (message primaryProvider : String) :
    (fail message primaryProvider : Call α).on session =
      (.error (providerUnavailableError message primaryProvider),
        session.withMetrics recordFallbackFailure) := rfl

/-- How a request to the fallback provider ends. -/
theorem execute_on (call : FallbackCall Response) (fallbackProvider reason : String)
    (session : FallbackSession) :
    ∃ f, (execute call fallbackProvider reason).on session = (call.answer fallbackProvider,
      { session.withMetrics f with requests := session.requests ++ [fallbackProvider] }) := by
  simp only [execute, Method.on_tryCatch, Method.on_bind, Method.on_modify, Method.on_ofExcept,
    Method.on_pure]
  cases call.answer fallbackProvider with
  | ok response => exact ⟨recordFallbackSuccess call.primaryProviderName reason, rfl⟩
  | error e =>
    simp only [Method.on_ite, Method.on_bind, Method.on_modify, Method.on_throw]
    split_ifs
    · exact ⟨recordFallbackFailure, rfl⟩
    · exact ⟨id, rfl⟩

/-- The request is sent to the provider that the rotation offers. -/
theorem attemptFallback_of_available {fallbackProvider : String}
    (h : session.service.Available call.primaryProviderName 0 fallbackProvider) (reason : String) :
    ∃ f, (attemptFallback call reason).on session = (call.answer fallbackProvider,
      { (session.withHandler (session.service.fallbackHandler.getFallbackProvider
          call.primaryProviderName).2).withMetrics f with
        requests := session.requests ++ [fallbackProvider] }) := by
  obtain ⟨hnext, hcompatible⟩ := FallbackHandler.offers_zero_iff.1 h.1
  have hregistered : session.service.registry.getProvider fallbackProvider = some fallbackProvider :=
    ProviderRegistry.getProvider_eq_some.2 ⟨h.2, rfl⟩
  obtain ⟨f, hon⟩ := execute_on call fallbackProvider reason (session.withHandler
    (session.service.fallbackHandler.getFallbackProvider call.primaryProviderName).2)
  refine ⟨f, ?_⟩
  simp only [attemptFallback, getFallbackProvider, Method.on_bind, Method.on_get, Method.on_set,
    Method.on_pure, hnext, FallbackSession.withHandler, hcompatible, Bool.not_true,
    Bool.false_eq_true, if_false, hregistered]
  exact hon

/-- If the rotation offers none that is registered, then the fallback fails. -/
theorem attemptFallback_of_not
    (h : ∀ fallbackProvider,
      ¬session.service.Available call.primaryProviderName 0 fallbackProvider) (reason : String) :
    ∃ e after, (attemptFallback call reason).on session = (.error e, after) := by
  simp only [attemptFallback, getFallbackProvider, Method.on_bind, Method.on_get, Method.on_set,
    Method.on_pure]
  cases hnext : nonempty?
      (session.service.fallbackHandler.getFallbackProvider call.primaryProviderName).1 with
  | none => exact ⟨_, _, rfl⟩
  | some fallbackProvider =>
    simp only [Method.on_bind, Method.on_get, Method.on_ite, FallbackSession.withHandler]
    split_ifs with hcompatible
    · exact ⟨_, _, rfl⟩
    · have hunregistered : session.service.registry.getProvider fallbackProvider = none :=
        ProviderRegistry.getProvider_eq_none_of_not_offered h hnext (by simpa using hcompatible)
      simp only [hunregistered]
      exact ⟨_, _, rfl⟩

/-- The session when a decision was taken for a fallback. -/
def decided (call : FallbackCall Response) (decision : FallbackDecision) (session : FallbackSession) :
    FallbackSession :=
  { (session.withHandler
        (session.service.fallbackHandler.getFallbackProvider call.primaryProviderName).2).withMetrics
      fun metrics => { metrics with totalFallbackAttempts := metrics.totalFallbackAttempts + 1 } with
    decisions := session.decisions ++ [decision] }

/-- A call for an error that allows a fallback takes a decision; if it is for a fallback then one is
attempted. -/
theorem executeWithFallback_on (hreversible : call.irreversibleEffectsExecuted = false)
    (herror : FallbackHandler.isErrorTypeFallbackable call.errorType = true)
    (session : FallbackSession) :
    ∃ decision : FallbackDecision,
      (∀ target, decision.targetProvider = some target ↔
        session.service.fallbackHandler.Offers call.primaryProviderName 0 target) ∧
      if decision.targetProvider.isSome then
        (executeWithFallback call).on session =
          (attemptFallback call decision.reason.value).on (decided call decision session)
      else ∃ e after, (executeWithFallback call).on session = (.error e, after) := by
  obtain ⟨decision, hdecision, hshould, htarget⟩ := FallbackHandler.shouldFallback_spec herror
    session.service.fallbackHandler call.primaryProviderName call.circuitState
  refine ⟨decision, htarget, ?_⟩
  have hon : (shouldFallback call).on session = (.ok decision,
      { session.withHandler
          (session.service.fallbackHandler.getFallbackProvider call.primaryProviderName).2 with
        decisions := session.decisions ++ [decision] }) := by
    simp only [shouldFallback, Method.on_bind, Method.on_get, Method.on_set, Method.on_pure,
      hreversible, hdecision]
  rw [← hshould, executeWithFallback, Method.on_bind, hon]
  cases hfallback : decision.shouldFallback with
  | false =>
    simp only [hfallback, Bool.not_false, if_true, Method.on_throw]
    exact ⟨_, _, rfl⟩
  | true =>
    simp only [hfallback, Bool.not_true, Bool.false_eq_true, if_false, if_true, Method.on_bind,
      Method.on_modify]
    rfl

/-- After irreversible effects a call is an error. -/
theorem executeWithFallback_of_irreversible
    (hirreversible : call.irreversibleEffectsExecuted = true) (session : FallbackSession) :
    ∃ e after, (executeWithFallback call).on session = (.error e, after) := by
  have hdeclines : call.irreversibleEffectsExecuted = true ∨
    FallbackHandler.isErrorTypeFallbackable call.errorType = false := .inl hirreversible
  obtain ⟨reason, hdecision⟩ := FallbackHandler.shouldFallback_of_not hdeclines
    session.service.fallbackHandler call.primaryProviderName call.circuitState
  simp only [executeWithFallback, shouldFallback, Method.on_bind, Method.on_get, Method.on_set,
    Method.on_pure, hdecision]
  exact ⟨_, _, rfl⟩

end

end FallbackService

end AgentRuntime
