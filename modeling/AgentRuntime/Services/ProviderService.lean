import AgentRuntime.Interaction.Method
import AgentRuntime.Providers.CircuitBreaker
import AgentRuntime.Providers.Fallback

/-!
# The provider service

`ProviderService.complete` (`app/application/services/provider_service.py`) and what it calls. A
provider is its name, which is what it is registered under, and answers a request or raises. The
session keeps, beside the service, the requests that were sent to providers and the decisions that
were taken; `complete_cases` says what a call can do to it.
-/

namespace AgentRuntime

open Interaction

/-- The provider exceptions (`app/domain/providers/exceptions.py`), by their class. -/
inductive ProviderErrorKind where
  | error
  | unavailable
  | timeout
  | rateLimit
  | authentication
  | validation
  | configuration
  deriving DecidableEq, Repr

/-- What a call raises. `exception` is any other subclass of `Exception`; `interruption` is a
`BaseException` that is not one, such as the cancellation of the task. -/
inductive RaisedError where
  | provider (kind : ProviderErrorKind) (message provider : String)
  | valueError (message : String)
  | exception (message : String)
  | interruption (message : String)
  deriving DecidableEq, Repr

/-- `except Exception` catches it. -/
def RaisedError.isException : RaisedError → Bool
  | interruption _ => false
  | _ => true

/-- `ProviderUnavailableError(message, provider)`. -/
def providerUnavailableError (message provider : String) : RaisedError :=
  .provider .unavailable message provider

/-- Classify error for fallback decision. -/
def classifyError : RaisedError → String
  | .provider .timeout _ _ => "timeout"
  | .provider .rateLimit _ _ => "rate_limit"
  | .provider .authentication _ _ => "auth_error"
  | .provider .validation _ _ => "validation_error"
  | _ => "server_error"

/-- The providers that are registered, by name. -/
structure ProviderRegistry where
  providers : List String := []

/-- Get a provider by name. -/
def ProviderRegistry.getProvider (self : ProviderRegistry) (providerName : String) : Option String :=
  if providerName ∈ self.providers then some providerName else none

/-- A provider is found under its own name, if it is registered. -/
theorem ProviderRegistry.getProvider_eq_some {self : ProviderRegistry} {providerName provider : String} :
    self.getProvider providerName = some provider ↔
      providerName ∈ self.providers ∧ providerName = provider := by
  simp [getProvider]

/-- Where the rotation offers no provider that is registered, the next one is not found. -/
theorem ProviderRegistry.getProvider_eq_none_of_not_offered {self : ProviderRegistry}
    {handler : FallbackHandler} {primaryProvider fallbackProvider : String}
    (h : ∀ target, ¬(handler.Offers primaryProvider 0 target ∧ target ∈ self.providers))
    (hnext : nonempty? (handler.getFallbackProvider primaryProvider).1 = some fallbackProvider)
    (hcompatible : (handler.getFallbackProvider primaryProvider).2.validateProviderCompatibility
      primaryProvider fallbackProvider = true) : self.getProvider fallbackProvider = none := by
  by_contra hsome
  obtain ⟨provider, hprovider⟩ := Option.ne_none_iff_exists'.1 hsome
  exact h fallbackProvider ⟨FallbackHandler.offers_zero_iff.2 ⟨hnext, hcompatible⟩,
    (getProvider_eq_some.1 hprovider).1⟩

/-- Service for orchestrating provider calls with resilience features. -/
structure ProviderService where
  registry : ProviderRegistry
  fallbackConfig : FallbackConfig
  fallbackHandler : FallbackHandler
  circuitBreakers : String → Option CircuitBreaker := fun _ => none

/-- Something that the service did: it sent a request to a provider, whose breaker was in this state
at this time, or took a decision. -/
inductive ProviderEvent where
  | requested (provider : String) (circuitBreaker : Option CircuitBreaker) (now : Rat)
  | decided (decision : FallbackDecision)

/-- The service, and what it did. -/
structure ProviderSession where
  service : ProviderService
  events : List ProviderEvent := []

namespace ProviderSession

/-- The fallback handler after one of its methods. -/
def withHandler (fallbackHandler : FallbackHandler) (session : ProviderSession) : ProviderSession :=
  { session with service := { session.service with fallbackHandler } }

/-- A method of the provider's breaker, if it has one. -/
def withBreaker (provider : String) (f : CircuitBreaker → CircuitBreaker)
    (session : ProviderSession) : ProviderSession :=
  { session with
    service := { session.service with
      circuitBreakers := Function.update session.service.circuitBreakers provider
        ((session.service.circuitBreakers provider).map f) } }

/-- One more event. -/
def did (event : ProviderEvent) (session : ProviderSession) : ProviderSession :=
  { session with events := session.events ++ [event] }

end ProviderSession

/-- A call of `complete`, when the provider is asked and when it has answered, and what each provider
would answer to its request. -/
structure CompletionCall (Response : Type) where
  providerName : Option String := none
  enableFallback : Bool := true
  askedAt : Rat
  answeredAt : Rat
  answer : String → Except RaisedError Response

namespace ProviderService

variable {Response : Type}

/-- A method of the service that may raise. -/
abbrev Call := Method RaisedError ProviderSession

/-- The provider that the request is for: the one that is named, or the primary one. -/
def selectProvider (providerName : Option String) : Call String := do
  let session ← get
  match nonempty? providerName with
  | some providerName =>
    match session.service.registry.getProvider providerName with
    | some provider => pure provider
    | none => throw (.valueError s!"Provider {providerName} not found")
  | none =>
    match session.service.registry.getProvider session.service.fallbackConfig.primaryProvider with
    | some provider => pure provider
    | none => throw (.valueError "No provider available")

/-- `circuit_breaker and not circuit_breaker.can_execute()`, negated. -/
def canExecute (providerName : String) (now : Rat) : Call Bool := do
  let session ← get
  set (session.withBreaker providerName fun breaker => (breaker.canExecute now).2)
  pure (((session.service.circuitBreakers providerName).map fun breaker =>
    (breaker.canExecute now).1).getD true)

/-- The request is sent to the provider. -/
def request (call : CompletionCall Response) (providerName : String) (now : Rat) : Call Response := do
  modify fun session =>
    session.did (.requested providerName (session.service.circuitBreakers providerName) now)
  Method.ofExcept (call.answer providerName)

/-- Get the next fallback provider. -/
def getFallbackProvider (primaryProvider : String) : Call (Option String) := do
  let session ← get
  let (fallbackProvider, fallbackHandler) :=
    session.service.fallbackHandler.getFallbackProvider primaryProvider
  set (session.withHandler fallbackHandler)
  pure (nonempty? fallbackProvider)

/-- Attempt fallback to alternative provider. -/
def attemptFallback (call : CompletionCall Response) (primaryProvider : String) (now : Rat) :
    Call Response := do
  match ← getFallbackProvider primaryProvider with
  | none =>
    throw (providerUnavailableError s!"No fallback provider available for {primaryProvider}"
      primaryProvider)
  | some fallbackProviderName =>
    let session ← get
    if !session.service.fallbackHandler.validateProviderCompatibility primaryProvider
        fallbackProviderName then
      throw (providerUnavailableError
        s!"Fallback provider {fallbackProviderName} not compatible with {primaryProvider}"
        primaryProvider)
    else
      match session.service.registry.getProvider fallbackProviderName with
      | none =>
        throw (providerUnavailableError s!"Fallback provider {fallbackProviderName} not found"
          primaryProvider)
      | some fallbackProvider => request call fallbackProvider now

/-- `should_fallback`, with the state of the breaker after the failure. -/
def shouldFallback (primaryProvider errorType : String) : Call FallbackDecision := do
  let session ← get
  let circuitState := ((session.service.circuitBreakers primaryProvider).map fun breaker =>
    breaker.state.value).getD "closed"
  let (decision, fallbackHandler) :=
    session.service.fallbackHandler.shouldFallback primaryProvider errorType circuitState false
  set ((session.withHandler fallbackHandler).did (ProviderEvent.decided decision))
  pure decision

/-- The handler of `except Exception` in `complete`. -/
def recordFailure (call : CompletionCall Response) (providerName : String) (e : RaisedError) :
    Call Response := do
  if e.isException then
    modify (ProviderSession.withBreaker providerName (CircuitBreaker.recordFailure call.answeredAt))
    if call.enableFallback then
      let decision ← shouldFallback providerName (classifyError e)
      if decision.shouldFallback then
        attemptFallback call providerName call.answeredAt
      else
        throw e
    else
      throw e
  else
    throw e

/-- Execute a model completion with resilience features. -/
def complete (call : CompletionCall Response) : Call Response := do
  let providerName ← selectProvider call.providerName
  let admitted ← canExecute providerName call.askedAt
  if !admitted then
    if call.enableFallback then
      attemptFallback call providerName call.askedAt
    else
      throw (providerUnavailableError s!"Circuit breaker open for provider {providerName}"
        providerName)
  else
    tryCatch
      (do
        let response ← request call providerName call.askedAt
        modify (ProviderSession.withBreaker providerName
          (CircuitBreaker.recordSuccess call.answeredAt))
        pure response)
      (recordFailure call providerName)

/-! ## What a call does -/

/-- The provider that a request is for. -/
def selected? (service : ProviderService) (providerName : Option String) : Option String :=
  service.registry.getProvider
    ((nonempty? providerName).getD service.fallbackConfig.primaryProvider)

/-- Selecting a provider gives the one that was asked for or the default, or raises, and changes nothing. -/
theorem selectProvider_on (providerName : Option String) (session : ProviderSession) :
    (∃ provider, session.service.selected? providerName = some provider ∧
      (selectProvider providerName).on session = (.ok provider, session)) ∨
    session.service.selected? providerName = none ∧
      ∃ e, (selectProvider providerName).on session = (.error e, session) := by
  unfold selectProvider selected?
  rw [Method.on_bind, Method.on_get]
  cases hname : nonempty? providerName with
  | none =>
    simp only [Option.getD_none]
    cases session.service.registry.getProvider session.service.fallbackConfig.primaryProvider with
    | none => exact .inr ⟨rfl, _, rfl⟩
    | some provider => exact .inl ⟨provider, rfl, rfl⟩
  | some name =>
    simp only [Option.getD_some]
    cases session.service.registry.getProvider name with
    | none => exact .inr ⟨rfl, _, rfl⟩
    | some provider => exact .inl ⟨provider, rfl, rfl⟩

/-- The provider has no breaker, or its breaker admits a request. -/
def admits (service : ProviderService) (provider : String) (now : Rat) : Bool :=
  ((service.circuitBreakers provider).map fun breaker => (breaker.canExecute now).1).getD true

/-- The handler's rotation offers the provider after `taken` more attempts, and it is registered. -/
def Available (service : ProviderService) (primaryProvider : String) (taken : Nat)
    (fallbackProvider : String) : Prop :=
  service.fallbackHandler.Offers primaryProvider taken fallbackProvider ∧
    fallbackProvider ∈ service.registry.providers

section
variable {call : CompletionCall Response} {session : ProviderSession} {primaryProvider : String}
  {now : Rat}

/-- The breaker of a provider admits the call or not, and may move to HALF_OPEN. -/
@[simp] theorem canExecute_on (provider : String) :
    (canExecute provider now).on session =
      (.ok (session.service.admits provider now),
        session.withBreaker provider fun breaker => (breaker.canExecute now).2) := rfl

/-- A request has the answer of its provider, and is noted. -/
@[simp] theorem request_on (provider : String) :
    (request call provider now).on session =
      (call.answer provider,
        session.did (.requested provider (session.service.circuitBreakers provider) now)) := by
  simp [request]

/-- A fallback is sent to the provider that the rotation offers. -/
theorem attemptFallback_of_available {fallbackProvider : String}
    (h : session.service.Available primaryProvider 0 fallbackProvider)
    (call : CompletionCall Response) (now : Rat) :
    (attemptFallback call primaryProvider now).on session =
      (call.answer fallbackProvider,
        (session.withHandler (session.service.fallbackHandler.getFallbackProvider primaryProvider).2).did
          (.requested fallbackProvider (session.service.circuitBreakers fallbackProvider) now)) := by
  obtain ⟨hnext, hcompatible⟩ := FallbackHandler.offers_zero_iff.1 h.1
  have hregistered : session.service.registry.getProvider fallbackProvider = some fallbackProvider :=
    ProviderRegistry.getProvider_eq_some.2 ⟨h.2, rfl⟩
  simp [attemptFallback, getFallbackProvider, hnext, ProviderSession.withHandler, hcompatible,
    hregistered]

/-- If it offers none that is registered, then the fallback fails. -/
theorem attemptFallback_of_not
    (h : ∀ fallbackProvider, ¬session.service.Available primaryProvider 0 fallbackProvider)
    (call : CompletionCall Response) (now : Rat) :
    ∃ e, (attemptFallback call primaryProvider now).on session = (.error e,
      session.withHandler
        (session.service.fallbackHandler.getFallbackProvider primaryProvider).2) := by
  simp only [attemptFallback, getFallbackProvider, Method.on_bind, Method.on_get, Method.on_set,
    Method.on_pure]
  cases hnext : nonempty?
      (session.service.fallbackHandler.getFallbackProvider primaryProvider).1 with
  | none => exact ⟨_, rfl⟩
  | some fallbackProvider =>
    simp only [Method.on_bind, Method.on_get, Method.on_ite, ProviderSession.withHandler]
    split_ifs with hcompatible
    · exact ⟨_, rfl⟩
    · have hunregistered : session.service.registry.getProvider fallbackProvider = none :=
        ProviderRegistry.getProvider_eq_none_of_not_offered h hnext (by simpa using hcompatible)
      simp only [hunregistered]
      exact ⟨_, rfl⟩

/-- A call whose provider is found: it is sent there if the breaker admits it. -/
theorem complete_on (session : ProviderSession) {provider : String}
    (hselected : session.service.selected? call.providerName = some provider) :
    (complete call).on session =
      let asked := session.withBreaker provider fun breaker => (breaker.canExecute call.askedAt).2
      if session.service.admits provider call.askedAt then
        let sent := asked.did
          (.requested provider (asked.service.circuitBreakers provider) call.askedAt)
        match call.answer provider with
        | .ok response =>
          (.ok response, sent.withBreaker provider (CircuitBreaker.recordSuccess call.answeredAt))
        | .error e => (recordFailure call provider e).on sent
      else if call.enableFallback then (attemptFallback call provider call.askedAt).on asked
      else
        (.error (providerUnavailableError s!"Circuit breaker open for provider {provider}" provider),
          asked) := by
  obtain ⟨provider', hselected', hon⟩ | ⟨hnone, -⟩ := selectProvider_on call.providerName session
  · obtain rfl := Option.some.inj (hselected.symm.trans hselected')
    simp only [complete, Method.on_bind, hon, canExecute_on, Method.on_ite, Method.on_tryCatch,
      request_on]
    cases hadmits : session.service.admits provider call.askedAt with
    | true =>
      simp only [Bool.not_true, Bool.false_eq_true, if_false, if_true]
      cases call.answer provider <;> rfl
    | false =>
      simp only [Bool.not_false, Bool.false_eq_true, if_false, if_true]
      rfl
  · cases hselected.symm.trans hnone

/-- An interruption is not a failure: nothing is recorded. -/
theorem recordFailure_of_interruption {e : RaisedError} (h : e.isException = false)
    (call : CompletionCall Response) (provider : String) (session : ProviderSession) :
    (recordFailure call provider e).on session = (.error e, session) := by
  simp [recordFailure, h]

/-- A failure that allows no fallback is recorded; a decision may be taken, and declines. -/
theorem recordFailure_declines {e : RaisedError} (hexception : e.isException = true)
    (h : call.enableFallback = false ∨
      FallbackHandler.isErrorTypeFallbackable (classifyError e) = false) (session : ProviderSession)
    (provider : String) :
    (recordFailure call provider e).on session = (.error e,
        session.withBreaker provider (CircuitBreaker.recordFailure call.answeredAt)) ∨
      ∃ fallbackHandler decision, (recordFailure call provider e).on session = (.error e,
        ((session.withBreaker provider
          (CircuitBreaker.recordFailure call.answeredAt)).withHandler fallbackHandler).did
            (.decided decision)) := by
  rw [recordFailure, if_pos hexception, Method.on_bind, Method.on_modify]
  cases hfallback : call.enableFallback with
  | false => exact .inl (by simp)
  | true =>
    have herror := h.resolve_left (by simp [hfallback])
    let failed := session.withBreaker provider (CircuitBreaker.recordFailure call.answeredAt)
    have hdeclines : false = true ∨
      FallbackHandler.isErrorTypeFallbackable (classifyError e) = false := .inr herror
    obtain ⟨reason, hdecision⟩ := FallbackHandler.shouldFallback_of_not hdeclines
      failed.service.fallbackHandler provider
      (((failed.service.circuitBreakers provider).map fun breaker => breaker.state.value).getD
        "closed")
    refine .inr ⟨failed.service.fallbackHandler,
      { shouldFallback := false, metadata := [("reason", reason)] }, ?_⟩
    simp only [if_true, Method.on_bind, shouldFallback, Method.on_get, Method.on_set, Method.on_pure]
    simp only [failed] at hdecision
    rw [hdecision]
    simp only [Bool.false_eq_true, if_false, Method.on_throw]
    rfl

/-- A failure that allows a fallback is recorded, a decision is taken, and if it is for a fallback then
one is attempted. -/
theorem recordFailure_on {e : RaisedError} (hexception : e.isException = true)
    (hfallback : call.enableFallback = true)
    (hfallbackable : FallbackHandler.isErrorTypeFallbackable (classifyError e) = true)
    (session : ProviderSession) (provider : String) :
    ∃ decision : FallbackDecision,
      (∀ target, decision.targetProvider = some target ↔
        session.service.fallbackHandler.Offers provider 0 target) ∧
      (recordFailure call provider e).on session =
        let decided := ((session.withBreaker provider
            (CircuitBreaker.recordFailure call.answeredAt)).withHandler
              (session.service.fallbackHandler.getFallbackProvider provider).2).did
          (.decided decision)
        if decision.targetProvider.isSome then
          (attemptFallback call provider call.answeredAt).on decided
        else (.error e, decided) := by
  let failed := session.withBreaker provider (CircuitBreaker.recordFailure call.answeredAt)
  obtain ⟨decision, hdecision, hshould, htarget⟩ :=
    FallbackHandler.shouldFallback_spec hfallbackable session.service.fallbackHandler provider
      (((failed.service.circuitBreakers provider).map fun breaker => breaker.state.value).getD
        "closed")
  have hdecided : (shouldFallback provider (classifyError e)).on failed =
      (.ok decision, (failed.withHandler
        (session.service.fallbackHandler.getFallbackProvider provider).2).did (.decided decision)) := by
    simp only [shouldFallback, Method.on_bind, Method.on_get, Method.on_set, Method.on_pure]
    simp only [failed, ProviderSession.withBreaker] at hdecision ⊢
    rw [hdecision]
  refine ⟨decision, htarget, ?_⟩
  rw [recordFailure, if_pos hexception, Method.on_bind, Method.on_modify, if_pos hfallback]
  simp only [Method.on_bind]
  rw [hdecided]
  simp only [hshould, Method.on_ite, Method.on_throw, failed]

/-! ## What every call keeps -/

/-- The session's parts change one at a time: the handler, a breaker, the events. -/
structure KeptByParts (I : ProviderSession → Prop) : Prop where
  withHandler : ∀ session fallbackHandler, I session → I (session.withHandler fallbackHandler)
  withBreaker : ∀ session provider f, I session → I (session.withBreaker provider f)
  did : ∀ session event, I session → I (session.did event)

section
variable {I : ProviderSession → Prop}

/-- A request keeps what its parts keep. -/
theorem KeptByParts.request (h : KeptByParts I) (provider : String) :
    (request call provider now).Keeps I := by
  intro session hsession
  rw [request_on]
  exact h.did _ _ hsession

/-- So does an attempt at a fallback. -/
theorem KeptByParts.attemptFallback (h : KeptByParts I) (primaryProvider : String) :
    (attemptFallback call primaryProvider now).Keeps I := by
  intro session hsession
  by_cases havailable : ∃ fallbackProvider,
      session.service.Available primaryProvider 0 fallbackProvider
  · obtain ⟨fallbackProvider, hfallback⟩ := havailable
    rw [attemptFallback_of_available hfallback]
    exact h.did _ _ (h.withHandler _ _ hsession)
  · obtain ⟨e, hon⟩ := attemptFallback_of_not (fun p hp => havailable ⟨p, hp⟩) call now
    rw [hon]
    exact h.withHandler _ _ hsession

/-- So does what follows a failed request. -/
theorem KeptByParts.recordFailure (h : KeptByParts I) (provider : String) (e : RaisedError) :
    (recordFailure call provider e).Keeps I := by
  unfold ProviderService.recordFailure
  refine Method.keeps_ite (fun _ => ?_) fun _ => Method.keeps_throw e
  refine Method.keeps_bind ((Method.keeps_modify _).2 fun s hs => h.withBreaker s _ _ hs) fun _ => ?_
  refine Method.keeps_ite (fun _ => ?_) fun _ => Method.keeps_throw e
  have hdecision : (shouldFallback provider (classifyError e)).Keeps I :=
    fun s hs => h.did _ _ (h.withHandler s _ hs)
  refine Method.keeps_bind hdecision fun decision => ?_
  exact Method.keeps_ite (fun _ => h.attemptFallback provider) fun _ => Method.keeps_throw e

/-- What holds through a change of each part holds through a call. -/
theorem KeptByParts.complete (h : KeptByParts I) (call : CompletionCall Response) :
    (complete call).Keeps I := by
  have hselect : (selectProvider call.providerName).Keeps I := by
    intro session hsession
    obtain ⟨provider, -, hon⟩ | ⟨-, e, hon⟩ := selectProvider_on call.providerName session
    · rwa [hon]
    · rwa [hon]
  unfold ProviderService.complete
  refine Method.keeps_bind hselect fun provider => ?_
  refine Method.keeps_bind (fun s hs => h.withBreaker s _ _ hs) fun admitted => ?_
  refine Method.keeps_ite (fun _ => ?_) fun _ => ?_
  · exact Method.keeps_ite (fun _ => h.attemptFallback provider) fun _ => Method.keeps_throw _
  · refine Method.keeps_tryCatch ?_ (h.recordFailure provider)
    refine Method.keeps_bind (h.request provider) fun response => ?_
    refine Method.keeps_bind ((Method.keeps_modify _).2 fun s hs => h.withBreaker s _ _ hs) fun _ => ?_
    exact Method.keeps_pure response

end

end

end ProviderService

end AgentRuntime
