import AgentRuntime.Interaction.Noninterference
import AgentRuntime.Providers.BreakerInvariant
import AgentRuntime.Services.FallbackService
import AgentRuntime.Services.ProviderBreakers

/-!
# Observing the provider services

The status and query methods: `CircuitBreaker.get_status`, `ProviderService.get_circuit_breaker_status`,
`ProviderService.get_service_status` and `FallbackService.can_fallback`. A status asks the breaker
`can_execute`, which ends the recovery time of an open breaker, and a query asks `should_fallback`, which
takes an attempt of the rotation. `QuietCall` says when they do neither; then the requests get what they get
without the observers (`requests_unaffected`).
-/

namespace AgentRuntime

open Interaction

/-- What `get_service_status` returns of the registry's names, the breakers and the configuration. -/
structure ServiceStatus where
  providers : List String
  circuitBreakers : String → Option CircuitBreakerStatus
  fallbackConfig : FallbackConfig

namespace ProviderService

/-- Get circuit breaker status for a provider: `get_circuit_breaker_status`. -/
def getCircuitBreakerStatus (providerName : String) (now : Rat) : Call (Option CircuitBreakerStatus) := do
  let session ← get
  let circuitBreaker := session.service.circuitBreakers providerName
  set (session.withBreaker providerName fun breaker => (breaker.getStatus now).2)
  pure (circuitBreaker.map fun (breaker : CircuitBreaker) => (breaker.getStatus now).1)

/-- Get overall service status: `get_service_status`. `now name` is the time when the breaker of this name is
asked. -/
def getServiceStatus (now : String → Rat) : Call ServiceStatus := do
  let session ← get
  set { session with
    service := { session.service with
      circuitBreakers := fun name =>
        (session.service.circuitBreakers name).map fun (breaker : CircuitBreaker) =>
          (breaker.getStatus (now name)).2 } }
  pure { providers := session.service.registry.providers
         circuitBreakers := fun name =>
           (session.service.circuitBreakers name).map fun (breaker : CircuitBreaker) =>
             (breaker.getStatus (now name)).1
         fallbackConfig := session.service.fallbackConfig }

end ProviderService

/-- The arguments of `can_fallback`. -/
structure FallbackQuery where
  primaryProviderName : String
  errorType : String
  circuitState : String
  irreversibleEffectsExecuted : Bool := false

/-- Check if fallback is allowed: `can_fallback`. -/
def FallbackService.canFallback (query : FallbackQuery) : Call Bool := do
  let session ← get
  let (decision, fallbackHandler) := session.service.fallbackHandler.shouldFallback
    query.primaryProviderName query.errorType query.circuitState query.irreversibleEffectsExecuted
  set (session.withHandler fallbackHandler)
  pure decision.shouldFallback

/-- Both services. -/
structure ProviderServices where
  provider : ProviderSession
  fallback : FallbackSession

/-- A request to one of the services, or an observation. -/
inductive ProviderServicesCall (Response : Type) where
  | complete (call : CompletionCall Response)
  | executeWithFallback (call : FallbackCall Response)
  | getCircuitBreakerStatus (providerName : String) (now : Rat)
  | getServiceStatus (now : String → Rat)
  | canFallback (query : FallbackQuery)

/-- How a request ended: what it returned or raised, what was sent to which provider, and the decisions. -/
inductive RequestOutcome (Response : Type) where
  | completed (result : Except RaisedError Response) (events : List ProviderEvent)
  | fellBack (result : Except RaisedError Response) (requests : List String)
    (decisions : List FallbackDecision)
  | observed

namespace ProviderServicesCall

variable {Response : Type}

/-- The call is a request. -/
def IsRequest : ProviderServicesCall Response → Prop
  | complete _ | executeWithFallback _ => True
  | _ => False

instance : DecidablePred (@IsRequest Response)
  | complete _ | executeWithFallback _ => isTrue trivial
  | getCircuitBreakerStatus .. | getServiceStatus _ | canFallback _ => isFalse id

/-- What a call makes of the services. -/
def apply : ProviderServicesCall Response → ProviderServices → ProviderServices
  | complete call, self => { self with provider := ProviderService.serve call self.provider }
  | executeWithFallback call, self =>
    { self with
      fallback := ((FallbackService.executeWithFallback call).on
        { self.fallback with requests := [], decisions := [] }).2 }
  | getCircuitBreakerStatus providerName now, self =>
    { self with provider := ((ProviderService.getCircuitBreakerStatus providerName now).on self.provider).2 }
  | getServiceStatus now, self =>
    { self with provider := ((ProviderService.getServiceStatus now).on self.provider).2 }
  | canFallback query, self =>
    { self with fallback := ((FallbackService.canFallback query).on self.fallback).2 }

/-- How a request ends. -/
def outcome : ProviderServicesCall Response → ProviderServices → RequestOutcome Response
  | complete call, self =>
    let (result, session) := (ProviderService.complete call).on { self.provider with events := [] }
    .completed result session.events
  | executeWithFallback call, self =>
    let (result, session) := (FallbackService.executeWithFallback call).on
      { self.fallback with requests := [], decisions := [] }
    .fellBack result session.requests session.decisions
  | _, _ => .observed

end ProviderServicesCall

/-! ## When an observation changes nothing -/

/-- The breaker is open, and its recovery is due. -/
def CircuitBreaker.RecoveryDue (self : CircuitBreaker) (now : Rat) : Prop :=
  self.state = .opened ∧ self.shouldAttemptRecovery now = true

/-- The rotation has an attempt for the primary provider. -/
def FallbackHandler.HasAttempt (self : FallbackHandler) (primaryProvider : String) : Prop :=
  self.config.fallbackProviders ≠ [] ∧
    self.fallbackCount primaryProvider < self.config.maxFallbackAttempts

/-- An observation finds no breaker whose recovery is due, and takes no attempt. -/
def QuietCall {Response : Type} (self : ProviderServices) : ProviderServicesCall Response → Prop
  | .complete _ | .executeWithFallback _ => True
  | .getCircuitBreakerStatus providerName now =>
    ∀ breaker, self.provider.service.circuitBreakers providerName = some breaker → ¬breaker.RecoveryDue now
  | .getServiceStatus now =>
    ∀ name breaker, self.provider.service.circuitBreakers name = some breaker →
      ¬breaker.RecoveryDue (now name)
  | .canFallback query =>
    query.irreversibleEffectsExecuted = true ∨
      FallbackHandler.isErrorTypeFallbackable query.errorType = false ∨
      ¬self.fallback.service.fallbackHandler.HasAttempt query.primaryProviderName

/-- Asking a breaker changes it exactly if the recovery is due. -/
theorem CircuitBreaker.canExecute_snd_eq_self_iff {self : CircuitBreaker} {now : Rat} :
    (self.canExecute now).2 = self ↔ ¬self.RecoveryDue now := by
  unfold RecoveryDue
  cases hstate : self.state with
  | closed => simp [canExecute_of_closed now hstate]
  | halfOpen => simp [canExecute_of_halfOpen now hstate]
  | opened =>
    rw [canExecute_of_opened now hstate]
    cases self.shouldAttemptRecovery now with
    | false => simp
    | true =>
      simp only [if_true, true_and, not_true_eq_false, iff_false]
      intro heq
      cases hstate.symm.trans (congrArg CircuitBreaker.state heq).symm

/-- Asking for a fallback changes the handler exactly if an attempt is left, which it takes. -/
theorem FallbackHandler.getFallbackProvider_snd_eq_self_iff {self : FallbackHandler}
    {primaryProvider : String} :
    (self.getFallbackProvider primaryProvider).2 = self ↔ ¬self.HasAttempt primaryProvider := by
  unfold getFallbackProvider HasAttempt
  split_ifs with hempty hmax
  · simp [hempty]
  · simp [Nat.not_lt.2 hmax]
  · simp only [ne_eq, hempty, not_false_eq_true, Nat.lt_of_not_le hmax, and_self, not_true_eq_false,
      iff_false]
    intro heq
    have hcount := congrFun (congrArg FallbackHandler.fallbackCount heq) primaryProvider
    simp at hcount

/-- Asking whether to fall back changes it exactly if nothing else forbids the fallback and an
attempt is left. -/
theorem FallbackHandler.shouldFallback_snd_eq_self_iff {self : FallbackHandler}
    {primaryProvider errorType circuitState : String} {irreversibleEffectsExecuted : Bool} :
    (self.shouldFallback primaryProvider errorType circuitState irreversibleEffectsExecuted).2 = self ↔
      irreversibleEffectsExecuted = true ∨ isErrorTypeFallbackable errorType = false ∨
        ¬self.HasAttempt primaryProvider := by
  by_cases hnot : irreversibleEffectsExecuted = true ∨ isErrorTypeFallbackable errorType = false
  · obtain ⟨reason, hdecision⟩ := shouldFallback_of_not hnot self primaryProvider circuitState
    rw [hdecision]
    exact iff_of_true rfl (hnot.imp id .inl)
  · obtain ⟨hirreversible, hfallbackable⟩ := not_or.1 hnot
    rw [Bool.not_eq_true] at hirreversible
    rw [Bool.not_eq_false] at hfallbackable
    subst hirreversible
    obtain ⟨decision, hdecision, -⟩ := shouldFallback_spec hfallbackable self primaryProvider circuitState
    rw [hdecision, hfallbackable]
    exact getFallbackProvider_snd_eq_self_iff.trans (by simp)

/-- Asking the breakers changes nothing if no recovery is due. -/
theorem map_getStatus_eq_self_iff {breaker : Option CircuitBreaker} {now : Rat} :
    breaker.map (fun breaker => (breaker.getStatus now).2) = breaker ↔
      ∀ b, breaker = some b → ¬b.RecoveryDue now := by
  cases breaker with
  | none => simp
  | some breaker =>
    simp only [Option.map_some, Option.some.injEq, forall_eq']
    exact CircuitBreaker.canExecute_snd_eq_self_iff

/-- A change of a provider's breaker changes the service exactly if it changes that breaker. -/
theorem ProviderSession.withBreaker_eq_self_iff {session : ProviderSession} {provider : String}
    {f : CircuitBreaker → CircuitBreaker} : session.withBreaker provider f = session ↔
      (session.service.circuitBreakers provider).map f = session.service.circuitBreakers provider := by
  constructor
  · intro heq
    have hbreaker := congrFun (congrArg (fun s => s.service.circuitBreakers) heq) provider
    exact (Function.update_self provider _ session.service.circuitBreakers).symm.trans hbreaker
  · intro hmap
    rw [withBreaker, hmap, Function.update_eq_self]

/-- **An observation leaves the services as they are exactly if it is quiet.** -/
theorem apply_eq_self_iff {Response : Type} {a : ProviderServicesCall Response} (ha : ¬a.IsRequest)
    (self : ProviderServices) : a.apply self = self ↔ QuietCall self a := by
  obtain ⟨provider, fallback⟩ := self
  cases a with
  | complete call => exact absurd trivial ha
  | executeWithFallback call => exact absurd trivial ha
  | getCircuitBreakerStatus providerName now =>
    simp only [ProviderServicesCall.apply, QuietCall, ProviderServices.mk.injEq, and_true]
    exact ProviderSession.withBreaker_eq_self_iff.trans map_getStatus_eq_self_iff
  | getServiceStatus now =>
    obtain ⟨service, events⟩ := provider
    obtain ⟨registry, fallbackConfig, fallbackHandler, circuitBreakers⟩ := service
    simp only [ProviderServicesCall.apply, QuietCall, ProviderServices.mk.injEq, and_true,
      ProviderService.getServiceStatus, Method.on_bind, Method.on_get, Method.on_set, Method.on_pure,
      ProviderSession.mk.injEq, ProviderService.mk.injEq, true_and, funext_iff]
    exact forall_congr' fun name => map_getStatus_eq_self_iff
  | canFallback query =>
    obtain ⟨service, requests, decisions⟩ := fallback
    obtain ⟨registry, fallbackHandler, fallbackMetrics⟩ := service
    simp only [ProviderServicesCall.apply, QuietCall, ProviderServices.mk.injEq, true_and, and_true,
      FallbackService.canFallback, Method.on_bind, Method.on_get, Method.on_set, Method.on_pure,
      FallbackSession.withHandler, FallbackSession.mk.injEq, FallbackService.mk.injEq]
    exact FallbackHandler.shouldFallback_snd_eq_self_iff

/-! ## Runs -/

/-- **Requests are not affected by quiet observations**: by questions that move no open breaker to half open,
and that take no attempt of the rotation. Any other observation may be what the next request misses. -/
theorem requests_unaffected {Response : Type} {self : ProviderServices}
    {calls : List (ProviderServicesCall Response)}
    (hquiet : Along ProviderServicesCall.apply QuietCall self calls) :
    Unaffected ProviderServicesCall.apply ProviderServicesCall.outcome ProviderServicesCall.IsRequest
      (fun s s' => s = s') self calls := by
  refine unaffected rfl (fun a _ _ s s' hs => ?_) (hquiet.imp fun s a _ ha => ?_)
  · subst hs
    exact ⟨rfl, rfl⟩
  · rintro hobserves s' rfl
    exact (apply_eq_self_iff hobserves s).2 ha

/-- Both services for a provider with one other to fall back to. -/
def pairOfServices : ProviderServices where
  provider := ProviderService.pairOfProviders
  fallback :=
    { service :=
        { registry := ProviderService.pairOfProviders.service.registry
          fallbackHandler := ProviderService.pairOfProviders.service.fallbackHandler } }

/-- The primary provider timed out. -/
def timedOut : FallbackCall String where
  primaryProviderName := "primary"
  errorType := "timeout"
  circuitState := "closed"
  answer := fun _ => .ok "answer"

/-- The question whether an error is a reason for a fallback that is none. -/
def askOfAuthError : ProviderServicesCall String :=
  .canFallback { primaryProviderName := "primary", errorType := "auth_error", circuitState := "closed" }

/-- Questions that are answered without an attempt, before and between two requests, do not affect them. -/
theorem requests_unaffected_timedOut :
    Unaffected ProviderServicesCall.apply ProviderServicesCall.outcome ProviderServicesCall.IsRequest
      (fun s s' => s = s') pairOfServices
        [askOfAuthError, .executeWithFallback timedOut, askOfAuthError, .executeWithFallback timedOut] :=
  requests_unaffected ⟨.inr (.inl rfl), trivial, .inr (.inl rfl), trivial, trivial⟩

/-- The result of a request to the fallback service, if there is one. -/
def RequestOutcome.answered {Response : Type} : RequestOutcome Response → Bool
  | fellBack (.ok _) _ _ | completed (.ok _) _ => true
  | _ => false

/-- One question whether a fallback is allowed, and the request that follows gets none: the question has taken
the attempt. -/
theorem not_requests_unaffected : ¬∀ (self : ProviderServices) (calls : List (ProviderServicesCall String)),
    Unaffected ProviderServicesCall.apply ProviderServicesCall.outcome ProviderServicesCall.IsRequest
      (fun s s' => s = s') self calls := by
  intro h
  have houtputs := (h pairOfServices [.canFallback
    { primaryProviderName := "primary", errorType := "timeout", circuitState := "closed" },
    .executeWithFallback timedOut]).1
  exact absurd (congrArg (List.map RequestOutcome.answered) houtputs) (by decide)

end AgentRuntime
