import AgentRuntime.Interaction.History
import AgentRuntime.Services.ProviderService

/-!
# Requests and breakers

`complete` asks the breaker of the provider that it is called for, and records how the request ended.
`_attempt_fallback` does neither: it sends the request whatever state the fallback provider's breaker
is in, and records nothing. So all requests of a sequence of calls go through the breakers exactly if
no call falls back to a provider that has one, and none is interrupted (`throughBreakers_iff`).
-/

namespace AgentRuntime

open Interaction

namespace CircuitBreaker

/-- The results that the breaker has counted. -/
def recorded (self : CircuitBreaker) : Nat :=
  self.metrics.successfulRequests + self.metrics.failedRequests

/-- A success is one more result. -/
@[simp] theorem recorded_recordSuccess (now : Rat) (self : CircuitBreaker) :
    (self.recordSuccess now).recorded = self.recorded + 1 := by
  have hmetrics := metrics_apply (.recordSuccess now) self
  simp only [BreakerCall.apply] at hmetrics
  simp only [recorded, hmetrics, counted, countSuccess, CircuitBreakerMetrics.succeeded]
  omega

/-- So is a failure. -/
@[simp] theorem recorded_recordFailure (now : Rat) (self : CircuitBreaker) :
    (self.recordFailure now).recorded = self.recorded + 1 := by
  have hmetrics := metrics_apply (.recordFailure now) self
  simp only [BreakerCall.apply] at hmetrics
  simp only [recorded, hmetrics, counted, countFailure, CircuitBreakerMetrics.failed]
  omega

/-- Asking a breaker is no result. -/
@[simp] theorem recorded_canExecute (now : Rat) (self : CircuitBreaker) :
    (self.canExecute now).2.recorded = self.recorded := by
  have hmetrics := metrics_apply (.canExecute now) self
  simp only [BreakerCall.apply] at hmetrics
  simp only [recorded, hmetrics, counted]

/-- The circuit is open, and the open timeout is not reached. -/
def Refuses (self : CircuitBreaker) (now : Rat) : Prop :=
  self.state = .opened ∧ self.shouldAttemptRecovery now = false

/-- A breaker that admits a request does not refuse it. -/
theorem not_refuses_of_admitted {self : CircuitBreaker} {now : Rat}
    (h : (self.canExecute now).1 = true) : ¬(self.canExecute now).2.Refuses now := by
  rintro ⟨hstate, hrecovery⟩
  cases hself : self.state with
  | closed =>
    rw [canExecute_of_closed now hself] at hstate
    cases hself.symm.trans hstate
  | opened =>
    rw [canExecute_of_opened now hself] at h hstate
    split at h
    · next hrecovers =>
      rw [if_pos hrecovers] at hstate
      cases hstate
    · cases h
  | halfOpen =>
    rw [canExecute_of_halfOpen now hself] at hstate
    cases hself.symm.trans hstate

end CircuitBreaker

namespace ProviderSession

/-- The results that the provider's breaker has counted, if it has one. -/
def recorded (session : ProviderSession) (provider : String) : Option Nat :=
  (session.service.circuitBreakers provider).map CircuitBreaker.recorded

/-- The number of requests that were sent to the provider. -/
def requestsTo (session : ProviderSession) (provider : String) : Nat :=
  session.events.countP fun
    | .requested provider' _ _ => provider' = provider
    | .decided _ => false

/-- The requests that `after` adds to a session without events went through the breakers: none was sent to
a provider whose breaker refuses, and each is recorded once where there is a breaker. -/
structure Through (before after : ProviderSession) : Prop where
  notRefused : ∀ provider breaker now,
    .requested provider (some breaker) now ∈ after.events → ¬breaker.Refuses now
  recordsOne : ∀ provider,
    after.recorded provider = (before.recorded provider).map (· + after.requestsTo provider)

section
variable {before after : ProviderSession} {provider : String}

/-- What a change adds to a breaker's results is added for its provider alone. -/
@[simp] theorem recorded_withBreaker {f : CircuitBreaker → CircuitBreaker} {n : Nat}
    (hf : ∀ breaker, (f breaker).recorded = breaker.recorded + n) (provider' : String) :
    (after.withBreaker provider f).recorded provider' =
      (after.recorded provider').map (· + if provider' = provider then n else 0) := by
  unfold recorded withBreaker
  by_cases hprovider : provider' = provider
  · subst hprovider
    simp [Function.update_self, Option.map_map, Function.comp_def, hf]
  · simp [hprovider, Function.comp_def]

/-- A change of a breaker is no request. -/
@[simp] theorem requestsTo_withBreaker (f : CircuitBreaker → CircuitBreaker) (provider' : String) :
    (after.withBreaker provider f).requestsTo provider' = after.requestsTo provider' := rfl

/-- A request counts for its provider. -/
@[simp] theorem requestsTo_did_requested (breaker : Option CircuitBreaker) (now : Rat)
    (provider' : String) : (after.did (.requested provider breaker now)).requestsTo provider' =
      after.requestsTo provider' + if provider' = provider then 1 else 0 := by
  simp [requestsTo, did, List.countP_append, List.countP_cons, eq_comm]

/-- A change makes no breaker, and removes none. -/
@[simp] theorem circuitBreakers_withBreaker_eq_none (f : CircuitBreaker → CircuitBreaker)
    (provider' : String) : (after.withBreaker provider f).service.circuitBreakers provider' = none ↔
      after.service.circuitBreakers provider' = none := by
  unfold withBreaker
  by_cases hprovider : provider' = provider
  · subst hprovider
    simp [Function.update_self]
  · simp [Function.update_of_ne hprovider]

/-- At the start of a call nothing has been sent. -/
theorem through_start (session : ProviderSession) : Through session { session with events := [] } := by
  refine ⟨by simp, fun provider => ?_⟩
  simp [requestsTo, recorded, Function.comp_def]

/-- A method of a breaker that records nothing does not matter. -/
theorem through_withBreaker {f : CircuitBreaker → CircuitBreaker}
    (hf : ∀ breaker, (f breaker).recorded = breaker.recorded) :
    Through before (after.withBreaker provider f) ↔ Through before after := by
  have hrecorded (provider' : String) : (after.withBreaker provider f).recorded provider' =
      after.recorded provider' := by
    rw [recorded_withBreaker (n := 0) hf]
    simp
  constructor
  · intro h
    exact ⟨h.notRefused, fun provider' => (hrecorded provider').symm.trans (h.recordsOne provider')⟩
  · intro h
    exact ⟨h.notRefused, fun provider' => (hrecorded provider').trans (h.recordsOne provider')⟩

/-- Nor does the fallback handler. -/
@[simp] theorem through_withHandler (fallbackHandler : FallbackHandler) :
    Through before (after.withHandler fallbackHandler) ↔ Through before after :=
  ⟨fun h => ⟨h.notRefused, h.recordsOne⟩, fun h => ⟨h.notRefused, h.recordsOne⟩⟩

/-- A decision sends nothing. -/
@[simp] theorem through_did_decided (decision : FallbackDecision) :
    Through before (after.did (.decided decision)) ↔ Through before after := by
  have hrequests (provider : String) :
      (after.did (.decided decision)).requestsTo provider = after.requestsTo provider := by
    simp [requestsTo, did, List.countP_append]
  constructor
  · intro h
    refine ⟨fun provider breaker now hmem => ?_, fun provider => ?_⟩
    · exact h.notRefused provider breaker now (List.mem_append_left _ hmem)
    · rw [← hrequests]
      exact h.recordsOne provider
  · intro h
    refine ⟨fun provider breaker now hmem => ?_, fun provider => ?_⟩
    · refine h.notRefused provider breaker now ?_
      simpa [did] using hmem
    · rw [hrequests]
      exact h.recordsOne provider

/-- A request that is not recorded goes through the breakers only if there is none. -/
theorem through_did_requested (h : Through before after) (now : Rat) :
    Through before (after.did (.requested provider (after.service.circuitBreakers provider) now)) ↔
      after.service.circuitBreakers provider = none := by
  constructor
  · intro h'
    by_contra hsome
    obtain ⟨breaker, hbreaker⟩ := Option.ne_none_iff_exists'.1 hsome
    have hbefore := h.recordsOne provider
    have hafter := h'.recordsOne provider
    have hrecorded : after.recorded provider = some breaker.recorded := by
      simp [recorded, hbreaker]
    change after.recorded provider = _ at hafter
    rw [requestsTo_did_requested, if_pos rfl] at hafter
    rw [hrecorded] at hbefore hafter
    obtain ⟨n, hn, hcount⟩ := Option.map_eq_some_iff.1 hbefore.symm
    obtain ⟨m, hm, hcount'⟩ := Option.map_eq_some_iff.1 hafter.symm
    have hnm : n = m := Option.some.inj (hn.symm.trans hm)
    omega
  · intro hnone
    refine ⟨fun provider' breaker now' hmem => ?_, fun provider' => ?_⟩
    · refine h.notRefused provider' breaker now' ?_
      simpa [did, hnone] using hmem
    · change after.recorded provider' = _
      rw [requestsTo_did_requested]
      by_cases hprovider : provider' = provider
      · have hbefore := h.recordsOne provider
        have hrecorded : after.recorded provider = none := by simp [recorded, hnone]
        subst hprovider
        rw [hrecorded] at hbefore ⊢
        rw [Option.map_eq_none_iff.1 hbefore.symm]
        rfl
      · rw [if_neg hprovider]
        exact h.recordsOne provider'

/-- A request that is admitted and recorded once goes through the breakers. -/
theorem Through.request (h : Through before after) {now : Rat}
    {f : CircuitBreaker → CircuitBreaker}
    (hadmitted : ∀ breaker, after.service.circuitBreakers provider = some breaker →
      ¬breaker.Refuses now)
    (hf : ∀ breaker, (f breaker).recorded = breaker.recorded + 1) :
    Through before ((after.did
      (.requested provider (after.service.circuitBreakers provider) now)).withBreaker provider f) := by
  refine ⟨fun provider' breaker now' hmem => ?_, fun provider' => ?_⟩
  · obtain hmem | hmem := List.mem_append.1 hmem
    · exact h.notRefused provider' breaker now' hmem
    · obtain ⟨rfl, hbreaker, rfl⟩ := ProviderEvent.requested.inj (List.mem_singleton.1 hmem)
      exact hadmitted breaker hbreaker.symm
  · rw [recorded_withBreaker hf, requestsTo_withBreaker, requestsTo_did_requested]
    change (after.recorded provider').map _ = _
    rw [h.recordsOne provider', Option.map_map]
    simp only [Function.comp_def, Nat.add_assoc]

end

end ProviderSession

namespace ProviderService

variable {Response : Type}

/-- A call, whatever way it ends, with the events of this call. -/
def serve (call : CompletionCall Response) (session : ProviderSession) : ProviderSession :=
  ((complete call).on { session with events := [] }).2

/-- Every request of the call goes through the breaker of the provider that it is sent to. -/
def ThroughBreakers (session : ProviderSession) (call : CompletionCall Response) : Prop :=
  ProviderSession.Through session (serve call session)

/-- The call sends its request to the fallback provider: the breaker of its provider refuses, or the
provider fails in a way that allows a fallback, and the rotation offers the fallback provider, in the
second case after the attempt for the decision. -/
def SendsFallback (service : ProviderService) (call : CompletionCall Response)
    (fallbackProvider : String) : Prop :=
  call.enableFallback = true ∧ ∃ primaryProvider,
    service.selected? call.providerName = some primaryProvider ∧
    if service.admits primaryProvider call.askedAt then
      ∃ e target, call.answer primaryProvider = .error e ∧ e.isException = true ∧
        FallbackHandler.isErrorTypeFallbackable (classifyError e) = true ∧
        service.fallbackHandler.Offers primaryProvider 0 target ∧
        service.Available primaryProvider 1 fallbackProvider
    else service.Available primaryProvider 0 fallbackProvider

/-- The call falls back only to providers without a breaker, and a request to a provider with one is not
interrupted. -/
structure BypassesNoBreaker (session : ProviderSession) (call : CompletionCall Response) : Prop where
  fallback : ∀ fallbackProvider, SendsFallback session.service call fallbackProvider →
    session.service.circuitBreakers fallbackProvider = none
  interruption : ∀ provider e, session.service.selected? call.providerName = some provider →
    session.service.admits provider call.askedAt = true → call.answer provider = .error e →
    e.isException = false → session.service.circuitBreakers provider = none

section
variable {session : ProviderSession} {call : CompletionCall Response}

/-- A fallback goes through the breakers if the provider that is offered, if any, has none. -/
theorem through_attemptFallback {before : ProviderSession} (h : before.Through session)
    (primaryProvider : String) (now : Rat) :
    before.Through ((attemptFallback call primaryProvider now).on session).2 ↔
      ∀ fallbackProvider, session.service.Available primaryProvider 0 fallbackProvider →
        session.service.circuitBreakers fallbackProvider = none := by
  by_cases havailable : ∃ fallbackProvider,
      session.service.Available primaryProvider 0 fallbackProvider
  · obtain ⟨fallbackProvider, hfallback⟩ := havailable
    rw [attemptFallback_of_available hfallback]
    have hthrough : before.Through (session.withHandler
        (session.service.fallbackHandler.getFallbackProvider primaryProvider).2) :=
      (ProviderSession.through_withHandler _).2 h
    refine (ProviderSession.through_did_requested hthrough now).trans ?_
    constructor
    · intro hnone fallbackProvider' hfallback'
      rw [hfallback'.1.unique hfallback.1]
      exact hnone
    · intro hnone
      exact hnone fallbackProvider hfallback
  · have hnot (fallbackProvider : String) :
        ¬session.service.Available primaryProvider 0 fallbackProvider :=
      fun hfallback => havailable ⟨fallbackProvider, hfallback⟩
    obtain ⟨e, hon⟩ := attemptFallback_of_not hnot call now
    rw [hon, ProviderSession.through_withHandler]
    exact iff_of_true h fun fallbackProvider hfallback => absurd hfallback (hnot fallbackProvider)

/-- What a failure of the provider leads to goes through the breakers, if the request itself does. -/
theorem through_recordFailure {before : ProviderSession} {e : RaisedError} {provider : String}
    (hexception : e.isException = true)
    (h : before.Through (session.withBreaker provider
      (CircuitBreaker.recordFailure call.answeredAt))) :
    before.Through ((recordFailure call provider e).on session).2 ↔
      ∀ fallbackProvider, call.enableFallback = true →
        FallbackHandler.isErrorTypeFallbackable (classifyError e) = true →
        (∃ target, session.service.fallbackHandler.Offers provider 0 target) →
        session.service.Available provider 1 fallbackProvider →
          session.service.circuitBreakers fallbackProvider = none := by
  by_cases hallowed : call.enableFallback = true ∧
      FallbackHandler.isErrorTypeFallbackable (classifyError e) = true
  · obtain ⟨decision, htarget, hon⟩ := recordFailure_on hexception hallowed.1 hallowed.2
      session provider
    rw [hon]
    cases hdecision : decision.targetProvider with
    | none =>
      refine iff_of_true (by simpa using h) fun fallbackProvider _ _ hoffers _ => ?_
      obtain ⟨target, hoffers⟩ := hoffers
      cases hdecision.symm.trans ((htarget target).2 hoffers)
    | some target =>
      have hoffers := (htarget target).1 hdecision
      simp only [Option.isSome_some, if_true]
      rw [through_attemptFallback (by simpa using h)]
      refine forall_congr' fun fallbackProvider => ?_
      have hnext := hoffers.next 0 fallbackProvider
      simp only [Available, ProviderSession.did, ProviderSession.withHandler, hnext, hallowed,
        true_implies, ProviderSession.circuitBreakers_withBreaker_eq_none]
      refine ⟨fun hnone _ => hnone, fun hnone => hnone ⟨target, hoffers⟩⟩
  · have hdeclines : call.enableFallback = false ∨
        FallbackHandler.isErrorTypeFallbackable (classifyError e) = false := by
      rwa [not_and_or, Bool.not_eq_true, Bool.not_eq_true] at hallowed
    refine iff_of_true ?_ fun _ hfallback herror => absurd ⟨hfallback, herror⟩ hallowed
    obtain hon | ⟨fallbackHandler, decision, hon⟩ :=
      recordFailure_declines hexception hdeclines session provider
    · rwa [hon]
    · simpa [hon] using h

/-- What a call that reaches its provider must not do. -/
theorem bypassesNoBreaker_of_admits {provider : String}
    (hselected : session.service.selected? call.providerName = some provider)
    (hadmits : session.service.admits provider call.askedAt = true) :
    BypassesNoBreaker session call ↔ ∀ e, call.answer provider = .error e →
      if e.isException then
        ∀ fallbackProvider, call.enableFallback = true →
          FallbackHandler.isErrorTypeFallbackable (classifyError e) = true →
          (∃ target, session.service.fallbackHandler.Offers provider 0 target) →
          session.service.Available provider 1 fallbackProvider →
            session.service.circuitBreakers fallbackProvider = none
      else session.service.circuitBreakers provider = none := by
  constructor
  · intro h e hanswer
    split
    · next hexception =>
      rintro fallbackProvider hfallback herror ⟨target, hoffers⟩ havailable
      refine h.fallback fallbackProvider ⟨hfallback, provider, hselected, ?_⟩
      rw [if_pos hadmits]
      exact ⟨e, target, hanswer, hexception, herror, hoffers, havailable⟩
    · next hexception =>
      exact h.interruption provider e hselected hadmits hanswer (Bool.eq_false_iff.2 hexception)
  · intro h
    constructor
    · rintro fallbackProvider ⟨hfallback, provider', hselected', hsent⟩
      obtain rfl := Option.some.inj (hselected.symm.trans hselected')
      rw [if_pos hadmits] at hsent
      obtain ⟨e, target, hanswer, hexception, herror, hoffers, havailable⟩ := hsent
      have hnone := h e hanswer
      rw [if_pos hexception] at hnone
      exact hnone fallbackProvider hfallback herror ⟨target, hoffers⟩ havailable
    · intro provider' e hselected' _ hanswer hexception
      obtain rfl := Option.some.inj (hselected.symm.trans hselected')
      have hnone := h e hanswer
      rwa [if_neg (by simp [hexception])] at hnone

/-- What a call that its provider's breaker refuses must not do. -/
theorem bypassesNoBreaker_of_refused {provider : String}
    (hselected : session.service.selected? call.providerName = some provider)
    (hadmits : session.service.admits provider call.askedAt = false) :
    BypassesNoBreaker session call ↔ (call.enableFallback = true → ∀ fallbackProvider,
      session.service.Available provider 0 fallbackProvider →
        session.service.circuitBreakers fallbackProvider = none) := by
  constructor
  · intro h hfallback fallbackProvider havailable
    refine h.fallback fallbackProvider ⟨hfallback, provider, hselected, ?_⟩
    rwa [if_neg (by simp [hadmits])]
  · intro h
    constructor
    · rintro fallbackProvider ⟨hfallback, provider', hselected', hsent⟩
      obtain rfl := Option.some.inj (hselected.symm.trans hselected')
      rw [if_neg (by simp [hadmits])] at hsent
      exact h hfallback fallbackProvider hsent
    · intro provider' e hselected' hadmits'
      obtain rfl := Option.some.inj (hselected.symm.trans hselected')
      cases hadmits.symm.trans hadmits'

/-- A call that reaches its provider. -/
theorem through_of_admits {provider : String}
    (hselected : session.service.selected? call.providerName = some provider)
    (hadmits : session.service.admits provider call.askedAt = true) :
    ThroughBreakers session call ↔ BypassesNoBreaker session call := by
  rw [bypassesNoBreaker_of_admits hselected hadmits]
  let start : ProviderSession := { session with events := [] }
  let asked := start.withBreaker provider fun breaker => (breaker.canExecute call.askedAt).2
  have hasked : session.Through asked :=
    (ProviderSession.through_withBreaker fun breaker => breaker.recorded_canExecute _).2
      (ProviderSession.through_start session)
  have hadmitted (breaker : CircuitBreaker)
      (hbreaker : asked.service.circuitBreakers provider = some breaker) :
      ¬breaker.Refuses call.askedAt := by
    have hupdate : asked.service.circuitBreakers provider =
        (session.service.circuitBreakers provider).map fun breaker =>
          (breaker.canExecute call.askedAt).2 := Function.update_self ..
    obtain ⟨before, hbefore, rfl⟩ := Option.map_eq_some_iff.1 (hupdate.symm.trans hbreaker)
    refine CircuitBreaker.not_refuses_of_admitted ?_
    simpa [admits, hbefore] using hadmits
  have hon := complete_on start hselected
  rw [if_pos (show start.service.admits provider call.askedAt = true from hadmits)] at hon
  rw [ThroughBreakers, serve, hon]
  cases hanswer : call.answer provider with
  | ok response =>
    refine iff_of_true ?_ nofun
    exact hasked.request hadmitted fun breaker => breaker.recorded_recordSuccess _
  | error e =>
    simp only [Except.error.injEq, forall_eq']
    split
    · next hexception =>
      refine (through_recordFailure hexception ?_).trans ?_
      · exact hasked.request hadmitted fun breaker => breaker.recorded_recordFailure _
      · simp only [ProviderSession.did, ProviderSession.circuitBreakers_withBreaker_eq_none]
        rfl
    · next hexception =>
      rw [recordFailure_of_interruption (Bool.eq_false_iff.2 hexception) call provider]
      refine (ProviderSession.through_did_requested hasked call.askedAt).trans ?_
      exact ProviderSession.circuitBreakers_withBreaker_eq_none _ _

/-- A call that its provider's breaker refuses. -/
theorem through_of_refused {provider : String}
    (hselected : session.service.selected? call.providerName = some provider)
    (hadmits : session.service.admits provider call.askedAt = false) :
    ThroughBreakers session call ↔ BypassesNoBreaker session call := by
  rw [bypassesNoBreaker_of_refused hselected hadmits]
  let start : ProviderSession := { session with events := [] }
  let asked := start.withBreaker provider fun breaker => (breaker.canExecute call.askedAt).2
  have hasked : session.Through asked :=
    (ProviderSession.through_withBreaker fun breaker => breaker.recorded_canExecute _).2
      (ProviderSession.through_start session)
  have hon := complete_on start hselected
  have hrefused : start.service.admits provider call.askedAt = false := hadmits
  rw [ThroughBreakers, serve, hon, if_neg (by simp [hrefused])]
  cases call.enableFallback with
  | false => exact iff_of_true hasked nofun
  | true =>
    refine (through_attemptFallback hasked provider call.askedAt).trans ?_
    simp only [true_implies, ProviderSession.circuitBreakers_withBreaker_eq_none, asked]
    rfl

/-- One call goes through the breakers exactly if it bypasses none. -/
theorem throughBreakers_iff_bypassesNoBreaker (session : ProviderSession)
    (call : CompletionCall Response) :
    ThroughBreakers session call ↔ BypassesNoBreaker session call := by
  cases hselected : session.service.selected? call.providerName with
  | none =>
    -- the call raises before it asks for anything
    obtain ⟨provider, hsome, -⟩ | ⟨-, e, hon⟩ :=
      selectProvider_on call.providerName { session with events := [] }
    · cases hselected.symm.trans hsome
    · refine iff_of_true ?_ ⟨fun f ⟨_, provider, hsome, _⟩ => ?_, fun provider _ hsome => ?_⟩
      · rw [ThroughBreakers, serve, complete, Method.on_bind, hon]
        exact ProviderSession.through_start session
      · cases hselected.symm.trans hsome
      · cases hselected.symm.trans hsome
  | some provider =>
    cases hadmits : session.service.admits provider call.askedAt with
    | true => exact through_of_admits hselected hadmits
    | false => exact through_of_refused hselected hadmits

end

/-- Along a sequence of calls, all requests go through the breakers exactly if no call bypasses one. -/
theorem throughBreakers_iff (session : ProviderSession) (calls : List (CompletionCall Response)) :
    Along serve ThroughBreakers session calls ↔ Along serve BypassesNoBreaker session calls :=
  along_iff (I := fun _ => True) trivial
    (fun session call _ _ => throughBreakers_iff_bypassesNoBreaker session call)
    fun _ _ _ _ _ => trivial

/-- A primary provider and a fallback provider with a breaker that trips on the first failure. -/
def pairOfProviders : ProviderSession where
  service :=
    { registry := ⟨["primary", "standby"]⟩
      fallbackConfig := { primaryProvider := "primary", fallbackProviders := ["standby"] }
      fallbackHandler := { config := { primaryProvider := "primary", fallbackProviders := ["standby"] } }
      circuitBreakers := Function.update (fun _ => none) "standby"
        ((CircuitBreakerConfig.ofValues 1 1 60 1).toOption.map fun config =>
          { config, providerName := "standby" }) }

/-- A call at which every provider times out. -/
def timesOut (providerName : Option String) (now : Rat) : CompletionCall String where
  providerName
  askedAt := now
  answeredAt := now
  answer := fun provider => .error (.provider .timeout "timeout" provider)

/-- The fallback provider's breaker has tripped, and the fallback is sent to it: a fallback asks
no breaker. -/
theorem not_throughBreakers : ¬∀ (session : ProviderSession) (calls : List (CompletionCall String)),
    Along serve ThroughBreakers session calls := by
  intro h
  have hsecond := (h pairOfProviders [timesOut (some "standby") 0, timesOut none 1]).2.1
  have hrecords := hsecond.recordsOne "standby"
  revert hrecords
  decide +kernel

end ProviderService

end AgentRuntime
