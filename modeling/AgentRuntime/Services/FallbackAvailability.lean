import AgentRuntime.Services.FallbackService

/-!
# Whether a fallback answers

A request that may fall back takes two attempts of the rotation: one for the target of its decision,
one for the provider that it is sent to. So it is answered by its target exactly if two attempts are
left and both places name the same provider, which is registered and answers
(`answeredByTarget_iff`). No attempt is ever given back.
-/

namespace AgentRuntime

open Interaction

variable {Response : Type}

/-- The request of a failed primary provider is answered by a fallback provider: the last one that a
request was sent to, and the target of the decision. -/
def AnsweredByTarget (answer : String → Except RaisedError Response)
    (fallbackProviders : List String) (primaryProvider : String)
    (result : Except RaisedError Response) (requests : List String)
    (decisions : List FallbackDecision) : Prop :=
  ∃ fallbackProvider response decision, fallbackProvider ∈ fallbackProviders ∧
    fallbackProvider ≠ primaryProvider ∧ answer fallbackProvider = .ok response ∧
    result = .ok response ∧ requests.getLast? = some fallbackProvider ∧ decisions = [decision] ∧
    decision.targetProvider = some fallbackProvider

/-- The rotation has two attempts left for the primary provider, and both its places name the same
provider: another one, which is registered and answers. -/
def OffersTwice (fallbackHandler : FallbackHandler) (registry : ProviderRegistry)
    (primaryProvider : String) (answer : String → Except RaisedError Response) : Prop :=
  ∃ fallbackProvider response, fallbackHandler.Offers primaryProvider 0 fallbackProvider ∧
    fallbackHandler.Offers primaryProvider 1 fallbackProvider ∧
    fallbackProvider ∈ registry.providers ∧ answer fallbackProvider = .ok response

section
variable {answer : String → Except RaisedError Response} {fallbackHandler : FallbackHandler}
  {registry : ProviderRegistry} {primaryProvider : String} {requests : List String}

/-- A request that raises was answered by no fallback. -/
theorem not_answeredByTarget_error {fallbackProviders : List String} (e : RaisedError)
    (decisions : List FallbackDecision) :
    ¬AnsweredByTarget answer fallbackProviders primaryProvider (.error e) requests decisions := by
  rintro ⟨fallbackProvider, response, decision, -, -, -, hresult, -⟩
  cases hresult

/-- A request that is sent to the second place of the rotation is answered by the target, at the first,
exactly if the rotation offers the provider twice. -/
theorem answeredByTarget_iff_offersTwice {decision : FallbackDecision} {fallbackProvider : String}
    (htarget : ∀ target, decision.targetProvider = some target ↔
      fallbackHandler.Offers primaryProvider 0 target)
    (hoffers : fallbackHandler.Offers primaryProvider 1 fallbackProvider)
    (hregistered : fallbackProvider ∈ registry.providers)
    (hlast : requests.getLast? = some fallbackProvider) :
    AnsweredByTarget answer fallbackHandler.config.fallbackProviders primaryProvider
        (answer fallbackProvider) requests [decision] ↔
      OffersTwice fallbackHandler registry primaryProvider answer := by
  constructor
  · rintro ⟨sent, response, decision', -, -, hanswer, -, hsent, hdecision, htaken⟩
    obtain rfl := Option.some.inj (hlast.symm.trans hsent)
    obtain rfl := List.cons.inj hdecision |>.1
    exact ⟨fallbackProvider, response, (htarget _).1 htaken, hoffers, hregistered, hanswer⟩
  · rintro ⟨offered, response, hfirst, hsecond, -, hanswer⟩
    obtain rfl := hsecond.unique hoffers
    exact ⟨offered, response, decision, hfirst.mem, hfirst.compatible, hanswer, hanswer, hlast, rfl,
      (htarget _).2 hfirst⟩

/-- Without a second place that is registered nothing is offered twice. -/
theorem not_offersTwice
    (h : ∀ fallbackProvider, fallbackHandler.Offers primaryProvider 1 fallbackProvider →
      fallbackProvider ∉ registry.providers) :
    ¬OffersTwice fallbackHandler registry primaryProvider answer := by
  rintro ⟨fallbackProvider, response, -, hoffers, hregistered, -⟩
  exact h fallbackProvider hoffers hregistered

end

/-! ## The provider service -/

/-- The provider that a request was sent to. -/
def ProviderEvent.requested? : ProviderEvent → Option String
  | requested provider _ _ => some provider
  | decided _ => none

/-- The decision that was taken. -/
def ProviderEvent.decided? : ProviderEvent → Option FallbackDecision
  | requested _ _ _ => none
  | decided decision => some decision

namespace ProviderService

/-- The session when the provider has failed, and a decision was taken. -/
def decided (session : ProviderSession) (call : CompletionCall Response) (provider : String)
    (decision : FallbackDecision) : ProviderSession :=
  let asked := session.withBreaker provider fun breaker => (breaker.canExecute call.askedAt).2
  let sent := asked.did (.requested provider (asked.service.circuitBreakers provider) call.askedAt)
  ((sent.withBreaker provider (CircuitBreaker.recordFailure call.answeredAt)).withHandler
    (session.service.fallbackHandler.getFallbackProvider provider).2).did (.decided decision)

/-- A call whose provider is asked, and fails. -/
theorem complete_of_error (session : ProviderSession) {call : CompletionCall Response}
    {provider : String} {e : RaisedError}
    (hselected : session.service.selected? call.providerName = some provider)
    (hadmits : session.service.admits provider call.askedAt = true)
    (hanswer : call.answer provider = .error e) :
    ∃ asked : ProviderSession, asked = session.withBreaker provider
        (fun breaker => (breaker.canExecute call.askedAt).2) ∧
      (complete call).on session = (recordFailure call provider e).on
        (asked.did (.requested provider (asked.service.circuitBreakers provider) call.askedAt)) := by
  refine ⟨_, rfl, ?_⟩
  rw [complete_on session hselected]
  simp only [hadmits, if_true, hanswer]

/-- The call, whose primary provider fails, is answered by the target of its decision. -/
def FallsBack (service : ProviderService) (call : CompletionCall Response) (primaryProvider : String) :
    Prop :=
  let result := (complete call).on { service }
  AnsweredByTarget call.answer service.fallbackHandler.config.fallbackProviders primaryProvider
    result.1 (result.2.events.filterMap ProviderEvent.requested?)
    (result.2.events.filterMap ProviderEvent.decided?)

/-- A call whose primary provider fails in a way that allows a fallback is answered by its target
exactly if fallbacks are enabled, and the rotation offers it twice. -/
theorem fallsBack_iff {service : ProviderService} {call : CompletionCall Response}
    {primaryProvider : String} {e : RaisedError}
    (hselected : service.selected? call.providerName = some primaryProvider)
    (hadmits : service.admits primaryProvider call.askedAt = true)
    (hanswer : call.answer primaryProvider = .error e) (hexception : e.isException = true)
    (herror : FallbackHandler.isErrorTypeFallbackable (classifyError e) = true) :
    service.FallsBack call primaryProvider ↔ call.enableFallback = true ∧
      OffersTwice service.fallbackHandler service.registry primaryProvider call.answer := by
  obtain ⟨asked, rfl, hon⟩ := complete_of_error { service } hselected hadmits hanswer
  cases hfallback : call.enableFallback with
  | false =>
    refine iff_of_false ?_ fun h => by cases h.1
    obtain hfailed | ⟨_, _, hfailed⟩ :=
      recordFailure_declines hexception (.inl hfallback) _ primaryProvider
    · rw [FallsBack, hon, hfailed]
      exact not_answeredByTarget_error e _
    · rw [FallsBack, hon, hfailed]
      exact not_answeredByTarget_error e _
  | true =>
    simp only [true_and]
    obtain ⟨decision, htarget, hfailed⟩ :=
      recordFailure_on hexception hfallback herror _ primaryProvider
    have hdecided := hon.trans hfailed
    cases hdecision : decision.targetProvider with
    | none =>
      rw [FallsBack, hdecided]
      refine iff_of_false ?_ ?_
      · simp only [hdecision]
        exact not_answeredByTarget_error e _
      · rintro ⟨target, _, hoffers, -⟩
        cases hdecision.symm.trans ((htarget target).2 hoffers)
    | some target =>
      have hfirst : service.fallbackHandler.Offers primaryProvider 0 target :=
        (htarget target).1 hdecision
      have hsecond (fallbackProvider : String) :
          (decided { service } call primaryProvider decision).service.Available primaryProvider 0
              fallbackProvider ↔
            service.fallbackHandler.Offers primaryProvider 1 fallbackProvider ∧
              fallbackProvider ∈ service.registry.providers :=
        and_congr_left fun _ => hfirst.next 0 fallbackProvider
      have hattempt : (complete call).on { service } =
          (attemptFallback call primaryProvider call.answeredAt).on
            (decided { service } call primaryProvider decision) := by
        rw [hdecided]
        simp only [hdecision]
        rfl
      rw [FallsBack, hattempt]
      by_cases havailable : ∃ fallbackProvider,
          (decided { service } call primaryProvider decision).service.Available primaryProvider 0
            fallbackProvider
      · obtain ⟨fallbackProvider, havailable⟩ := havailable
        obtain ⟨hoffers, hregistered⟩ := (hsecond fallbackProvider).1 havailable
        rw [attemptFallback_of_available havailable call call.answeredAt]
        exact answeredByTarget_iff_offersTwice htarget hoffers hregistered rfl
      · have hnot (fallbackProvider : String) :
            ¬(decided { service } call primaryProvider decision).service.Available primaryProvider 0
              fallbackProvider :=
          fun h => havailable ⟨fallbackProvider, h⟩
        obtain ⟨e', hsent⟩ := attemptFallback_of_not hnot call call.answeredAt
        rw [hsent]
        refine iff_of_false (not_answeredByTarget_error e' _) ?_
        exact not_offersTwice fun fallbackProvider hoffers hregistered =>
          hnot fallbackProvider ((hsecond fallbackProvider).2 ⟨hoffers, hregistered⟩)

end ProviderService

/-! ## The fallback service -/

namespace FallbackService

/-- The call is answered by the target of its decision. -/
def FallsBack (service : FallbackService) (call : FallbackCall Response) : Prop :=
  let result := (executeWithFallback call).on { service }
  AnsweredByTarget call.answer service.fallbackHandler.config.fallbackProviders
    call.primaryProviderName result.1 result.2.requests result.2.decisions

/-- A call for an error that allows a fallback is answered by its target exactly if no irreversible
effects were executed, and the rotation offers it twice. -/
theorem fallsBack_iff {call : FallbackCall Response}
    (herror : FallbackHandler.isErrorTypeFallbackable call.errorType = true)
    (service : FallbackService) :
    service.FallsBack call ↔ call.irreversibleEffectsExecuted = false ∧
      OffersTwice service.fallbackHandler service.registry call.primaryProviderName call.answer := by
  cases hreversible : call.irreversibleEffectsExecuted with
  | true =>
    obtain ⟨e, after, hon⟩ := executeWithFallback_of_irreversible hreversible { service }
    refine iff_of_false ?_ fun h => by cases h.1
    rw [FallsBack, hon]
    exact not_answeredByTarget_error e _
  | false =>
    obtain ⟨decision, htarget, hon⟩ := executeWithFallback_on hreversible herror { service }
    simp only [true_and]
    cases hdecision : decision.targetProvider with
    | none =>
      simp only [hdecision] at hon
      obtain ⟨e, after, hon⟩ := hon
      rw [FallsBack, hon]
      refine iff_of_false (not_answeredByTarget_error e _) ?_
      rintro ⟨target, _, hoffers, -⟩
      cases hdecision.symm.trans ((htarget target).2 hoffers)
    | some target =>
      simp only [hdecision, Option.isSome_some, if_true] at hon
      have hfirst : service.fallbackHandler.Offers call.primaryProviderName 0 target :=
        (htarget target).1 hdecision
      have hsecond (fallbackProvider : String) :
          (decided call decision { service }).service.Available call.primaryProviderName 0
              fallbackProvider ↔
            service.fallbackHandler.Offers call.primaryProviderName 1 fallbackProvider ∧
              fallbackProvider ∈ service.registry.providers :=
        and_congr_left fun _ => hfirst.next 0 fallbackProvider
      rw [FallsBack, hon]
      by_cases havailable : ∃ fallbackProvider,
          (decided call decision { service }).service.Available call.primaryProviderName 0
            fallbackProvider
      · obtain ⟨fallbackProvider, havailable⟩ := havailable
        obtain ⟨hoffers, hregistered⟩ := (hsecond fallbackProvider).1 havailable
        obtain ⟨f, hsent⟩ := attemptFallback_of_available havailable decision.reason.value
        rw [hsent]
        exact answeredByTarget_iff_offersTwice htarget hoffers hregistered rfl
      · have hnot (fallbackProvider : String) :
            ¬(decided call decision { service }).service.Available call.primaryProviderName 0
              fallbackProvider :=
          fun h => havailable ⟨fallbackProvider, h⟩
        obtain ⟨e, after, hsent⟩ := attemptFallback_of_not hnot decision.reason.value
        rw [hsent]
        refine iff_of_false (not_answeredByTarget_error e _) ?_
        exact not_offersTwice fun fallbackProvider hoffers hregistered =>
          hnot fallbackProvider ((hsecond fallbackProvider).2 ⟨hoffers, hregistered⟩)

end FallbackService

/-! ## Both services -/

/-- A request whose primary provider fails in a way that allows a fallback, in any state of the rotation:
both services answer it by the target of its decision exactly if the rotation offers the target
twice. -/
theorem answeredByTarget_iff :
    (∀ (service : ProviderService) (call : CompletionCall Response) (primaryProvider : String)
        (e : RaisedError), service.selected? call.providerName = some primaryProvider →
      service.admits primaryProvider call.askedAt = true →
      call.answer primaryProvider = .error e → e.isException = true →
      FallbackHandler.isErrorTypeFallbackable (classifyError e) = true →
        (service.FallsBack call primaryProvider ↔ call.enableFallback = true ∧
          OffersTwice service.fallbackHandler service.registry primaryProvider call.answer)) ∧
    ∀ (service : FallbackService) (call : FallbackCall Response),
      FallbackHandler.isErrorTypeFallbackable call.errorType = true →
        (service.FallsBack call ↔ call.irreversibleEffectsExecuted = false ∧
          OffersTwice service.fallbackHandler service.registry call.primaryProviderName
            call.answer) := by
  constructor
  · intro service call primaryProvider e hselected hadmits hanswer hexception herror
    exact ProviderService.fallsBack_iff hselected hadmits hanswer hexception herror
  · intro service call herror
    exact FallbackService.fallsBack_iff herror service

/-- A primary provider, and a fallback provider for `attempts` attempts. -/
def onePair (attempts : Nat) : FallbackConfig where
  primaryProvider := "p"
  fallbackProviders := ["q"]
  maxFallbackAttempts := attempts

/-- The provider service for the two. -/
def onePairService (attempts : Nat) : ProviderService where
  registry := ⟨["p", "q"]⟩
  fallbackConfig := onePair attempts
  fallbackHandler := { config := onePair attempts }

/-- The primary provider times out. -/
def pairAnswer (provider : String) : Except RaisedError String :=
  if provider = "p" then .error (.provider .timeout "timeout" "p") else .ok "answer"

/-- The conditions for one pair of providers, with a primary that times out. -/
theorem answeredByTarget_iff_onePair :
    ((onePairService 2).FallsBack { askedAt := 0, answeredAt := 1, answer := pairAnswer } "p" ↔
      true = true ∧ OffersTwice { config := onePair 2 } ⟨["p", "q"]⟩ "p" pairAnswer) ∧
    (FallbackService.FallsBack ⟨⟨["p", "q"]⟩, { config := onePair 2 }, {}⟩
        { primaryProviderName := "p", errorType := "timeout", circuitState := "closed",
          answer := pairAnswer } ↔
      false = false ∧ OffersTwice { config := onePair 2 } ⟨["p", "q"]⟩ "p" pairAnswer) :=
  ⟨answeredByTarget_iff.1 (onePairService 2) { askedAt := 0, answeredAt := 1, answer := pairAnswer } "p"
      (.provider .timeout "timeout" "p") (by decide) rfl rfl rfl (by decide),
    answeredByTarget_iff.2 ⟨⟨["p", "q"]⟩, { config := onePair 2 }, {}⟩ _ (by decide)⟩

/-- One attempt is allowed, and the first request fails, though the fallback provider would answer: deciding
has taken the attempt that the request itself asks for again. -/
theorem not_answeredByTarget : ¬∀ (service : ProviderService) (call : CompletionCall String)
      (primaryProvider : String) (e : RaisedError),
    service.selected? call.providerName = some primaryProvider →
    service.admits primaryProvider call.askedAt = true →
    call.answer primaryProvider = .error e → e.isException = true →
    FallbackHandler.isErrorTypeFallbackable (classifyError e) = true →
    call.enableFallback = true → 1 ≤ service.fallbackHandler.config.maxFallbackAttempts →
    (∃ fallbackProvider response,
      fallbackProvider ∈ service.fallbackHandler.config.fallbackProviders ∧
      fallbackProvider ∈ service.registry.providers ∧ fallbackProvider ≠ primaryProvider ∧
      call.answer fallbackProvider = .ok response) →
    service.FallsBack call primaryProvider := by
  intro h
  have hanswered := h (onePairService 1) { askedAt := 0, answeredAt := 1, answer := pairAnswer } "p"
    (.provider .timeout "timeout" "p") (by decide) rfl rfl rfl (by decide) rfl (by decide)
    ⟨"q", "answer", by decide, by decide, by decide, rfl⟩
  obtain ⟨fallbackProvider, response, decision, -, -, -, hresult, -⟩ := hanswered
  have herror : ((ProviderService.complete
      { askedAt := 0, answeredAt := 1, answer := pairAnswer }).on { service := onePairService 1 }).1 =
        .error (providerUnavailableError "No fallback provider available for p" "p") := by decide
  cases herror.symm.trans hresult

end AgentRuntime
