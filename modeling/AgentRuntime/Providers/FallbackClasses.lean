import AgentRuntime.Providers.RetryBounds

/-!
# The classes of errors and the fallback

What becomes of an adapter's error on its way to the fallback: `complete` raises the exception for its
class, and `ProviderService` classifies that again. A class that has an exception of its own comes out where
it went in. The class `unknown` has none: it is raised as a `ProviderUnavailableError`, which is a server
error for `ProviderService`, and so a reason for a fallback (`errorClassSurvives_iff`).
-/

namespace AgentRuntime

open Interaction

/-- The error is of a class that has an exception of its own. -/
def AdapterError.HasOwnClass : AdapterError → Prop
  | timeoutException _ | connectTimeout _ | connectError _ => True
  | httpStatusError _ response =>
    response.statusCode = 429 ∨ (500 ≤ response.statusCode ∧ response.statusCode < 600) ∨
      response.statusCode = 401 ∨ response.statusCode = 400
  | other _ => False

/-- An error has a class of its own exactly if it is not of the unknown kind. -/
theorem AdapterError.hasOwnClass_iff {e : AdapterError} : e.HasOwnClass ↔ e.errorType ≠ .unknown := by
  cases e with
  | timeoutException message => simp [HasOwnClass, errorType]
  | connectTimeout message => simp [HasOwnClass, errorType]
  | connectError message => simp [HasOwnClass, errorType]
  | other e => simp [HasOwnClass, errorType]
  | httpStatusError message response =>
    simp only [HasOwnClass, errorType]
    split_ifs with hlimit hserver hauth hvalidation
    · simp [hlimit]
    · simp [hserver]
    · simp [hauth]
    · simp [hvalidation]
    · simp [hlimit, hserver, hauth, hvalidation]

/-- The raised exception is of the class `errorType` for the service, which decides on a fallback by it:
never for an error that is not retryable, and for others whenever a provider is offered. -/
structure FallbackFollows (errorType : ErrorType) (raised : RaisedError) : Prop where
  classified : classifyError raised = errorType.forAdapter.value
  never : errorType.isRetryable = false →
    ∀ (handler : FallbackHandler) (primaryProvider circuitState : String) (irreversible : Bool),
      (handler.shouldFallback primaryProvider (classifyError raised) circuitState
        irreversible).1.shouldFallback = false
  may : errorType.isRetryable = true →
    ∀ (handler : FallbackHandler) (primaryProvider circuitState target : String),
      handler.Offers primaryProvider 0 target →
      let decision := (handler.shouldFallback primaryProvider (classifyError raised) circuitState false).1
      decision.shouldFallback = true ∧ decision.targetProvider = some target

/-- Whenever a run of `complete` ends with this error, what it raises is of the error's class. -/
def ErrorClassSurvives (Response : Type) (adapter : BaseProvider) (e : AdapterError) : Prop :=
  ∀ (outcome : Nat → Except AdapterError Response) (random : Nat → Set.Ico (0 : Rat) 1) (made : Nat),
    outcome made = .error e →
    let run := adapter.complete.exec (outcomesEnv outcome random) 0
    run.calls.countP RetryCall.isInvocation = made + 1 →
    ∃ raised, run.result = some (.error (.other raised)) ∧ FallbackFollows e.errorType raised

/-- For the fallback only the retryable classes count, and only under the adapter's names for them. -/
theorem FallbackHandler.isErrorTypeFallbackable_value (errorType : ErrorType) :
    isErrorTypeFallbackable errorType.forAdapter.value = errorType.isRetryable := by
  cases errorType <;> decide

/-- What the mapping makes of a class is that class again, but for `unknown`. -/
theorem classifyError_mapException (errorType : ErrorType) (e : AdapterError) (provider : String) :
    classifyError (BaseProvider.mapException (.ofClass errorType.forAdapter e provider)) =
      if errorType = .unknown then "server_error" else errorType.forAdapter.value := by
  cases errorType <;> rfl

/-- An error that is classified as what it is triggers a fallback as its class demands. -/
theorem fallbackFollows_of_classified {errorType : ErrorType} {raised : RaisedError}
    (h : classifyError raised = errorType.forAdapter.value) : FallbackFollows errorType raised where
  classified := h
  never := by
    intro hretryable handler primaryProvider circuitState irreversible
    have hnot : irreversible = true ∨
        FallbackHandler.isErrorTypeFallbackable (classifyError raised) = false := by
      rw [h, FallbackHandler.isErrorTypeFallbackable_value]
      exact .inr hretryable
    obtain ⟨reason, hdecision⟩ :=
      FallbackHandler.shouldFallback_of_not hnot handler primaryProvider circuitState
    rw [hdecision]
  may := by
    intro hretryable handler primaryProvider circuitState target hoffers
    have hfallbackable : FallbackHandler.isErrorTypeFallbackable (classifyError raised) = true := by
      rw [h, FallbackHandler.isErrorTypeFallbackable_value]
      exact hretryable
    obtain ⟨decision, hdecision, hshould, htarget⟩ :=
      FallbackHandler.shouldFallback_spec hfallbackable handler primaryProvider circuitState
    rw [hdecision]
    refine ⟨?_, (htarget target).2 hoffers⟩
    rw [hshould, (htarget target).2 hoffers]
    rfl

/-- A run of `complete` that ends with an exception raises what the mapping makes of it. -/
theorem BaseProvider.exec_complete_raises {Response : Type} (self : BaseProvider)
    {outcome : Nat → Except AdapterError Response} (random : Nat → Set.Ico (0 : Rat) 1) {made : Nat}
    {e : AdapterError} (he : outcome made = .error e) (hexception : e.isException = true)
    (hmade : (self.complete.exec (outcomesEnv outcome random) 0).calls.countP
      RetryCall.isInvocation = made + 1) :
    (self.complete.exec (outcomesEnv outcome random) 0).result =
      some (.error (.other (mapException (.ofClass e.errorType.forAdapter e self.config.provider)))) := by
  obtain ⟨delaysMs, hrun⟩ := self.exec_complete outcome random
  have hlast : delaysMs.length = made := by
    rw [hrun.countP_calls (fun _ => rfl)] at hmade
    omega
  rw [hrun.result, hlast, he, Except.mapError, raised, if_pos hexception]

/-- **The class of an error survives exactly if it has an exception of its own.** An adapter maps the other
classes to `UnknownProviderError`, which is classified as a server error and triggers a fallback. -/
theorem errorClassSurvives_iff (Response : Type) (adapter : BaseProvider) {e : AdapterError}
    (hexception : e.isException = true) :
    ErrorClassSurvives Response adapter e ↔ e.HasOwnClass := by
  rw [AdapterError.hasOwnClass_iff]
  constructor
  · intro h hunknown
    let outcome : Nat → Except AdapterError Response := fun _ => .error e
    let random : Nat → Set.Ico (0 : Rat) 1 := fun _ => ⟨0, le_refl 0, by norm_num⟩
    obtain ⟨delaysMs, hrun⟩ := adapter.exec_complete outcome random
    have hmade := hrun.countP_calls (fun _ => rfl)
    obtain ⟨raised, hresult, hfollows⟩ := h outcome random delaysMs.length rfl hmade
    rw [adapter.exec_complete_raises random rfl hexception hmade] at hresult
    cases hresult
    have hclass := hfollows.classified
    rw [classifyError_mapException, if_pos hunknown, hunknown] at hclass
    exact absurd hclass (by decide)
  · intro hne outcome random made he run hmade
    refine ⟨_, adapter.exec_complete_raises random he hexception hmade, ?_⟩
    refine fallbackFollows_of_classified ?_
    rw [classifyError_mapException, if_neg hne]

/-- A timeout survives. -/
theorem errorClassSurvives_timeout : ErrorClassSurvives String ⟨openAiConfig, {}⟩ (.timeoutException "") ↔
    (AdapterError.timeoutException "").HasOwnClass :=
  errorClassSurvives_iff String ⟨openAiConfig, {}⟩ rfl

/-- A 404 response: the request will not succeed elsewhere, and is a reason for a fallback all the same. -/
theorem not_errorClassSurvives_notFound : ¬ErrorClassSurvives String ⟨openAiConfig, {}⟩
    (.httpStatusError "Client error '404 Not Found'" { statusCode := 404 }) := by
  intro h
  let outcome : Nat → Except AdapterError String := fun _ =>
    .error (.httpStatusError "Client error '404 Not Found'" { statusCode := 404 })
  obtain ⟨raised, hresult, hfollows⟩ := h outcome (fun _ => ⟨0, le_refl 0, by norm_num⟩) 0 rfl rfl
  obtain rfl : raised = .provider .unavailable "HTTP error: 404" "openai" := by
    injection hresult with hresult
    injection hresult with hresult
    injection hresult with hresult
    exact hresult.symm
  exact absurd hfollows.classified (by decide)

end AgentRuntime
