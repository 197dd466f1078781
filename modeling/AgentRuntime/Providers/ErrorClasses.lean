import AgentRuntime.Providers.ProviderErrors

/-!
# What the two classifications agree on

`AdapterError.errorType` is the class of an error, read off the exception alone. Both classifiers give it
(`classifyError_eq` for each), the adapter's with a connection error as a server error. The classifier of the
retry handler also reads the `Retry-After` header of a 429 response, and raises where it is no integer.
-/

namespace AgentRuntime

namespace AdapterError

/-- The class of an error. -/
def errorType : AdapterError → ErrorType
  | timeoutException _ | connectTimeout _ => .timeout
  | httpStatusError _ response =>
    if response.statusCode = 429 then .rateLimit
    else if 500 ≤ response.statusCode ∧ response.statusCode < 600 then .serverError
    else if response.statusCode = 401 then .authError
    else if response.statusCode = 400 then .validationError
    else .unknown
  | connectError _ => .networkError
  | other _ => .unknown

/-- The message of its classification. -/
def classMessage : AdapterError → String
  | timeoutException _ | connectTimeout _ => "Request timed out"
  | httpStatusError _ response =>
    if response.statusCode = 429 then "Rate limit exceeded"
    else if 500 ≤ response.statusCode ∧ response.statusCode < 600 then
      s!"Server error: {response.statusCode}"
    else if response.statusCode = 401 then "Authentication failed"
    else if response.statusCode = 400 then "Request validation failed"
    else s!"HTTP error: {response.statusCode}"
  | connectError _ => "Connection failed"
  | other e => e.str

/-- The `Retry-After` header of a 429 response, if it is not empty. -/
def retryAfter : AdapterError → Option String
  | httpStatusError _ response =>
    if response.statusCode = 429 then nonempty? (response.header "Retry-After") else none
  | _ => none

end AdapterError

/-- Another attempt may help. -/
def ErrorType.isRetryable : ErrorType → Bool
  | timeout | rateLimit | serverError | networkError => true
  | authError | validationError | unknown => false

/-- The adapters have no class of their own for connection errors. -/
def ErrorType.forAdapter : ErrorType → ErrorType
  | networkError => serverError
  | errorType => errorType

/-- The classification of an error by one of the types. -/
def ProviderError.ofClass (errorType : ErrorType) (error : AdapterError) (provider : String) :
    ProviderError where
  isRetryable := errorType.isRetryable
  errorType := errorType.value
  originalError := error
  provider
  message := error.classMessage

section
variable {digits : DecimalDigits} {config : ProviderConfig} {error : AdapterError} {provider : String}

/-- An error of a class is accepted exactly if its provider has a name. -/
theorem ProviderError.postInit_ofClass (errorType : ErrorType) (error : AdapterError) (provider : String) :
    (ofClass errorType error provider).postInit =
      if provider = "" then .error (.valueError "Provider cannot be empty")
      else .ok (ofClass errorType error provider) :=
  postInit_eq rfl

/-- The header is read exactly if it is missing or empty, or `int()` reads it. -/
theorem readRetryAfter_eq_ok {text : Option String} :
    (∃ seconds, readRetryAfter digits text = .ok seconds) ↔
      ∀ seconds, nonempty? text = some seconds → (digits.intOfStr? seconds).isSome := by
  unfold readRetryAfter
  cases nonempty? text with
  | none => simp
  | some seconds => cases hread : digits.intOfStr? seconds <;> simp [hread]

/-- The classification of the retry handler, where the header can be read. -/
theorem RetryHandler.classifyError_eq
    (hread : ∀ text, error.retryAfter = some text → (digits.intOfStr? text).isSome) :
    classifyError digits error provider =
      if provider = "" then .error (.valueError "Provider cannot be empty")
      else .ok (.ofClass error.errorType error provider) := by
  rw [← ProviderError.postInit_ofClass]
  cases error with
  | timeoutException message => rfl
  | connectTimeout message => rfl
  | connectError message => rfl
  | other e => rfl
  | httpStatusError message response =>
    unfold classifyError
    by_cases hlimit : response.statusCode = 429
    · have hheader : ∀ text, nonempty? (response.header "Retry-After") = some text →
          (digits.intOfStr? text).isSome :=
        fun text htext => hread text (by rw [AdapterError.retryAfter, if_pos hlimit, htext])
      obtain ⟨seconds, hseconds⟩ := readRetryAfter_eq_ok.2 hheader
      simp only [hlimit, if_true, hseconds, AdapterError.errorType, AdapterError.classMessage,
        ProviderError.ofClass]
      rfl
    · simp only [hlimit, if_false, AdapterError.errorType, AdapterError.classMessage,
        ProviderError.ofClass]
      split_ifs <;> rfl

/-- Where the header cannot be read, it raises. -/
theorem RetryHandler.classifyError_of_unreadable (provider : String) {text : String}
    (htext : error.retryAfter = some text) (hread : digits.intOfStr? text = none) :
    ∃ e, classifyError digits error provider = .error e := by
  cases error with
  | httpStatusError message response =>
    rw [AdapterError.retryAfter] at htext
    split_ifs at htext with hlimit
    unfold classifyError
    simp only [hlimit, if_true]
    cases hseconds : readRetryAfter digits (response.header "Retry-After") with
    | error e => exact ⟨e, rfl⟩
    | ok seconds =>
      have hsome := readRetryAfter_eq_ok.1 ⟨seconds, hseconds⟩ text htext
      rw [hread] at hsome
      cases hsome
  | timeoutException message => cases htext
  | connectTimeout message => cases htext
  | connectError message => cases htext
  | other e => cases htext

/-- The classification of an adapter, whose provider has a name. -/
theorem BaseProvider.classifyError_eq : classifyError config error =
    .ok (.ofClass error.errorType.forAdapter error config.provider) := by
  have hpost := (ProviderError.postInit_ofClass error.errorType.forAdapter error config.provider).trans
    (if_neg config.provider_ne)
  rw [← hpost]
  cases error with
  | timeoutException message => rfl
  | connectTimeout message => rfl
  | connectError message => rfl
  | other e => rfl
  | httpStatusError message response =>
    simp only [classifyError, AdapterError.errorType, AdapterError.classMessage, ProviderError.ofClass]
    split_ifs <;> rfl

/-- The class that an adapter reports is retried exactly if the class itself is. -/
@[simp] theorem ErrorType.isRetryable_forAdapter (errorType : ErrorType) :
    errorType.forAdapter.isRetryable = errorType.isRetryable := by
  cases errorType <;> rfl

/-! ## The agreement of the classifiers -/

/-- Both classifiers return, and agree on whether the call may be made again. -/
def ClassifiersAgree (digits : DecimalDigits) (config : ProviderConfig) (error : AdapterError)
    (provider : String) : Prop :=
  ∃ forHandler forAdapter : ProviderError,
    RetryHandler.classifyError digits error provider = .ok forHandler ∧
    BaseProvider.classifyError config error = .ok forAdapter ∧
    forHandler.isRetryable = forAdapter.isRetryable

/-- They agree but for an empty name of the provider, which only the retry handler's classifier takes as
an argument, and for a 429 response whose `Retry-After` header is not an integer. -/
theorem classifiersAgree_iff (digits : DecimalDigits) (config : ProviderConfig) (error : AdapterError)
    (provider : String) : ClassifiersAgree digits config error provider ↔
      provider ≠ "" ∧ ∀ text, error.retryAfter = some text → (digits.intOfStr? text).isSome := by
  constructor
  · rintro ⟨forHandler, forAdapter, hhandler, -, -⟩
    have hread : ∀ text, error.retryAfter = some text → (digits.intOfStr? text).isSome := by
      intro text htext
      by_contra hnone
      obtain ⟨e, he⟩ := RetryHandler.classifyError_of_unreadable provider htext
        (Option.not_isSome_iff_eq_none.1 hnone)
      cases he.symm.trans hhandler
    refine ⟨fun hempty => ?_, hread⟩
    rw [RetryHandler.classifyError_eq hread, if_pos hempty] at hhandler
    cases hhandler
  · rintro ⟨hne, hread⟩
    refine ⟨_, _, (RetryHandler.classifyError_eq hread).trans (if_neg hne),
      BaseProvider.classifyError_eq, ?_⟩
    exact (ErrorType.isRetryable_forAdapter error.errorType).symm

/-- A `Retry-After` header with a date. -/
def datedRateLimit : AdapterError :=
  .httpStatusError "Client error '429 Too Many Requests'"
    { statusCode := 429
      header := fun name =>
        if name = "Retry-After" then some "Wed, 21 Oct 2015 07:28:00 GMT" else none }

/-- A configuration for OpenAI. -/
def openAiConfig : ProviderConfig := { provider := "openai", model := "gpt-4o", apiKey := "key" }

/-- The retry handler's classifier raises on it. -/
theorem not_classifiersAgree_dated :
    ¬ClassifiersAgree .ascii openAiConfig datedRateLimit "unknown" := by
  rintro ⟨forHandler, forAdapter, hhandler, -, -⟩
  have hdate : datedRateLimit.retryAfter = some "Wed, 21 Oct 2015 07:28:00 GMT" := by decide
  have hread : DecimalDigits.ascii.intOfStr? "Wed, 21 Oct 2015 07:28:00 GMT" = none := by decide
  obtain ⟨e, he⟩ := RetryHandler.classifyError_of_unreadable "unknown" hdate hread
  cases he.symm.trans hhandler

end

end AgentRuntime
