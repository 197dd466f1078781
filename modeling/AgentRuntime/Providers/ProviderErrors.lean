import AgentRuntime.Python.Integers
import AgentRuntime.Services.ProviderService

/-!
# The classes of provider errors

An adapter's exception is classified twice: by `classify_error`
(`app/infrastructure/providers/retry.py`) for the retry handler, and by `BaseProvider._classify_error`
(`app/infrastructure/providers/base.py`), whose result `_map_exception` turns into the exception that
`complete` raises. Only the first reads a header, and nothing uses what it reads.
-/

namespace AgentRuntime

/-- What `error.response` holds. `header name` is `headers.get(name)`. -/
structure ErrorResponse where
  statusCode : Int
  header : String → Option String := fun _ => none

/-- What an adapter's call raises: an exception of `httpx`, or any other. A `ConnectTimeout` is a
`TimeoutException`. -/
inductive AdapterError where
  | timeoutException (message : String)
  | connectTimeout (message : String)
  | httpStatusError (message : String) (response : ErrorResponse)
  | connectError (message : String)
  | other (e : RaisedError)

/-- `str(error)`. -/
def RaisedError.str : RaisedError → String
  | .provider _ message name => if name = "" then message else s!"[{name}] {message}"
  | .valueError message => message
  | .exception message => message
  | .interruption message => message

namespace AdapterError

/-- `except Exception` catches it. -/
def isException : AdapterError → Bool
  | other e => e.isException
  | _ => true

/-- `str(error)`. -/
def str : AdapterError → String
  | timeoutException message => message
  | connectTimeout message => message
  | httpStatusError message _ => message
  | connectError message => message
  | other e => e.str

end AdapterError

/-- Classification of error types for retry logic. -/
inductive ErrorType where
  | timeout
  | rateLimit
  | serverError
  | authError
  | validationError
  | networkError
  | unknown
  deriving DecidableEq, Repr

/-- `error_type.value`. -/
def ErrorType.value : ErrorType → String
  | timeout => "timeout"
  | rateLimit => "rate_limit"
  | serverError => "server_error"
  | authError => "auth_error"
  | validationError => "validation_error"
  | networkError => "network_error"
  | unknown => "unknown"

/-- Provider error classification. -/
structure ProviderError where
  isRetryable : Bool
  errorType : String
  originalError : AdapterError
  provider : String
  message : String := ""

/-- The error types that a classification may have. -/
def validErrorTypes : List String :=
  ["timeout", "rate_limit", "server_error", "auth_error", "validation_error", "network_error", "unknown"]

/-- `ProviderError.__post_init__`. -/
def ProviderError.postInit (self : ProviderError) : Except RaisedError ProviderError :=
  if self.provider = "" then
    .error (.valueError "Provider cannot be empty")
  else if self.errorType = "" then
    .error (.valueError "Error type cannot be empty")
  else if self.errorType ∉ validErrorTypes then
    .error (.valueError s!"Invalid error type: {self.errorType}")
  else
    .ok self

/-- A classification by one of the types is refused only for want of a provider. -/
theorem ProviderError.postInit_eq {self : ProviderError} {errorType : ErrorType}
    (htype : self.errorType = errorType.value) :
    self.postInit = if self.provider = "" then .error (.valueError "Provider cannot be empty")
      else .ok self := by
  have hne : self.errorType ≠ "" := by cases errorType <;> simp [htype, ErrorType.value]
  have hvalid : self.errorType ∈ validErrorTypes := by
    cases errorType <;> simp [htype, ErrorType.value, validErrorTypes]
  unfold postInit
  rw [if_neg hne, if_neg (not_not_intro hvalid)]

/-- Configuration for a model provider. A configuration that the constructor refuses cannot be built. -/
structure ProviderConfig where
  provider : String
  model : String
  apiKey : String
  baseUrl : Option String := none
  timeoutSeconds : Nat := 45
  connectTimeoutSeconds : Nat := 3
  maxRetries : Nat := 2
  provider_ne : provider ≠ "" := by decide
  model_ne : model ≠ "" := by decide
  apiKey_ne : apiKey ≠ "" := by decide
  timeoutSeconds_pos : 0 < timeoutSeconds := by decide
  connectTimeoutSeconds_pos : 0 < connectTimeoutSeconds := by decide

/-- `ProviderConfig(…)`. -/
def ProviderConfig.ofValues (provider model apiKey : String) (baseUrl : Option String)
    (timeoutSeconds connectTimeoutSeconds maxRetries : Int) : Except PyError ProviderConfig :=
  if hprovider : provider = "" then
    .error (.valueError "Provider cannot be empty")
  else if hmodel : model = "" then
    .error (.valueError "Model cannot be empty")
  else if hkey : apiKey = "" then
    .error (.valueError "API key cannot be empty")
  else if htimeout : timeoutSeconds ≤ 0 then
    .error (.valueError "Timeout must be positive")
  else if hconnect : connectTimeoutSeconds ≤ 0 then
    .error (.valueError "Connect timeout must be positive")
  else if maxRetries < 0 then
    .error (.valueError "Max retries cannot be negative")
  else
    .ok ⟨provider, model, apiKey, baseUrl, timeoutSeconds.toNat, connectTimeoutSeconds.toNat,
      maxRetries.toNat, hprovider, hmodel, hkey, by omega, by omega⟩

/-! ## The retry handler's classification -/

/-- `int(retry_after) if retry_after else None`. -/
def readRetryAfter (digits : DecimalDigits) (retryAfter : Option String) :
    Except RaisedError (Option Int) :=
  match nonempty? retryAfter with
  | none => .ok none
  | some text =>
    match digits.intOfStr? text with
    | some seconds => .ok (some seconds)
    | none => .error (.valueError s!"invalid literal for int() with base 10: '{text}'")

/-- Classify an error as retryable or non-retryable: `classify_error`. -/
def RetryHandler.classifyError (digits : DecimalDigits) (error : AdapterError)
    (provider : String := "unknown") : Except RaisedError ProviderError :=
  let classified (isRetryable : Bool) (errorType : ErrorType) (message : String) :
      Except RaisedError ProviderError :=
    ProviderError.postInit
      { isRetryable, errorType := errorType.value, originalError := error, provider, message }
  match error with
  | .timeoutException _ | .connectTimeout _ => classified true .timeout "Request timed out"
  | .httpStatusError _ response =>
    if response.statusCode = 429 then do
      let _retryAfterSeconds ← readRetryAfter digits (response.header "Retry-After")
      classified true .rateLimit "Rate limit exceeded"
    else if 500 ≤ response.statusCode ∧ response.statusCode < 600 then
      classified true .serverError s!"Server error: {response.statusCode}"
    else if response.statusCode = 401 then
      classified false .authError "Authentication failed"
    else if response.statusCode = 400 then
      classified false .validationError "Request validation failed"
    else
      classified false .unknown s!"HTTP error: {response.statusCode}"
  | .connectError _ => classified true .networkError "Connection failed"
  | .other _ => classified false .unknown error.str

/-! ## The adapter's classification -/

namespace BaseProvider

/-- Classify error as retryable or non-retryable: `_classify_error`. -/
def classifyError (config : ProviderConfig) (error : AdapterError) : Except RaisedError ProviderError :=
  let classified (isRetryable : Bool) (errorType : String) (message : String) :
      Except RaisedError ProviderError :=
    ProviderError.postInit
      { isRetryable, errorType, originalError := error, provider := config.provider, message }
  match error with
  | .timeoutException _ | .connectTimeout _ => classified true "timeout" "Request timed out"
  | .httpStatusError _ response =>
    if response.statusCode = 429 then
      classified true "rate_limit" "Rate limit exceeded"
    else if 500 ≤ response.statusCode ∧ response.statusCode < 600 then
      classified true "server_error" s!"Server error: {response.statusCode}"
    else if response.statusCode = 401 then
      classified false "auth_error" "Authentication failed"
    else if response.statusCode = 400 then
      classified false "validation_error" "Request validation failed"
    else
      classified false "unknown" s!"HTTP error: {response.statusCode}"
  | .connectError _ => classified true "server_error" "Connection failed"
  | .other _ => classified false "unknown" error.str

/-- The class of the exception for an error type: `error_map`. -/
def errorMap (errorType : String) : ProviderErrorKind :=
  if errorType = "timeout" then .timeout
  else if errorType = "rate_limit" then .rateLimit
  else if errorType = "auth_error" then .authentication
  else if errorType = "validation_error" then .validation
  else if errorType = "server_error" then .unavailable
  else if errorType = "unknown" then .unavailable
  else .unavailable

/-- Map `ProviderError` to specific exception type: `_map_exception`. -/
def mapException (providerError : ProviderError) : RaisedError :=
  .provider (errorMap providerError.errorType) providerError.message providerError.provider

end BaseProvider

end AgentRuntime
