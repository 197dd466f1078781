import AgentRuntime.Api.RateLimitMiddleware
import AgentRuntime.Cache.IdempotencyStore

/-!
# The idempotency middleware

`IdempotencyMiddleware.dispatch` (`app/api/middleware/idempotency.py`) over `IdempotencyService`
(`app/application/services/idempotency_service.py`). A new key is looked up and stored by two commands of Redis,
of which the second stores it in any case. `ConflictError` takes no argument `detail`, so a duplicate without a
cached response raises a `TypeError` in its place.
-/

namespace AgentRuntime

open Interaction IdempotencyStore

/-- Result of idempotency check. -/
structure IdempotencyResult where
  isDuplicate : Bool
  cachedResponse : Json := .null
  keyExists : Bool := false
  originalRequestId : Json := .null

/-- Service for managing idempotency keys and preventing duplicate requests. -/
structure IdempotencyService where
  store : IdempotencyStore := {}
  ttl : Int := 86400

namespace IdempotencyService

variable (self : IdempotencyService)

/-- Check for existing operation and store if new. -/
def checkAndStore (key : String) (tenantId : UUID) (operation : String) (requestData : Json) :
    Method IdempotencyResult := do
  match found (← self.store.get key tenantId.str) with
  | some existing =>
    pure { isDuplicate := true, cachedResponse := (existing.get? "response").getD .null
           keyExists := true, originalRequestId := (existing.get? "request_id").getD .null }
  | none =>
    let _ ← self.store.set key tenantId.str operation requestData self.ttl
    pure { isDuplicate := false, keyExists := false }

/-- Store response for an idempotency key. -/
def storeResponse (key : String) (tenantId : UUID) (response requestId : Json) : Method Bool := do
  match found (← self.store.get key tenantId.str) with
  | none => pure false
  | some _ => self.store.setResponse key tenantId.str response requestId self.ttl

end IdempotencyService

/-- A request with its idempotency key, its body and the id that it was given. -/
structure KeyedRequest extends HttpRequest where
  idempotencyKey : Option String := none
  body : Body := .empty
  requestId : Option String := none

/-- Middleware to handle idempotency for API requests. -/
structure IdempotencyMiddleware where
  idempotencyService : IdempotencyService := {}
  excludedPaths : List String := defaultExcludedPaths

namespace IdempotencyMiddleware

/-- Check if path is excluded from idempotency handling. -/
def isExcludedPath (self : IdempotencyMiddleware) (path : String) : Bool :=
  self.excludedPaths.any fun excluded => path.startsWith excluded

/-- Extract request data for idempotency comparison. -/
def extractRequestData (request : KeyedRequest) : Json :=
  if request.method ∈ ["POST", "PUT", "PATCH"] then
    match request.body with
    | .json value => value
    | .empty | .other _ => .null
  else .null

/-- Extract response data for idempotency caching. -/
def extractResponseData (response : BodyResponse) : Json :=
  if response.isJsonResponse then
    match response.body with
    | .json value => value
    | .empty | .other _ => .dict []
  else .dict []

/-- `await call_next(request)`. -/
def callNext : Method BodyResponse := do
  (Proc.call IdempotencyCall.callNext : Method Unit)
  Proc.tryCall .response id

/-- The cached response of a duplicate request. -/
def cachedResponse (idempotencyKey : String) (content : Json) : BodyResponse where
  statusCode := 200
  headers := [("X-Idempotency-Key", idempotencyKey), ("X-Cached-Response", "true")]
  isJsonResponse := true
  body := .json content

/-- `ConflictError(message=…, detail=…)`. -/
def conflictError : PyError :=
  .typeError "ConflictError.__init__() got an unexpected keyword argument 'detail'"

/-- Process the request, and store its response if it is successful. -/
def process (self : IdempotencyMiddleware) (request : KeyedRequest) (idempotencyKey : String)
    (tenantId : UUID) : Method BodyResponse := do
  let response ← callNext
  if response.statusCode < 300 then
    let requestId := (request.requestId.map Json.str).getD .null
    tryCatch
      (do
        let _ ← self.idempotencyService.storeResponse idempotencyKey tenantId
          (extractResponseData response) requestId
        pure ())
      fun _ => pure ()
  pure response

/-- Process request with idempotency handling. -/
def dispatch (self : IdempotencyMiddleware) (request : KeyedRequest) : Method BodyResponse :=
  if request.method ∈ ["GET", "HEAD", "OPTIONS"] ∨ self.isExcludedPath request.path then
    callNext
  else
    match request.idempotencyKey.filter (· ≠ ""), request.tenantId with
    | some idempotencyKey, some tenantId => do
      let operation := s!"{request.method} {request.path}"
      let result ← self.idempotencyService.checkAndStore idempotencyKey tenantId operation
        (extractRequestData request)
      if result.isDuplicate && result.cachedResponse.truthy then
        pure (cachedResponse idempotencyKey result.cachedResponse)
      else if result.isDuplicate then
        throw conflictError
      else
        self.process request idempotencyKey tenantId
    | _, _ => callNext

end IdempotencyMiddleware

end AgentRuntime
