import AgentRuntime.Services.RateLimitService

/-!
# The rate limit middleware

`RateLimitMiddleware.dispatch` (`app/api/middleware/rate_limit.py`), over the methods of the rate limit
service that it is built with. It looks at the answer of the check last: the application is called
first, so a rejected request has had its effects (`rejectsFirst_iff`). The exception that it raises then
is imported from a module that does not define it, and taken here as it is written.
-/

namespace AgentRuntime

open Interaction

/-- A request, with what the authentication left in its state. -/
structure HttpRequest where
  method : String := "POST"
  path : String
  tenantId : Option UUID := none
  tenantPlan : Option String := none

/-- The headers of a response after `headers[name] = value`, where the case of a name does not matter: the first
header of the name gets the value where it stands and the others of the name go, and a new header comes last. -/
def MutableHeaders.setItem (name value : String) : List (String × String) → List (String × String)
  | [] => [(name.toLower, value)]
  | header :: headers =>
    if header.1.toLower = name.toLower then
      (name.toLower, value) :: headers.filter fun other => other.1.toLower ≠ name.toLower
    else header :: setItem name value headers

/-- `response.headers[name] = value`. -/
def HttpResponse.setHeader (self : HttpResponse) (header : String × String) : HttpResponse :=
  { self with headers := MutableHeaders.setItem header.1 header.2 self.headers }

/-- The methods of the rate limit service that the middleware calls, and the application behind it. -/
structure RateLimitMethods (Op : Type) (Ans : Op → Type) (σ : Type) where
  checkRateLimit : UUID → String → String → Proc Op Ans ApiError σ RateLimitResult
  getRateLimitHeaders : UUID → String → String → Proc Op Ans ApiError σ (List (String × String))
  recordRequest : UUID → String → Proc Op Ans ApiError σ Unit
  callNext : HttpRequest → Proc Op Ans ApiError σ HttpResponse

/-- The paths that the middlewares leave alone by default. -/
def defaultExcludedPaths : List String := ["/healthz", "/readyz", "/docs", "/redoc", "/openapi.json"]

/-- Middleware to enforce rate limits on API requests. -/
structure RateLimitMiddleware where
  excludedPaths : List String := defaultExcludedPaths

namespace RateLimitMiddleware

/-- Check if path is excluded from rate limiting. -/
def isExcludedPath (self : RateLimitMiddleware) (path : String) : Bool :=
  self.excludedPaths.any fun excluded => path.startsWith excluded

/-- The exception for a request that exceeds its limit. -/
def rateLimitExceeded (result : RateLimitResult) : ApiError :=
  .rateLimitExceeded "Rate limit exceeded"
    s!"Rate limit of {result.limit} requests per minute exceeded" result.resetAt

/-- Process request with rate limiting. -/
def dispatch {Op : Type} {Ans : Op → Type} {σ : Type} (self : RateLimitMiddleware)
    (service : RateLimitMethods Op Ans σ) (request : HttpRequest) : Proc Op Ans ApiError σ HttpResponse :=
  if self.isExcludedPath request.path then
    service.callNext request
  else
    match request.tenantId with
    | none => service.callNext request
    | some tenantId => do
      let plan := request.tenantPlan.getD "free"
      let result ← service.checkRateLimit tenantId request.path plan
      let response ← service.callNext request
      let rateLimitHeaders ← service.getRateLimitHeaders tenantId request.path plan
      let response := rateLimitHeaders.foldl HttpResponse.setHeader response
      if !result.allowed then
        throw (rateLimitExceeded result)
      else
        service.recordRequest tenantId request.path
        pure response

/-! ## Any rate limit service -/

/-- A call of a method of the service, or of the application. -/
inductive ServiceCall where
  | checkRateLimit (tenantId : UUID) (endpoint plan : String)
  | getRateLimitHeaders (tenantId : UUID) (endpoint plan : String)
  | recordRequest (tenantId : UUID) (endpoint : String)
  | callNext

/-- Each returns, or raises. -/
@[reducible] def ServiceCall.Ans : ServiceCall → Type
  | checkRateLimit _ _ _ => Except ApiError RateLimitResult
  | getRateLimitHeaders _ _ _ => Except ApiError (List (String × String))
  | recordRequest _ _ => Except ApiError Unit
  | callNext => Except ApiError HttpResponse

/-- A service that answers as it likes. -/
def anyService : RateLimitMethods ServiceCall ServiceCall.Ans Unit where
  checkRateLimit tenantId endpoint plan := Proc.tryCall (.checkRateLimit tenantId endpoint plan) id
  getRateLimitHeaders tenantId endpoint plan :=
    Proc.tryCall (.getRateLimitHeaders tenantId endpoint plan) id
  recordRequest tenantId endpoint := Proc.tryCall (.recordRequest tenantId endpoint) id
  callNext _ := Proc.tryCall .callNext id

variable {S : Type}

/-- The run of the middleware, whose calls `env` answers. -/
def served (self : RateLimitMiddleware) (env : Env ServiceCall ServiceCall.Ans S)
    (request : HttpRequest) (s : S) : Prog.Exec ServiceCall S (Except ApiError HttpResponse × Unit) :=
  ((self.dispatch anyService request).on ()).exec env s

/-- What the service answers to the check of a tenant's request. -/
def checked (env : Env ServiceCall ServiceCall.Ans S) (request : HttpRequest) (tenantId : UUID) (s : S) :
    Except ApiError RateLimitResult × S :=
  env (.checkRateLimit tenantId request.path (request.tenantPlan.getD "free")) s

/-- If the check says not allowed, then the application is not called, and nothing but the check happens
before the exception is raised. -/
structure RejectsFirst (middleware : RateLimitMiddleware) (env : Env ServiceCall ServiceCall.Ans S)
    (request : HttpRequest) (tenantId : UUID) (s : S) (result : RateLimitResult) : Prop where
  notCalled : ServiceCall.callNext ∉ (middleware.served env request s).calls
  noEffect : (middleware.served env request s).state = (checked env request tenantId s).2
  result : (middleware.served env request s).result = some (.error (rateLimitExceeded result), ())

/-- The middleware calls the application after the check, whatever it said. -/
theorem callNext_mem_calls {self : RateLimitMiddleware} {env : Env ServiceCall ServiceCall.Ans S}
    {request : HttpRequest} {tenantId : UUID} {s : S} {result : RateLimitResult}
    (hexcluded : self.isExcludedPath request.path = false)
    (htenant : request.tenantId = some tenantId)
    (hchecked : (checked env request tenantId s).1 = .ok result) :
    ServiceCall.callNext ∈ (self.served env request s).calls := by
  unfold checked at hchecked
  simp only [served, dispatch, hexcluded, htenant, Bool.false_eq_true, if_false, Proc.on_bind,
    anyService, Proc.on_tryCall, Prog.call_bind, Prog.ret_bind, Prog.exec_call, id, hchecked,
    Proc.thenOn_ok]
  simp

/-- For a request of a tenant on a path that is not excluded, whatever the service answers: rejections
come first exactly if the request is not rejected. -/
theorem rejectsFirst_iff (self : RateLimitMiddleware) (env : Env ServiceCall ServiceCall.Ans S)
    (request : HttpRequest) (tenantId : UUID) (s : S)
    (hexcluded : self.isExcludedPath request.path = false)
    (htenant : request.tenantId = some tenantId) :
    (∀ result, (checked env request tenantId s).1 = .ok result → result.allowed = false →
      RejectsFirst self env request tenantId s result) ↔
    ∀ result, (checked env request tenantId s).1 = .ok result → result.allowed = true := by
  refine forall₂_congr fun result hchecked => ?_
  constructor
  · intro h
    by_contra hrejected
    have hfirst := h (Bool.eq_false_iff.2 hrejected)
    exact hfirst.notCalled (callNext_mem_calls hexcluded htenant hchecked)
  · intro hallowed hrejected
    cases hallowed.symm.trans hrejected

/-- A service that lets nothing through, before an application that answers. -/
def rejectsAll : Env ServiceCall ServiceCall.Ans Unit
  | .checkRateLimit _ _ _, s => (.ok { allowed := false, limit := 60 }, s)
  | .getRateLimitHeaders _ _ _, s => (.ok [], s)
  | .recordRequest _ _, s => (.ok (), s)
  | .callNext, s => (.ok { statusCode := 201 }, s)

/-- A request of a tenant. -/
def createRun : HttpRequest where
  path := "/v1/runs"
  tenantId := some ⟨1⟩

/-- The condition for a service that refuses everything. -/
theorem rejectsFirst_iff_createRun :
    (∀ result, (checked rejectsAll createRun ⟨1⟩ ()).1 = .ok result → result.allowed = false →
      RejectsFirst {} rejectsAll createRun ⟨1⟩ () result) ↔
    ∀ result, (checked rejectsAll createRun ⟨1⟩ ()).1 = .ok result → result.allowed = true :=
  rejectsFirst_iff {} rejectsAll createRun ⟨1⟩ () (by decide +kernel) rfl

/-- The rejected request is served before it is rejected: its handler has run when
`result.allowed` is read. -/
theorem not_rejectsFirst : ¬∀ (self : RateLimitMiddleware) (env : Env ServiceCall ServiceCall.Ans Unit)
      (request : HttpRequest) (tenantId : UUID) (s : Unit),
    self.isExcludedPath request.path = false → request.tenantId = some tenantId →
    ∀ result, (checked env request tenantId s).1 = .ok result → result.allowed = false →
      RejectsFirst self env request tenantId s result := by
  intro h
  have hexcluded : ({} : RateLimitMiddleware).isExcludedPath createRun.path = false := by
    decide +kernel
  have hchecked : (checked rejectsAll createRun ⟨1⟩ ()).1 = .ok { allowed := false, limit := 60 } := rfl
  have hfirst := h {} rejectsAll createRun ⟨1⟩ () hexcluded rfl _ hchecked rfl
  exact hfirst.notCalled (callNext_mem_calls hexcluded rfl hchecked)

end RateLimitMiddleware

end AgentRuntime
