import AgentRuntime.Cache.RateLimiter

/-!
# The rate limit service

`RateLimitService` (`app/application/services/rate_limit_service.py`) over the rate limiter. The limits
of a plan are looked up outside the `try` of each method: without an entry for `free` every method that
needs them raises.
-/

namespace AgentRuntime

open Interaction

/-- Result of rate limit check. -/
structure RateLimitResult where
  allowed : Bool
  remaining : Int := 0
  resetAt : Int := 0
  limit : Int := 0
  reason : Option String := none
  deriving DecidableEq, Repr

/-- The limits of a plan. -/
structure PlanLimits where
  requestsPerMinute : Option Int := none
  concurrentRuns : Option Int := none

/-- Service for rate limiting and concurrency control. -/
structure RateLimitService where
  defaultLimits : String → Option PlanLimits

namespace RateLimitService

/-- The limits of a service that is built without any. -/
def builtin : RateLimitService where
  defaultLimits
    | "free" => some ⟨some 60, some 5⟩
    | "starter" => some ⟨some 120, some 20⟩
    | "professional" => some ⟨some 300, some 50⟩
    | "enterprise" => some ⟨some 600, some 100⟩
    | _ => none

/-- `_default_limits.get(plan, _default_limits["free"])`. -/
def limits (self : RateLimitService) (plan : String) : Except PyError PlanLimits :=
  match self.defaultLimits "free" with
  | none => .error (.external "KeyError: 'free'")
  | some free => .ok ((self.defaultLimits plan).getD free)

/-- `limits.get("requests_per_minute", 60)`. -/
def requestsPerMinute (self : RateLimitService) (plan : String) : Except PyError Int :=
  (self.limits plan).map fun limits => limits.requestsPerMinute.getD 60

/-- `limits.get("concurrent_runs", 5)`. -/
def concurrentRuns (self : RateLimitService) (plan : String) : Except PyError Int :=
  (self.limits plan).map fun limits => limits.concurrentRuns.getD 5

/-- The counter of a tenant's requests to an endpoint. -/
def requestsKey (tenantId : UUID) (endpoint : String) : String := s!"tenant:{tenantId.str}:{endpoint}"

/-- The counter of a tenant's runs. -/
def runsKey (tenantId : UUID) : String := s!"tenant:{tenantId.str}:concurrent_runs"

/-- The counter of all runs. -/
def globalRunsKey : String := "global:concurrent_runs"

variable (self : RateLimitService)

/-- Check if tenant is within rate limits. -/
def checkRateLimit (tenantId : UUID) (endpoint plan : String) : RateLimiter.Call RateLimitResult := do
  let requestsPerMinute ← Proc.ofExcept ((self.requestsPerMinute plan).mapError .raised)
  tryCatch
    (do
      let result ← RateLimiter.checkRateLimit (requestsKey tenantId endpoint) requestsPerMinute 60
      if result.allowed then
        pure { allowed := true, remaining := result.remaining, resetAt := result.resetAt
               limit := requestsPerMinute }
      else
        pure { allowed := false, remaining := 0, resetAt := result.resetAt, limit := requestsPerMinute
               reason := some "Rate limit exceeded" })
    -- fail open
    fun _ => pure { allowed := true, remaining := requestsPerMinute, limit := requestsPerMinute }

/-- Check if tenant is within concurrent run limits. -/
def checkConcurrentRuns (tenantId : UUID) (plan : String) : RateLimiter.Call RateLimitResult := do
  let maxConcurrent ← Proc.ofExcept ((self.concurrentRuns plan).mapError .raised)
  tryCatch
    (do
      let result ← RateLimiter.checkConcurrency (runsKey tenantId) maxConcurrent
      if result.allowed then
        pure { allowed := true, remaining := result.remaining, limit := maxConcurrent }
      else
        pure { allowed := false, remaining := 0, limit := maxConcurrent
               reason := some "Concurrent run limit exceeded" })
    -- fail open
    fun _ => pure { allowed := true, remaining := maxConcurrent, limit := maxConcurrent }

/-- Record a request for rate limiting. -/
def recordRequest (tenantId : UUID) (endpoint : String) : RateLimiter.Call Unit :=
  tryCatch
    (do
      let _ ← RateLimiter.recordRequest (requestsKey tenantId endpoint) 60
      pure ())
    fun _ => pure ()

/-- Record a run start for concurrency tracking. -/
def recordRunStart (tenantId : UUID) : RateLimiter.Call Unit :=
  tryCatch
    (do
      let _ ← RateLimiter.incrementConcurrency (runsKey tenantId)
      let _ ← RateLimiter.incrementConcurrency globalRunsKey
      pure ())
    fun _ => pure ()

/-- Record a run end for concurrency tracking. -/
def recordRunEnd (tenantId : UUID) : RateLimiter.Call Unit :=
  tryCatch
    (do
      let _ ← RateLimiter.decrementConcurrency (runsKey tenantId)
      let _ ← RateLimiter.decrementConcurrency globalRunsKey
      pure ())
    fun _ => pure ()

/-- Get rate limit headers for response. -/
def getRateLimitHeaders (tenantId : UUID) (endpoint plan : String) :
    RateLimiter.Call (List (String × String)) := do
  let limit ← Proc.ofExcept ((self.requestsPerMinute plan).mapError .raised)
  tryCatch
    (do
      let (remaining, resetAt) ← RateLimiter.getCurrentUsage (requestsKey tenantId endpoint) 60
      pure [("X-RateLimit-Limit", toString limit), ("X-RateLimit-Remaining", toString remaining),
        ("X-RateLimit-Reset", toString resetAt)])
    fun _ => pure [("X-RateLimit-Limit", toString limit), ("X-RateLimit-Remaining", toString limit),
      ("X-RateLimit-Reset", "0")]

end RateLimitService

end AgentRuntime
