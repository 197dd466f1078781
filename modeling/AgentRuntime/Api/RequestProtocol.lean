import AgentRuntime.Api.RateLimitMiddleware
import AgentRuntime.Cache.RedisServer

/-!
# The commands of a request

What `RateLimitMiddleware.dispatch` does to the counter of a request, over the service's own methods and
where `EVALSHA` runs the rate limit script: one check, and after it, if it allowed the request, at most
one `INCR` and one `EXPIRE` (`requestProtocol`).
-/

namespace AgentRuntime

open Interaction

/-- The service's own methods, before an application. -/
def RateLimitService.methods (self : RateLimitService) :
    RateLimitMethods ApiCall ApiCall.Ans RateLimiter where
  checkRateLimit := self.checkRateLimit
  getRateLimitHeaders := self.getRateLimitHeaders
  recordRequest := RateLimitService.recordRequest
  callNext _ := RateLimiter.await .callNext id

/-- Where a request is: not checked, checked, or counted once more by `record_request`. -/
inductive RequestPhase where
  | unchecked
  | checked (allowed : Bool)
  | counted

/-- A request is checked against the limit once; if it is admitted then it may be counted once more, and
the expiry set. -/
def requestProtocol (key : String) (limit : Int) :
    Protocol ApiCall ApiCall.Ans (Except ApiError HttpResponse × RateLimiter) RequestPhase where
  may
    | .unchecked, .evalsha _ key' argv => key' = key ∧ ∃ now, argv = [.int limit, .int 60, .int now]
    | .checked allowed, .incr key' => allowed = true ∧ key' = key
    | .counted, .expire key' seconds => key' = key ∧ seconds = 60
    | _, .evalsha _ _ _ | _, .incr _ | _, .expire _ _ => False
    | _, _ => True
  next
    | .unchecked, .evalsha _ _ _, .ok (first :: _) => .checked (0 < first)
    | .checked _, .incr _, .ok _ => .counted
    | g, _, _ => g
  returns _ _ := True

section
variable {key : String} {limit : Int}

/-- Only checks and counts move a request on. -/
def ApiCall.moves : ApiCall → Bool
  | .evalsha _ _ _ | .incr _ => true
  | _ => false

/-- A call that takes no part in the rate limit leaves the phase of the request as it is. -/
theorem requestProtocol_next {g : RequestPhase} {o : ApiCall} (answer : o.Ans) (ho : o.moves = false) :
    (requestProtocol key limit).next g o answer = g := by
  cases o with
  | evalsha digest key argv | incr key => cases ho
  | scriptLoad _ | expire _ _ | get _ | time | callNext => cases g <;> rfl

/-- Only a count counts a request once more. -/
theorem requestProtocol_next_ne_counted {g : RequestPhase} {o : ApiCall} {answer : o.Ans}
    (hg : g ≠ .counted) (hincr : ∀ key', o ≠ .incr key') :
    (requestProtocol key limit).next g o answer ≠ .counted := by
  cases o with
  | evalsha digest key' argv =>
    cases g with
    | unchecked =>
      match answer with
      | .ok (first :: _) | .ok [] | .error _ => exact nofun
    | checked allowed => exact nofun
    | counted => exact absurd rfl hg
  | incr key' => exact absurd rfl (hincr key')
  | scriptLoad _ | expire _ _ | get _ | time | callNext => rwa [requestProtocol_next _ rfl]

/-- A check of the limiter ends in the phase that its answer says. -/
theorem RateLimiter.follows_checkRateLimit (limiter : RateLimiter) :
    ((RateLimiter.checkRateLimit key limit 60).on limiter).Follows (Runs .rateLimit)
      ((requestProtocol key limit).returning
        fun g r => ∃ check, r.1 = .ok check ∧ g = .checked check.allowed) .unchecked := by
  have hload := RateLimiter.follows_ensureScriptsLoaded (requestProtocol key limit) (g := .unchecked)
    (fun _ => trivial) (fun _ _ => rfl) .rateLimit limiter
  rw [RateLimiter.checkRateLimit]
  refine Proc.follows_bind (R := fun g r => g = RequestPhase.unchecked ∧ r.1 = .ok ()) ?_ ?_ ?_
  · exact hload
  · rintro _ _ limiter ⟨rfl, -⟩
    simp only [RateLimiter.now, Proc.on_bind, Proc.on_call, Prog.call_bind, Prog.ret_bind,
      Proc.thenOn_ok, Proc.on_pure, Proc.on_tryCatch, Proc.on_get, RateLimiter.await,
      Proc.on_tryCall]
    refine ⟨trivial, fun clock _ => ⟨⟨rfl, _, rfl⟩, ?_⟩⟩
    rintro _ ⟨clock', store, rfl⟩
    obtain ⟨first, remaining, resetAt, hreply⟩ :=
      rateLimit_reply key limit (clock / 1000 : Nat) (show (0 : Int) < 60 by decide) clock' store
    rw [hreply]
    exact ⟨_, rfl, rfl⟩
  · rintro _ e limiter ⟨-, h⟩
    cases h

/-- So does a check of the service. -/
theorem RateLimitService.follows_checkRateLimit (service : RateLimitService) (tenantId : UUID)
    (endpoint plan : String) (hlimit : service.requestsPerMinute plan = .ok limit)
    (limiter : RateLimiter) :
    ((service.checkRateLimit tenantId endpoint plan).on limiter).Follows (Runs .rateLimit)
      ((requestProtocol (requestsKey tenantId endpoint) limit).returning
        fun g r => ∃ result, r.1 = .ok result ∧ g = .checked result.allowed) .unchecked := by
  simp only [checkRateLimit, hlimit, Except.mapError, Proc.ofExcept, pure_bind]
  refine Proc.follows_tryCatch_of_ok ?_ ?_ _
  · refine Proc.follows_bind
      (R := fun g r => ∃ check, r.1 = .ok check ∧ g = .checked check.allowed) ?_ ?_ ?_
    · exact RateLimiter.follows_checkRateLimit limiter
    · rintro _ check limiter ⟨check', hcheck, rfl⟩
      obtain rfl := Except.ok.inj hcheck
      cases hallowed : check.allowed with
      | false => exact ⟨_, rfl, rfl⟩
      | true => exact ⟨_, rfl, rfl⟩
    · rintro _ e limiter ⟨check, h, -⟩
      cases h
  · rintro _ e limiter ⟨check, h, -⟩
    cases h

/-- The headers are computed without a step. -/
theorem RateLimitService.follows_getRateLimitHeaders (service : RateLimitService) (tenantId : UUID)
    (endpoint plan : String) (hlimit : service.requestsPerMinute plan = .ok limit) (allowed : Bool)
    (limiter : RateLimiter) :
    ((service.getRateLimitHeaders tenantId endpoint plan).on limiter).Follows (Runs .rateLimit)
      ((requestProtocol key limit).returning
        fun g r => g = .checked allowed ∧ ∃ headers, r.1 = .ok headers) (.checked allowed) := by
  simp only [getRateLimitHeaders, hlimit, Except.mapError, Proc.ofExcept, pure_bind,
    RateLimiter.getCurrentUsage, RateLimiter.now, RateLimiter.await, Proc.on_tryCatch, Proc.on_bind,
    Proc.on_tryCall, Prog.call_bind, Prog.ret_bind]
  refine ⟨trivial, fun current _ => ?_⟩
  cases current with
  | error e => exact ⟨trivial, fun clock _ => ⟨rfl, _, rfl⟩⟩
  | ok current => exact ⟨trivial, fun clock _ => ⟨rfl, _, rfl⟩⟩

/-- An admitted request may be counted once more. -/
theorem RateLimitService.follows_recordRequest (tenantId : UUID) (endpoint : String)
    (limiter : RateLimiter) :
    ((recordRequest tenantId endpoint).on limiter).Follows (Runs .rateLimit)
      ((requestProtocol (requestsKey tenantId endpoint) limit).returning
        fun _ r => r.1 = .ok ()) (.checked true) := by
  simp only [recordRequest, RateLimiter.recordRequest, RateLimiter.await, Proc.on_tryCatch,
    Proc.on_bind, Proc.on_tryCall, Prog.call_bind, Prog.ret_bind]
  refine ⟨⟨rfl, rfl⟩, fun count _ => ?_⟩
  cases count with
  | error e => exact rfl
  | ok count =>
    refine ⟨⟨rfl, rfl⟩, fun expired _ => ?_⟩
    cases expired with
    | error e => exact rfl
    | ok expired => exact rfl

end

/-- The counter that a request is checked against, and the limit of its plan. -/
def RateLimitService.requestCounter (service : RateLimitService) (request : HttpRequest) : String × Int :=
  match request.tenantId, service.requestsPerMinute (request.tenantPlan.getD "free") with
  | some tenantId, .ok limit => (requestsKey tenantId request.path, limit)
  | _, _ => ("", 0)

namespace RateLimitMiddleware

/-- A request follows its protocol. -/
theorem follows_dispatch (self : RateLimitMiddleware) (service : RateLimitService)
    (request : HttpRequest) (limiter : RateLimiter) :
    ((self.dispatch service.methods request).on limiter).Follows (Runs .rateLimit)
      (requestProtocol (service.requestCounter request).1 (service.requestCounter request).2)
      .unchecked := by
  rw [dispatch, Proc.on_ite]
  split
  · exact ⟨trivial, fun _ _ => trivial⟩
  · cases htenant : request.tenantId with
    | none => exact ⟨trivial, fun _ _ => trivial⟩
    | some tenantId =>
      cases hlimit : service.requestsPerMinute (request.tenantPlan.getD "free") with
      | error e =>
        -- the plan's limits are looked up first
        simp only [RateLimitService.methods, RateLimitService.checkRateLimit, hlimit, Except.mapError,
          Proc.ofExcept, Proc.on_bind, Proc.on_throw, Prog.ret_bind, Proc.thenOn_error]
        trivial
      | ok limit =>
        simp only [RateLimitService.requestCounter, htenant, hlimit]
        refine Proc.follows_bind
          (R := fun g r => ∃ result, r.1 = .ok result ∧ g = .checked result.allowed) ?_ ?_ ?_
        · exact service.follows_checkRateLimit tenantId request.path _ hlimit limiter
        · rintro _ result limiter ⟨result', hresult, rfl⟩
          obtain rfl := Except.ok.inj hresult
          refine Proc.follows_tryCall_bind trivial (fun answer response _ _ => ?_) fun _ _ _ _ => trivial
          refine Proc.follows_bind
            (R := fun g r => g = .checked result.allowed ∧ ∃ headers, r.1 = .ok headers) ?_ ?_ ?_
          · exact service.follows_getRateLimitHeaders tenantId request.path _ hlimit _ limiter
          · rintro _ headers limiter ⟨rfl, -⟩
            cases hallowed : result.allowed with
            | false => trivial
            | true =>
              refine Proc.follows_bind (R := fun _ r => r.1 = .ok ()) ?_ ?_ ?_
              · exact RateLimitService.follows_recordRequest tenantId request.path limiter
              · intro _ _ _ _
                trivial
              · intro _ _ _ _
                trivial
          · intro _ _ _ _
            trivial
        · intro _ _ _ _
          trivial

end RateLimitMiddleware

end AgentRuntime
