import AgentRuntime.Cache.RedisServer

/-!
# The bound of a rate limit

`check_rate_limit` names the script to `EVALSHA` by the flag that it was loaded. Redis does not know a
script by that name, so the command raises, the handler fails open, and every check is allowed: the
number of allowed checks is the number of checks (`allowedChecks_le_iff`).
-/

namespace AgentRuntime

open Interaction

/-- A script is named by its digest, once it is loaded. -/
def byDigest (digest : LuaScript → String) : ScriptNames where
  digest
  names
    | .str name, server => server.loaded.find? fun script => digest script = name
    | _, _ => none

namespace RateLimiter

/-- A flag names no script. -/
def RefusesFlags : (o : ApiCall) → o.Ans → Prop
  | .evalsha (.bool _) _ _, answer => ∃ e, answer = .error e
  | .scriptLoad _, answer => ∃ digest, answer = .ok digest
  | _, _ => True

/-- Loading the scripts does not raise. -/
theorem guar_ensureScriptsLoaded (self : RateLimiter) :
    (ensureScriptsLoaded.on self).Guar RefusesFlags (fun _ => True) fun r => r.1 = .ok () := by
  obtain ⟨rateLimitScriptLoaded, concurrencyScriptLoaded⟩ := self
  cases rateLimitScriptLoaded <;> cases concurrencyScriptLoaded <;>
    simp +contextual [ensureScriptsLoaded, await, RefusesFlags, Except.mapError]

/-- The check fails open. -/
theorem guar_checkRateLimit (key : String) (limit windowSeconds : Int) (self : RateLimiter) :
    ((checkRateLimit key limit windowSeconds).on self).Guar RefusesFlags (fun _ => True)
      fun r => ∃ check, r.1 = .ok check ∧ check.allowed = true := by
  rw [checkRateLimit, Proc.on_bind]
  refine Proc.guar_bind (guar_ensureScriptsLoaded self) (fun _ self _ => ?_) nofun
  simp only [now, Proc.on_bind, Proc.on_call, Prog.call_bind, Prog.ret_bind, Proc.thenOn_ok,
    Proc.on_pure, Proc.on_tryCatch, Proc.on_get, await, Proc.on_tryCall]
  refine ⟨trivial, fun clock _ => ⟨trivial, ?_⟩⟩
  rintro _ ⟨e, rfl⟩
  exact ⟨_, rfl, rfl⟩

/-- The calls that have returned, and those that returned that the request is allowed. -/
def finishedChecks (p : Pool ApiCall ApiCall.Ans (Except ApiError LimitCheck × RateLimiter) RedisServer) :
    Nat :=
  p.threads.countP fun thread => thread.returned.isSome

def allowedChecks (p : Pool ApiCall ApiCall.Ans (Except ApiError LimitCheck × RateLimiter) RedisServer) :
    Nat :=
  p.threads.countP fun thread =>
    match thread.returned with
    | some (.ok check, _) => check.allowed
    | _ => false

/-- Calls of `check_rate_limit` for one key that have not started; each finds the rate limiter as it may
be by then. -/
def checkPool (key : String) (limit windowSeconds : Int) (limiters : List RateLimiter)
    (server : RedisServer) :
    Pool ApiCall ApiCall.Ans (Except ApiError LimitCheck × RateLimiter) RedisServer where
  threads := limiters.map fun self => (checkRateLimit key limit windowSeconds).on self
  shared := server

/-- A server that stores its scripts by digest answers a flag in the place of a digest with an error, and
never fails to load a script. -/
theorem apiRules_refusesFlags (digest : LuaScript → String) :
    (apiRules (byDigest digest)).Respect (fun _ => True) RefusesFlags fun _ _ => True := by
  refine ⟨fun reply i o server _ _ => ⟨?_, trivial⟩, fun _ _ _ => trivial⟩
  cases o with
  | scriptLoad script => exact ⟨_, rfl⟩
  | evalsha name key argv =>
    cases name with
    | bool b => exact ⟨_, rfl⟩
    | str s | int n => trivial
  | incr key | expire key seconds | get key | time | callNext => trivial

/-- Every check that has returned allowed its request. -/
theorem allowedChecks_eq (digest : LuaScript → String) (key : String) (limit windowSeconds : Int)
    (limiters : List RateLimiter) (server : RedisServer) (schedule : List (Act ApiReply Nat)) :
    allowedChecks ((checkPool key limit windowSeconds limiters server).run
        (apiRules (byDigest digest)) schedule) =
      finishedChecks ((checkPool key limit windowSeconds limiters server).run
        (apiRules (byDigest digest)) schedule) := by
  have hstart : (checkPool key limit windowSeconds limiters server).Guaranteed (fun _ => True)
      RefusesFlags (fun _ _ => True)
      fun _ r => ∃ check, r.1 = .ok check ∧ check.allowed = true := by
    refine ⟨fun i q hq => ?_, trivial, fun _ _ => trivial⟩
    obtain ⟨self, -, rfl⟩ : ∃ self, limiters[i]? = some self ∧
        (checkRateLimit key limit windowSeconds).on self = q := by simpa [checkPool] using hq
    exact guar_checkRateLimit key limit windowSeconds self
  have hrun := hstart.run (apiRules_refusesFlags digest) schedule
  refine List.countP_congr fun thread hthread => ?_
  obtain ⟨i, hi⟩ := List.mem_iff_getElem?.1 hthread
  cases hreturned : thread.returned with
  | none => simp
  | some ending =>
    rw [Prog.returned_eq_some.1 hreturned] at hi
    obtain ⟨check, hcheck, hallowed⟩ := hrun.ending (Pool.ending_eq_some.2 hi)
    obtain ⟨result, self⟩ := ending
    obtain rfl : result = .ok check := hcheck
    simpa using hallowed

/-- At any moment of any schedule, no more than `limit` checks have allowed their requests exactly if no
more than `limit` checks have been made. -/
theorem allowedChecks_le_iff (digest : LuaScript → String) (key : String) (limit : Nat)
    (windowSeconds : Int) (limiters : List RateLimiter) (server : RedisServer)
    (schedule : List (Act ApiReply Nat)) :
    allowedChecks ((checkPool key limit windowSeconds limiters server).run
        (apiRules (byDigest digest)) schedule) ≤ limit ↔
      finishedChecks ((checkPool key limit windowSeconds limiters server).run
        (apiRules (byDigest digest)) schedule) ≤ limit := by
  rw [allowedChecks_eq]

/-- Two checks of a loaded rate limiter for a counter that has reached the limit of one, while its entry
is alive. -/
theorem not_allowedChecks_le : ¬∀ (digest : LuaScript → String) (key : String) (limit : Nat)
      (windowSeconds : Int) (limiters : List RateLimiter) (server : RedisServer)
      (schedule : List (Act ApiReply Nat)),
    (Redis.lookup ((checkPool key limit windowSeconds limiters server).run
      (apiRules (byDigest digest)) schedule).shared.clock key server.store).isSome = true →
    allowedChecks ((checkPool key limit windowSeconds limiters server).run
      (apiRules (byDigest digest)) schedule) ≤ limit := by
  intro h
  let digest (script : LuaScript) : String :=
    if script = .rateLimit then "rate" else "concurrency"
  let server : RedisServer :=
    { store := Redis.set 0 "k" 1 (some 60000) fun _ => none, loaded := [.rateLimit, .concurrency] }
  let next (i : Nat) : Act ApiReply Nat := .thread i {}
  have htwo := h digest "k" 1 60 [⟨true, true⟩, ⟨true, true⟩] server [next 0, next 0, next 1, next 1]
    (by decide)
  revert htwo
  decide

end RateLimiter

end AgentRuntime
