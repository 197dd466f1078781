import AgentRuntime.Cache.RedisServer
import AgentRuntime.Python.Integers
import AgentRuntime.Services.RateLimitService

/-!
# The quota that a rate limit reports

Within one window, the first branch of `RATE_LIMIT_SCRIPT` (`app/infrastructure/cache/rate_limiter.py`)
reports the whole limit as what remains, and the branch that counts reports a reset time that moves on with
each call; `get_current_usage`, which the headers are made from, reckons with a limit of 60 whatever the plan.
-/

namespace AgentRuntime

open Interaction

namespace LuaScript

/-- A run of the rate limit script: the server's time in milliseconds, and the time in seconds that the caller
gives it. -/
structure Execution where
  clock : Nat
  now : Int

/-- When the counter that this execution creates expires. -/
def windowEnd (window : Int) (first : Execution) : Nat := first.clock + (window * 1000).toNat

section
variable (key : String) (limit window : Int)

/-- The reply to an execution, and the store that it leaves. -/
def Execution.on (call : Execution) (store : Redis.Store Int) : Except PyError (List Int) × Redis.Store Int :=
  rateLimitReply key limit window call.now call.clock store

def storeAfter (calls : List Execution) (store : Redis.Store Int) : Redis.Store Int :=
  calls.foldl (fun store call => (call.on key limit window store).2) store

/-- The reply to the execution `i`. -/
def replyAt (calls : List Execution) (store : Redis.Store Int) (i : Nat) : Option (Except PyError (List Int)) :=
  calls[i]?.map fun call => (call.on key limit window (storeAfter key limit window (calls.take i) store)).1

/-- `result[i]`. -/
def item (reply : Except PyError (List Int)) (i : Nat) : Option Int :=
  match reply with
  | .ok result => result[i]?
  | .error _ => none

/-- `result[0] > 0`. -/
def Admits (reply : Except PyError (List Int)) : Bool := (item reply 0).any (0 < ·)

/-- How many of the first `n` executions are admitted. -/
def admittedCount (calls : List Execution) (store : Redis.Store Int) (n : Nat) : Nat :=
  (List.range n).countP fun i => (replyAt key limit window calls store i).any Admits

/-- The executions are those of one window: the first finds no counter, and the counter that it creates is
alive at each. -/
structure InWindow (first : Execution) (rest : List Execution) (store : Redis.Store Int) : Prop where
  fresh : Redis.lookup first.clock key store = none
  alive : ∀ call ∈ rest, call.clock ≤ windowEnd window first

end

/-- When the counter expires. -/
def expiresAt (clock : Nat) (key : String) (store : Redis.Store Int) : Option Nat :=
  (Redis.lookup clock key store).bind Redis.Entry.expireAt

section
variable {key : String} {limit window : Int} {store : Redis.Store Int} {t : Nat}

/-! ## One window -/

/-- An execution that finds the counter at `n`. -/
theorem Execution.on_of_some (limit window : Int) {call : Execution} {n : Int}
    (hkey : store key = some ⟨n, some t⟩)
    (halive : call.clock ≤ t) : call.on key limit window store =
      if limit ≤ n then (.ok [0, 0, call.now + ((t : Int) - call.clock) / 1000], store)
      else (.ok [n + 1, limit - (n + 1), call.now + window],
        Function.update store key (some ⟨n + 1, some t⟩)) := by
  have hlookup : Redis.lookup call.clock key store = some ⟨n, some t⟩ :=
    Redis.lookup_eq_some.2 ⟨hkey, fun t' ht' => Option.some.inj ht' ▸ halive⟩
  rw [on, rateLimitReply_of_some hlookup rfl, Redis.incrBy, hlookup]
  rfl

/-- The counter counts up to the limit, and keeps its expiry. -/
theorem storeAfter_of_some {n : Int} (hkey : store key = some ⟨n, some t⟩) (hle : n ≤ limit)
    {calls : List Execution} (halive : ∀ call ∈ calls, call.clock ≤ t) :
    storeAfter key limit window calls store key = some ⟨min (n + calls.length) limit, some t⟩ := by
  induction calls generalizing n store with
  | nil =>
    rw [storeAfter, List.foldl_nil, hkey, List.length_nil, Int.natCast_zero, Int.add_zero, min_eq_left hle]
  | cons call calls ih =>
    obtain ⟨hcall, hcalls⟩ := List.forall_mem_cons.1 halive
    have hon := Execution.on_of_some limit window hkey hcall
    change storeAfter key limit window calls (call.on key limit window store).2 key = _
    rw [List.length_cons]
    by_cases hreached : limit ≤ n
    · rw [if_pos hreached] at hon
      rw [hon, ih hkey hle hcalls]
      congr 2
      omega
    · rw [if_neg hreached] at hon
      rw [hon, ih (Function.update_self ..) (by omega) hcalls]
      congr 2
      omega

variable {first : Execution} {rest : List Execution}

/-- The executions so far, up to the limit, are counted. -/
theorem InWindow.storeAfter_eq (h : InWindow key window first rest store) (hlimit : 1 ≤ limit)
    (hwindow : 0 < window) {i : Nat} (hi : i ≤ rest.length) :
    storeAfter key limit window ((first :: rest).take (i + 1)) store key =
      some ⟨min (i + 1) limit, some (windowEnd window first)⟩ := by
  have hfirst : (first.on key limit window store).2 key = some ⟨1, some (windowEnd window first)⟩ := by
    rw [Execution.on, rateLimitReply_of_none hwindow h.fresh]
    exact Function.update_self ..
  rw [List.take_succ_cons]
  change storeAfter key limit window (rest.take i) (first.on key limit window store).2 key = _
  rw [storeAfter_of_some hfirst hlimit fun call hcall => h.alive call (List.mem_of_mem_take hcall),
    List.length_take, Nat.min_eq_left hi, Int.add_comm]

/-- What an execution is told: the first that the whole limit remains. -/
theorem InWindow.replyAt_eq (h : InWindow key window first rest store) (hlimit : 1 ≤ limit) (hwindow : 0 < window)
    {i : Nat} {call : Execution} (hcall : (first :: rest)[i]? = some call) :
    replyAt key limit window (first :: rest) store i = some (.ok
      (if limit ≤ i then [0, 0, call.now + ((windowEnd window first : Int) - call.clock) / 1000]
      else [i + 1, if i = 0 then limit else limit - (i + 1), call.now + window])) := by
  rw [replyAt, hcall, Option.map_some]
  cases i with
  | zero =>
    obtain rfl : first = call := Option.some.inj hcall
    rw [if_neg (by omega), if_pos rfl, List.take_zero, storeAfter, List.foldl_nil, Execution.on,
      rateLimitReply_of_none hwindow h.fresh]
    rfl
  | succ i =>
    rw [List.getElem?_cons_succ] at hcall
    have hi : i < rest.length := (List.getElem?_eq_some_iff.1 hcall).1
    rw [Execution.on_of_some limit window (h.storeAfter_eq hlimit hwindow hi.le)
      (h.alive call (List.mem_of_getElem? hcall))]
    by_cases hreached : limit ≤ (i + 1 : Nat)
    · rw [if_pos (by omega), if_pos hreached]
    · have hcount : min ((i : Int) + 1) limit = (i + 1 : Nat) := by omega
      rw [hcount, if_neg hreached, if_neg hreached, if_neg i.succ_ne_zero]

/-- Up to the limit, all executions are admitted. -/
theorem InWindow.admits_iff (h : InWindow key window first rest store) (hlimit : 1 ≤ limit) (hwindow : 0 < window)
    {i : Nat} (hi : i < (first :: rest).length) :
    (replyAt key limit window (first :: rest) store i).any Admits = true ↔ (i : Int) < limit := by
  rw [h.replyAt_eq hlimit hwindow (List.getElem?_eq_getElem hi), Option.any_some, Admits, item]
  split
  · next hreached => simpa using hreached
  · next hreached =>
    have hpos : (0 : Int) < i + 1 := by omega
    simpa [hpos] using hreached

/-- Within a window, the first requests up to the limit are all admitted. -/
theorem InWindow.admittedCount_eq (h : InWindow key window first rest store) (hlimit : 1 ≤ limit)
    (hwindow : 0 < window) {i : Nat} (hi : i < (first :: rest).length) (hadmitted : (i : Int) < limit) :
    admittedCount key limit window (first :: rest) store (i + 1) = i + 1 := by
  have hall : admittedCount key limit window (first :: rest) store (i + 1) = (List.range (i + 1)).length := by
    refine List.countP_eq_length.2 fun j hj => ?_
    rw [List.mem_range] at hj
    exact (h.admits_iff hlimit hwindow (by omega)).2 (by omega)
  rw [hall, List.length_range]

end

end LuaScript

open LuaScript

namespace RateLimitService

/-- The headers, if Redis answers at this time. -/
def headersAt (self : RateLimitService) (tenantId : UUID) (endpoint plan : String) (clock : Nat)
    (store : Redis.Store Int) : Option (Except ApiError (List (String × String))) :=
  (((self.getRateLimitHeaders tenantId endpoint plan).on {}).exec (apiAnswer (always .rateLimit) {} 0)
    ⟨store, [], clock⟩).result.map Prod.fst

/-- An execution that is the `k`-th admitted is told what remains and when the key expires, and as long as no
other execution follows, the headers of the key show what it was told. -/
structure ReportsQuota (service : RateLimitService) (plan key : String) (limit : Int) (clock : Nat)
    (reply : Except PyError (List Int)) (k : Nat) (after : Redis.Store Int) : Prop where
  remaining : item reply 1 = some (limit - k)
  resetAt : item reply 2 = (expiresAt clock key after).map fun t => ((t / 1000 : Nat) : Int)
  headers : ∀ tenantId endpoint, key = requestsKey tenantId endpoint →
    ∀ clock', clock ≤ clock' → (∀ t ∈ expiresAt clock key after, clock' ≤ t) →
      ∀ remaining ∈ item reply 1, ∃ reset, service.headersAt tenantId endpoint plan clock' after =
        some (.ok [("X-RateLimit-Limit", toString limit), ("X-RateLimit-Remaining", toString remaining),
          ("X-RateLimit-Reset", reset)])

/-- The execution `i`, if it is admitted, is told its quota. -/
def QuotaReported (self : RateLimitService) (plan key : String) (limit window : Int) (calls : List Execution)
    (store : Redis.Store Int) (i : Nat) : Prop :=
  ∀ call reply, calls[i]? = some call → replyAt key limit window calls store i = some reply → Admits reply = true →
    self.ReportsQuota plan key limit call.clock reply (admittedCount key limit window calls store (i + 1))
      (storeAfter key limit window (calls.take (i + 1)) store)

/-- The headers show what remains of 60. -/
theorem headersAt_eq {self : RateLimitService} {plan : String} {limit : Int}
    (hplan : self.requestsPerMinute plan = .ok limit) (tenantId : UUID) (endpoint : String) (clock : Nat)
    (store : Redis.Store Int) : self.headersAt tenantId endpoint plan clock store =
      some (.ok [("X-RateLimit-Limit", toString limit),
        ("X-RateLimit-Remaining",
          toString (max 0 (60 - Redis.counter clock (requestsKey tenantId endpoint) store))),
        ("X-RateLimit-Reset", toString ((clock / 1000 : Nat) + 60 : Int))]) := by
  simp [headersAt, getRateLimitHeaders, RateLimiter.getCurrentUsage, RateLimiter.await, RateLimiter.now, hplan,
    Except.mapError, apiAnswer, ApiReply.plain, Redis.counter]

/-! ## One execution -/

section
variable {self : RateLimitService} {plan key : String} {limit : Int} {clock t : Nat} {k : Nat}
  {after : Redis.Store Int}

/-- What is told is the quota exactly if it is what remains and when the key expires, and what remains of 60. -/
theorem reportsQuota_iff (hplan : self.requestsPerMinute plan = .ok limit)
    (hafter : after key = some ⟨k, some t⟩) (hclock : clock ≤ t) (current remaining resetAt : Int) :
    self.ReportsQuota plan key limit clock (.ok [current, remaining, resetAt]) k after ↔
      remaining = limit - k ∧ resetAt = (t / 1000 : Nat) ∧
        ((∃ tenantId endpoint, key = requestsKey tenantId endpoint) →
          remaining = max 0 (60 - (k : Int))) := by
  have hlookup {clock' : Nat} (h : clock' ≤ t) : Redis.lookup clock' key after = some ⟨k, some t⟩ :=
    Redis.lookup_eq_some.2 ⟨hafter, fun t' ht' => Option.some.inj ht' ▸ h⟩
  have hexpires : expiresAt clock key after = some t := by rw [expiresAt, hlookup hclock, Option.bind_some]
  have hheaders {tenantId : UUID} {endpoint : String} (hkey : key = requestsKey tenantId endpoint) {clock' : Nat}
      (h : clock' ≤ t) : self.headersAt tenantId endpoint plan clock' after =
        some (.ok [("X-RateLimit-Limit", toString limit),
          ("X-RateLimit-Remaining", toString (max 0 (60 - (k : Int)))),
          ("X-RateLimit-Reset", toString ((clock' / 1000 : Nat) + 60 : Int))]) := by
    rw [headersAt_eq hplan, ← hkey, Redis.counter_eq, hlookup h, Option.getD_some]
  constructor
  · rintro ⟨hremaining, hreset, hshown⟩
    rw [hexpires] at hreset hshown
    refine ⟨Option.some.inj hremaining, Option.some.inj hreset, ?_⟩
    rintro ⟨tenantId, endpoint, hkey⟩
    obtain ⟨reset, hheader⟩ := hshown tenantId endpoint hkey clock Nat.le.refl (fun t' ht' =>
      Option.some.inj ht' ▸ hclock) remaining rfl
    rw [hheaders hkey hclock] at hheader
    simp only [Option.some.injEq, Except.ok.injEq, List.cons.injEq, Prod.mk.injEq, toString_int_inj] at hheader
    exact hheader.2.1.2.symm
  · rintro ⟨rfl, rfl, hshown⟩
    refine ⟨rfl, by rw [hexpires]; rfl, fun tenantId endpoint hkey clock' _ halive remaining hremaining => ?_⟩
    obtain rfl := Option.some.inj hremaining
    rw [hexpires] at halive
    rw [hheaders hkey (halive t rfl), hshown ⟨tenantId, endpoint, hkey⟩]
    exact ⟨_, rfl⟩

end

/-- The window ends so many seconds after its first request as it is long. -/
theorem windowEnd_div {window : Int} (hwindow : 0 < window) (first : LuaScript.Execution) :
    ((windowEnd window first / 1000 : Nat) : Int) = (first.clock / 1000 : Nat) + window := by
  unfold windowEnd
  omega

/-- An execution of a window that is admitted. -/
theorem reportsQuota_of_inWindow {self : RateLimitService} {plan key : String} {limit window : Int}
    {first : Execution} {rest : List Execution} {store : Redis.Store Int} {i : Nat}
    (hplan : self.requestsPerMinute plan = .ok limit) (hlimit : 1 ≤ limit) (hwindow : 0 < window)
    (hin : InWindow key window first rest store) {call : Execution} (hcall : (first :: rest)[i]? = some call)
    (hadmitted : (i : Int) < limit) :
    self.ReportsQuota plan key limit call.clock
        (.ok [i + 1, if i = 0 then limit else limit - (i + 1), call.now + window]) (i + 1)
        (storeAfter key limit window ((first :: rest).take (i + 1)) store) ↔
      i ≠ 0 ∧ call.now = (first.clock / 1000 : Nat) ∧
        ((∃ tenantId endpoint, key = requestsKey tenantId endpoint) →
          limit = 60 ∨ (i + 1 = limit ∧ 60 < limit)) := by
  have hi : i < (first :: rest).length := (List.getElem?_eq_some_iff.1 hcall).1
  have hafter : storeAfter key limit window ((first :: rest).take (i + 1)) store key =
      some ⟨((i + 1 : Nat) : Int), some (windowEnd window first)⟩ := by
    rw [hin.storeAfter_eq hlimit hwindow (Nat.le_of_lt_succ hi), min_eq_left (by omega)]
    rfl
  have hclock : call.clock ≤ windowEnd window first := by
    rcases List.mem_cons.1 (List.mem_of_getElem? hcall) with rfl | hmem
    · exact Nat.le_add_right _ _
    · exact hin.alive call hmem
  rw [reportsQuota_iff hplan hafter hclock, windowEnd_div hwindow]
  rcases Nat.eq_zero_or_pos i with rfl | hpos
  · refine iff_of_false (fun h => ?_) fun h => h.1 rfl
    have hremaining := h.1
    rw [if_pos rfl] at hremaining
    omega
  · rw [if_neg hpos.ne']
    refine and_congr ⟨fun _ => hpos.ne', fun _ => by omega⟩ (and_congr ⟨fun h => by omega, fun h => by omega⟩ ?_)
    exact imp_congr_right fun _ => by omega

/-- An execution is told its quota exactly if it is not admitted, or if it is not the first, the second in
which the window began is not over for its caller and, where there are headers of the key, the limit is 60 or a
higher one that is now reached. -/
theorem quotaReported_iff (self : RateLimitService) (plan key : String) (limit window : Int) (first : Execution)
    (rest : List Execution) (store : Redis.Store Int) (i : Nat)
    (hplan : self.requestsPerMinute plan = .ok limit) (hlimit : 1 ≤ limit) (hwindow : 0 < window)
    (hin : InWindow key window first rest store) :
    self.QuotaReported plan key limit window (first :: rest) store i ↔
      ∀ call, (first :: rest)[i]? = some call → (i : Int) < limit →
        i ≠ 0 ∧ call.now = (first.clock / 1000 : Nat) ∧
          ((∃ tenantId endpoint, key = requestsKey tenantId endpoint) →
            limit = 60 ∨ (i + 1 = limit ∧ 60 < limit)) := by
  constructor
  · intro h call hcall hadmitted
    have hi : i < (first :: rest).length := (List.getElem?_eq_some_iff.1 hcall).1
    have hreply := hin.replyAt_eq hlimit hwindow hcall
    have hadmits := (hin.admits_iff hlimit hwindow hi).2 hadmitted
    rw [if_neg (Int.not_le.2 hadmitted)] at hreply
    rw [hreply] at hadmits
    have hquota := h call _ hcall hreply hadmits
    rw [hin.admittedCount_eq hlimit hwindow hi hadmitted] at hquota
    exact (reportsQuota_of_inWindow hplan hlimit hwindow hin hcall hadmitted).1 hquota
  · intro h call reply hcall hreply hadmits
    have hi : i < (first :: rest).length := (List.getElem?_eq_some_iff.1 hcall).1
    have hadmitted : (i : Int) < limit := by
      rw [← hin.admits_iff hlimit hwindow hi, hreply]
      exact hadmits
    have htold := hin.replyAt_eq hlimit hwindow hcall
    rw [if_neg (Int.not_le.2 hadmitted)] at htold
    obtain rfl := Option.some.inj (hreply.symm.trans htold)
    rw [hin.admittedCount_eq hlimit hwindow hi hadmitted]
    exact (reportsQuota_of_inWindow hplan hlimit hwindow hin hcall hadmitted).2 (h call hcall hadmitted)

/-- The tenant and the endpoint of the examples. -/
def sampleKey : String := requestsKey ⟨1⟩ "/runs"

/-- Two requests within a minute, for a key that is new. -/
theorem inWindow_sample : InWindow sampleKey 60 ⟨5000, 5⟩ [⟨5400, 5⟩] fun _ => none :=
  ⟨rfl, by decide⟩

/-- The second call of a window, in the second in which it began, with a limit of 60. -/
theorem quotaReported_second :
    builtin.QuotaReported "free" sampleKey 60 60 [⟨5000, 5⟩, ⟨5400, 5⟩] (fun _ => none) 1 := by
  refine (quotaReported_iff builtin "free" sampleKey 60 60 ⟨5000, 5⟩ [⟨5400, 5⟩] _ 1 rfl (by decide) (by decide)
    inWindow_sample).2 fun call hcall _ => ⟨Nat.one_ne_zero, ?_, fun _ => .inl rfl⟩
  obtain rfl : ⟨5400, 5⟩ = call := Option.some.inj hcall
  rfl

/-- The first call is told that all of the 60 remain. -/
theorem not_quotaReported : ¬∀ (self : RateLimitService) (plan key : String) (limit window : Int)
      (first : Execution) (rest : List Execution) (store : Redis.Store Int) (i : Nat),
    self.requestsPerMinute plan = .ok limit → 1 ≤ limit → 0 < window → InWindow key window first rest store →
      self.QuotaReported plan key limit window (first :: rest) store i := by
  intro h
  have hquota := h builtin "free" sampleKey 60 60 ⟨5000, 5⟩ [⟨5400, 5⟩] (fun _ => none) 0 rfl (by decide)
    (by decide) inWindow_sample ⟨5000, 5⟩ _ rfl rfl (by decide)
  exact absurd hquota.remaining (by decide)

end RateLimitService

end AgentRuntime
