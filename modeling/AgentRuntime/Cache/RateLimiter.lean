import AgentRuntime.Cache.Redis
import AgentRuntime.Interaction.Method
import AgentRuntime.Python.Values

/-!
# The rate limiter

`RateLimiter` (`app/infrastructure/cache/rate_limiter.py`): its two Lua scripts, and its methods as
coroutines that make calls of Redis. What `EVALSHA` answers is left to the rules of a pool: the first
argument that the methods give it is the flag that the script was loaded, not the script's digest.
-/

namespace AgentRuntime

open Interaction

/-- An argument of a Redis command, as the client is given it. -/
inductive RedisArg where
  | str (s : String)
  | int (n : Int)
  | bool (b : Bool)
  deriving DecidableEq, Repr

/-- The scripts of the rate limiter. -/
inductive LuaScript where
  | rateLimit
  | concurrency
  deriving DecidableEq, Repr

namespace LuaScript

/-- `RATE_LIMIT_SCRIPT`. A reply is cut to integers. -/
def rateLimitReply (key : String) (limit window now : Int) (clock : Nat) (store : Redis.Store Int) :
    Except PyError (List Int) × Redis.Store Int :=
  let expiry := Redis.pttl clock key store
  match Redis.get clock key store with
  | none => create
  | some current =>
    if expiry < 0 then create
    else if limit ≤ current then (.ok [0, 0, now + expiry / 1000], store)
    else
      let (newCount, store) := Redis.incrBy clock key 1 store
      (.ok [newCount, limit - newCount, now + window], store)
where
  /-- If the key does not exist or is expired, create a new one. -/
  create : Except PyError (List Int) × Redis.Store Int :=
    if window ≤ 0 then (.error (.external "ResponseError: invalid expire time"), store)
    else (.ok [1, limit, now + window], Redis.set clock key 1 (some (window * 1000).toNat) store)

/-- `CONCURRENCY_SCRIPT`. -/
def concurrencyReply (key : String) (limit : Int) (action : String) (clock : Nat)
    (store : Redis.Store Int) : List Int × Redis.Store Int :=
  if action = "check" then
    let current := Redis.counter clock key store
    if limit ≤ current then ([0, 0], store) else ([1, limit - current], store)
  else if action = "increment" then
    let (current, store) := Redis.incrBy clock key 1 store
    ([current, limit - current], Redis.expire clock key 3600 store)
  else if action = "decrement" then
    let current := Redis.counter clock key store
    if 0 < current then
      let (current, store) := Redis.incrBy clock key (-1) store
      ([current, limit - current], store)
    else ([current, limit - current], store)
  else ([], store)

/-- A script, run on one key. -/
def run (script : LuaScript) (key : String) (argv : List RedisArg) (clock : Nat)
    (store : Redis.Store Int) : Except PyError (List Int) × Redis.Store Int :=
  match script, argv with
  | rateLimit, [.int limit, .int window, .int now] => rateLimitReply key limit window now clock store
  | concurrency, [.int limit, .str action] =>
    let (reply, store) := concurrencyReply key limit action clock store
    (.ok reply, store)
  | _, _ => (.error (.external "ResponseError: user_script"), store)

end LuaScript

/-- What the API calls outside itself: Redis, the clock, and the application behind a middleware. A
response is its status and headers. -/
inductive ApiCall where
  | scriptLoad (script : LuaScript)
  | evalsha (digest : RedisArg) (key : String) (argv : List RedisArg)
  | incr (key : String)
  | expire (key : String) (seconds : Int)
  | get (key : String)
  | time
  | callNext
  deriving DecidableEq, Repr

/-- A response of the application. -/
structure HttpResponse where
  statusCode : Nat
  headers : List (String × String) := []
  deriving DecidableEq, Repr

/-- The answers; the clock is in milliseconds. -/
@[reducible] def ApiCall.Ans : ApiCall → Type
  | scriptLoad _ => Except PyError String
  | evalsha _ _ _ => Except PyError (List Int)
  | incr _ => Except PyError Int
  | expire _ _ => Except PyError Bool
  | get _ => Except PyError (Option Int)
  | time => Nat
  | callNext => Except PyError HttpResponse

/-- What the API raises. -/
inductive ApiError where
  | rateLimitExceeded (message detail : String) (retryAfter : Int)
  | raised (e : PyError)
  deriving DecidableEq, Repr

/-- Redis-based rate limiter with token bucket algorithm. -/
structure RateLimiter where
  rateLimitScriptLoaded : Bool := false
  concurrencyScriptLoaded : Bool := false

/-- The answer of `check_rate_limit` and, without `reset_at`, of `check_concurrency`. -/
structure LimitCheck where
  allowed : Bool
  remaining : Int
  resetAt : Int := 0
  deriving DecidableEq, Repr

namespace RateLimiter

/-- A method of the rate limiter. -/
abbrev Call := Proc ApiCall ApiCall.Ans ApiError RateLimiter

/-- A call whose answer may be an exception. -/
def await {α : Type} (call : ApiCall) (f : call.Ans → Except PyError α) : Call α :=
  Proc.tryCall call fun answer => (f answer).mapError .raised

/-- `int(time.time())`. -/
def now : Call Int := do
  let clock ← (Proc.call ApiCall.time : Call Nat)
  pure (clock / 1000 : Nat)

/-- Ensure Lua scripts are loaded into Redis. -/
def ensureScriptsLoaded : Call Unit := do
  if !(← get).rateLimitScriptLoaded then
    let _ ← await (.scriptLoad .rateLimit) id
    modify fun self => { self with rateLimitScriptLoaded := true }
  if !(← get).concurrencyScriptLoaded then
    let _ ← await (.scriptLoad .concurrency) id
    modify fun self => { self with concurrencyScriptLoaded := true }

/-- `result[i]`. -/
def item (result : List Int) (i : Nat) : Call Int :=
  match result[i]? with
  | some n => pure n
  | none => throw (.raised (.external "IndexError"))

/-- Check if request is within rate limit. -/
def checkRateLimit (key : String) (limit windowSeconds : Int) : Call LimitCheck := do
  ensureScriptsLoaded
  let now ← now
  tryCatch
    (do
      let result ← await (.evalsha (.bool (← get).rateLimitScriptLoaded) key
        [.int limit, .int windowSeconds, .int now]) id
      pure { allowed := 0 < (← item result 0), remaining := ← item result 1
             resetAt := ← item result 2 })
    -- fail open
    fun _ => pure { allowed := true, remaining := limit, resetAt := now + windowSeconds }

/-- Check if within concurrency limit. -/
def checkConcurrency (key : String) (limit : Int) : Call LimitCheck := do
  ensureScriptsLoaded
  tryCatch
    (do
      let result ← await (.evalsha (.bool (← get).concurrencyScriptLoaded) key
        [.int limit, .str "check"]) id
      pure { allowed := 0 < (← item result 0), remaining := ← item result 1 })
    -- fail open
    fun _ => pure { allowed := true, remaining := limit }

/-- `increment_concurrency` and `decrement_concurrency`: the current count and what remains. -/
def changeConcurrency (key action : String) : Call (Int × Int) := do
  ensureScriptsLoaded
  tryCatch
    (do
      let result ← await (.evalsha (.bool (← get).concurrencyScriptLoaded) key
        [.int 1000, .str action]) id
      pure (← item result 0, ← item result 1))
    fun _ => pure (0, 1000)

/-- Increment concurrency counter. -/
def incrementConcurrency (key : String) : Call (Int × Int) := changeConcurrency key "increment"

/-- Decrement concurrency counter. -/
def decrementConcurrency (key : String) : Call (Int × Int) := changeConcurrency key "decrement"

/-- Record a request for rate limiting. -/
def recordRequest (key : String) (windowSeconds : Int) : Call Bool :=
  tryCatch
    (do
      let _ ← await (.incr key) id
      let _ ← await (.expire key windowSeconds) id
      pure true)
    fun _ => pure false

/-- Get current usage for rate limit: what remains of the default limit, and the reset time. -/
def getCurrentUsage (key : String) (windowSeconds : Int) : Call (Int × Int) :=
  tryCatch
    (do
      let current ← await (.get key) id
      pure (max 0 (60 - current.getD 0), (← now) + windowSeconds))
    fun _ => do pure (60, (← now) + windowSeconds)

end RateLimiter

end AgentRuntime
