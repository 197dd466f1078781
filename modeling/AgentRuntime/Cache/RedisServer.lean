import AgentRuntime.Cache.RateLimiter
import AgentRuntime.Interaction.Protocol

/-!
# The Redis server

The rules by which Redis and the clock answer the API. Which script the first argument of `EVALSHA` names
is a parameter (`ScriptNames`); `Runs script` is the assumption that it is this one.
-/

namespace AgentRuntime

open Interaction

/-- Redis, with the scripts that it has loaded, and the clock. -/
structure RedisServer where
  store : Redis.Store Int
  loaded : List LuaScript := []
  clock : Nat := 0

/-- What is open about an answer: whether a plain command raises, and what the application does. -/
structure ApiReply where
  fails : Option PyError := none
  response : Except PyError HttpResponse := .ok { statusCode := 200 }

/-- The answer of a plain command, unless it raises. -/
def ApiReply.plain {α : Type} (reply : ApiReply) (answer : α × Redis.Store Int)
    (server : RedisServer) : Except PyError α × RedisServer :=
  match reply.fails with
  | some e => (.error e, server)
  | none => (.ok answer.1, { server with store := answer.2 })

/-- The digests of the scripts, and which script the first argument of `EVALSHA` names on a server. -/
structure ScriptNames where
  digest : LuaScript → String
  names : RedisArg → RedisServer → Option LuaScript

/-- The answers. `EVALSHA` raises if its first argument names no script. -/
def apiAnswer (scripts : ScriptNames) (reply : ApiReply) (_thread : Nat) :
    (o : ApiCall) → RedisServer → o.Ans × RedisServer
  | .scriptLoad script, server =>
    (.ok (scripts.digest script), { server with loaded := script :: server.loaded })
  | .evalsha digest key argv, server =>
    match scripts.names digest server with
    | none => (.error (.external "NOSCRIPT"), server)
    | some script =>
      let (answer, store) := script.run key argv server.clock server.store
      (answer, { server with store })
  | .incr key, server => reply.plain (Redis.incrBy server.clock key 1 server.store) server
  | .expire key seconds, server =>
    reply.plain ((Redis.lookup server.clock key server.store).isSome,
      Redis.expire server.clock key seconds server.store) server
  | .get key, server => reply.plain (Redis.get server.clock key server.store, server.store) server
  | .time, server => (server.clock, server)
  | .callNext, server => (reply.response, server)

/-- The rules of Redis; outside the API only time passes. -/
def apiRules (scripts : ScriptNames) : Rules ApiCall ApiCall.Ans RedisServer ApiReply Nat where
  answer := apiAnswer scripts
  outside ms server := { server with clock := server.clock + ms }

/-- `EVALSHA` runs the script, whatever it is called by. -/
def always (script : LuaScript) : ScriptNames where
  digest
    | .rateLimit => "rate_limit"
    | .concurrency => "concurrency"
  names _ _ := some script

/-- The scripts are loaded, and a reply is one of the script. -/
def Runs (script : LuaScript) : (o : ApiCall) → o.Ans → Prop
  | .scriptLoad _, answer => ∃ digest, answer = .ok digest
  | .evalsha _ key argv, answer => ∃ clock store, answer = (script.run key argv clock store).1
  | _, _ => True

/-- A server that runs one script answers every check with what this script answers. -/
theorem apiAnswer_runs (script : LuaScript) (reply : ApiReply) (thread : Nat) (o : ApiCall)
    (server : RedisServer) : Runs script o (apiAnswer (always script) reply thread o server).1 := by
  cases o with
  | scriptLoad script => exact ⟨_, rfl⟩
  | evalsha digest key argv => exact ⟨server.clock, server.store, rfl⟩
  | incr key | expire key seconds | get key | time | callNext => trivial

/-- The rate limit script replies with three integers. -/
theorem rateLimit_reply (key : String) (limit now : Int) {window : Int} (hwindow : 0 < window)
    (clock : Nat) (store : Redis.Store Int) : ∃ first remaining resetAt,
      (LuaScript.rateLimit.run key [.int limit, .int window, .int now] clock store).1 =
        .ok [first, remaining, resetAt] := by
  simp only [LuaScript.run, LuaScript.rateLimitReply, LuaScript.rateLimitReply.create,
    if_neg (Int.not_le.2 hwindow)]
  split
  · exact ⟨_, _, _, rfl⟩
  · split_ifs
    · exact ⟨_, _, _, rfl⟩
    · exact ⟨_, _, _, rfl⟩
    · exact ⟨_, _, _, rfl⟩

namespace LuaScript

variable {key : String} {limit window now : Int} {clock : Nat} {store : Redis.Store Int}

/-- The first check of a window creates the counter. -/
theorem rateLimitReply_of_none (hwindow : 0 < window) (h : Redis.lookup clock key store = none) :
    rateLimitReply key limit window now clock store =
      (.ok [1, limit, now + window], Redis.set clock key 1 (some (window * 1000).toNat) store) := by
  simp only [rateLimitReply, Redis.get, h, Option.map_none, rateLimitReply.create,
    if_neg (Int.not_le.2 hwindow)]

/-- A further check is counted if the limit is not reached. -/
theorem rateLimitReply_of_some {entry : Redis.Entry Int} {t : Nat}
    (h : Redis.lookup clock key store = some entry) (ht : entry.expireAt = some t) :
    rateLimitReply key limit window now clock store =
      if limit ≤ entry.value then (.ok [0, 0, now + ((t : Int) - clock) / 1000], store)
      else (.ok [entry.value + 1, limit - (entry.value + 1), now + window],
        (Redis.incrBy clock key 1 store).2) := by
  have halive : clock ≤ t := (Redis.lookup_eq_some.1 h).2 t ht
  have hpttl : Redis.pttl clock key store = (t : Int) - clock := by simp only [Redis.pttl, h, ht]
  have hget : Redis.get clock key store = some entry.value := by simp only [Redis.get, h, Option.map_some]
  have hexpiry : ¬(t : Int) - clock < 0 := by omega
  have hcount : (Redis.incrBy clock key 1 store).1 = entry.value + 1 := by
    rw [Redis.fst_incrBy, Redis.counter, hget, Option.getD_some]
  simp only [rateLimitReply, hget, hpttl, if_neg hexpiry, hcount]

/-! `CONCURRENCY_SCRIPT`, by its actions. -/

/-- The branch `check` of the script refuses a request once the counter is at the limit, and tells how many
are left before. -/
theorem concurrencyReply_check : concurrencyReply key limit "check" clock store =
    if limit ≤ Redis.counter clock key store then ([0, 0], store)
    else ([1, limit - Redis.counter clock key store], store) := rfl

/-- It changes nothing. -/
@[simp] theorem store_check : (concurrencyReply key limit "check" clock store).2 = store := by
  rw [concurrencyReply_check]
  split <;> rfl

/-- The branch `increment` adds one to the counter and lets it live for an hour. -/
@[simp] theorem store_increment : (concurrencyReply key limit "increment" clock store).2 =
    Redis.expire clock key 3600 (Redis.incrBy clock key 1 store).2 := rfl

/-- The branch `decrement` takes one from a counter that is positive. -/
@[simp] theorem store_decrement : (concurrencyReply key limit "decrement" clock store).2 =
    if 0 < Redis.counter clock key store then (Redis.incrBy clock key (-1) store).2 else store := by
  simp only [concurrencyReply, reduceIte, String.reduceEq]
  split <;> rfl

/-- The script works on its key. -/
theorem concurrency_run_of_ne {key' : String} (h : key' ≠ key) (argv : List RedisArg) :
    (concurrency.run key argv clock store).2 key' = store key' := by
  unfold run
  split
  · contradiction
  · next limit action _ =>
    change (concurrencyReply key limit action clock store).2 key' = store key'
    by_cases hcheck : action = "check"
    · subst hcheck
      rw [store_check]
    · by_cases hincrement : action = "increment"
      · subst hincrement
        exact (Redis.expire_of_ne h 3600).trans (Redis.incrBy_of_ne h 1)
      · by_cases hdecrement : action = "decrement"
        · subst hdecrement
          rw [store_decrement]
          split
          · exact Redis.incrBy_of_ne h (-1)
          · rfl
        · rw [concurrencyReply, if_neg hcheck, if_neg hincrement, if_neg hdecrement]
  · rfl

end LuaScript

namespace RateLimiter

/-- Loading the scripts does not raise, and is no step of a protocol that it does not concern. -/
theorem follows_ensureScriptsLoaded {β G : Type} (protocol : Protocol ApiCall ApiCall.Ans β G) {g : G}
    (hmay : ∀ script, protocol.may g (.scriptLoad script))
    (hnext : ∀ script answer, protocol.next g (.scriptLoad script) answer = g) (runs : LuaScript)
    (self : RateLimiter) :
    (ensureScriptsLoaded.on self).Follows (Runs runs)
      (protocol.returning fun g' r => g' = g ∧ r.1 = .ok ()) g := by
  have hload (script : LuaScript) (k : Except PyError String → Prog ApiCall ApiCall.Ans
        (Except ApiError Unit × RateLimiter))
      (hk : ∀ digest, (k (.ok digest)).Follows (Runs runs)
        (protocol.returning fun g' r => g' = g ∧ r.1 = .ok ()) g) :
      (Prog.call (.scriptLoad script) k).Follows (Runs runs)
        (protocol.returning fun g' r => g' = g ∧ r.1 = .ok ()) g := by
    refine ⟨hmay script, ?_⟩
    rintro _ ⟨digest, rfl⟩
    change (k (.ok digest)).Follows _ _ (protocol.next g (.scriptLoad script) _)
    rw [hnext]
    exact hk digest
  obtain ⟨rateLimitScriptLoaded, concurrencyScriptLoaded⟩ := self
  cases rateLimitScriptLoaded <;> cases concurrencyScriptLoaded
  · exact hload _ _ fun _ => hload _ _ fun _ => ⟨rfl, rfl⟩
  · exact hload _ _ fun _ => ⟨rfl, rfl⟩
  · exact hload _ _ fun _ => ⟨rfl, rfl⟩
  · exact ⟨rfl, rfl⟩

end RateLimiter

end AgentRuntime
