import AgentRuntime.Cache.Keyspace
import AgentRuntime.Runtime.MemoryCall

/-!
# The session memory cache

`SessionMemoryCache` (`app/infrastructure/cache/memory_cache.py`): the values of a session, each as JSON
under a key that is built from the session's identifier and a name, and its conversation as a list. The
keys of a session are found again by a pattern. An exception of Redis is taken for a value that is not
there, or for a write that failed.
-/

namespace AgentRuntime

open Interaction

/-- Redis cache for session memory. -/
structure SessionMemoryCache where
  defaultTtl : Int := 604800
  deriving DecidableEq

namespace SessionMemoryCache

variable (self : SessionMemoryCache)

/-- `KEY_PREFIX:session_id:`, which the keys of a session begin with. -/
def keyStem (sessionId : String) : String := s!"memory:session:{sessionId}:"

/-- Create Redis key for session memory. -/
def makeKey (sessionId key : String) : String := s!"memory:session:{sessionId}:{key}"

/-- Create Redis key for session conversation list. -/
def makeListKey (sessionId : String) : String := s!"memory:session:{sessionId}:history"

/-- `ttl or self._default_ttl`. -/
def lifetime (ttl : Option Int) : Int := (ttl.filter (· ≠ 0)).getD self.defaultTtl

/-- Set a value in session memory. -/
def set (sessionId key : String) (value : Json) (ttl : Option Int) : MemoryService Bool :=
  tryCatch
    (do
      Proc.tryCall (.setex (makeKey sessionId key) (self.lifetime ttl) value) id
      return true)
    fun _ => return false

/-- Get a value from session memory. -/
def get (sessionId key : String) : MemoryService (Option Json) :=
  tryCatch (Proc.tryCall (.get (makeKey sessionId key)) id) fun _ => return none

/-- Delete a key from session memory. -/
def delete (sessionId key : String) : MemoryService Bool :=
  tryCatch
    (do
      let result ← Proc.tryCall (.delete [makeKey sessionId key]) id
      return 0 < result)
    fun _ => return false

/-- Append an entry to session conversation history. -/
def appendToHistory (sessionId : String) (entry : Json) (maxEntries : Int) (ttl : Option Int) :
    MemoryService Bool :=
  tryCatch
    (do
      Proc.tryCall (.append (makeListKey sessionId) entry maxEntries (self.lifetime ttl)) id
      return true)
    fun _ => return false

/-- Get recent conversation history for a session. -/
def getRecentHistory (sessionId : String) (limit : Int) : MemoryService (List Json) :=
  tryCatch (Proc.tryCall (.lrange (makeListKey sessionId) (-limit) (-1)) id) fun _ => return []

/-- Get full conversation history for a session. -/
def getAllHistory (sessionId : String) : MemoryService (List Json) :=
  tryCatch (Proc.tryCall (.lrange (makeListKey sessionId) 0 (-1)) id) fun _ => return []

/-- The pattern of the keys of a session. -/
def pattern (sessionId : String) : String := s!"memory:session:{sessionId}:*"

/-- Clear all memory for a session. -/
def clearSession (sessionId : String) : MemoryService Nat :=
  tryCatch
    (do
      let keys ← Proc.tryCall (.scan (pattern sessionId)) id
      if keys ≠ [] then Proc.tryCall (.delete keys) id else return 0)
    fun _ => return 0

/-- `expire` for one key after another. -/
def expireEach (newTtl : Int) : List String → MemoryService Unit
  | [] => return
  | key :: keys => do
    Proc.tryCall (.expire key newTtl) id
    expireEach newTtl keys

/-- Extend TTL for all session keys. -/
def extendTtl (sessionId : String) (ttl : Option Int) : MemoryService Bool :=
  tryCatch
    (do
      let keys ← Proc.tryCall (.scan (pattern sessionId)) id
      expireEach (self.lifetime ttl) keys
      return 0 < keys.length)
    fun _ => return false

/-- `key[prefix_len:]`. -/
def withoutStem (sessionId key : String) : String :=
  String.ofList (key.toList.drop (keyStem sessionId).length)

/-- Get all keys for a session, except that of its conversation list. -/
def getSessionKeys (sessionId : String) : MemoryService (List String) :=
  tryCatch
    (do
      let keys ← Proc.tryCall (.scan (pattern sessionId)) id
      return (keys.filter (· ≠ makeListKey sessionId)).map (withoutStem sessionId))
    fun _ => return []

/-! ## The calls of each method -/

section
variable (sessionId key : String) (value entry : Json) (maxEntries limit : Int) (ttl : Option Int)

/-- Setting a value is one `SETEX`, whose failure is answered with `False`. -/
theorem on_set : (self.set sessionId key value ttl).on () =
    .call (.setex (makeKey sessionId key) (self.lifetime ttl) value) fun r => .ret (.ok r.toBool, ()) := by
  simp only [set, Proc.on_tryCatch, Proc.on_bind, Proc.on_tryCall, Prog.call_bind]
  refine congrArg (Prog.call _) (funext fun r => ?_)
  cases r <;> rfl

/-- Reading a value is one `GET`; a failure reads as a missing value. -/
theorem on_get : (get sessionId key).on () =
    .call (.get (makeKey sessionId key)) fun r => .ret (.ok (r.toOption.getD none), ()) := by
  simp only [get, Proc.on_tryCatch, Proc.on_tryCall, Prog.call_bind]
  refine congrArg (Prog.call _) (funext fun r => ?_)
  cases r <;> rfl

/-- Removing a value is one `DEL`, and says whether a key was removed. -/
theorem on_delete : (delete sessionId key).on () =
    .call (.delete [makeKey sessionId key]) fun r => .ret (.ok (0 < r.toOption.getD 0), ()) := by
  simp only [delete, Proc.on_tryCatch, Proc.on_bind, Proc.on_tryCall, Prog.call_bind]
  refine congrArg (Prog.call _) (funext fun r => ?_)
  cases r <;> rfl

/-- Appending a message is one pipeline. -/
theorem on_appendToHistory : (self.appendToHistory sessionId entry maxEntries ttl).on () =
    .call (.append (makeListKey sessionId) entry maxEntries (self.lifetime ttl)) fun r =>
      .ret (.ok r.toBool, ()) := by
  simp only [appendToHistory, Proc.on_tryCatch, Proc.on_bind, Proc.on_tryCall, Prog.call_bind]
  refine congrArg (Prog.call _) (funext fun r => ?_)
  cases r <;> rfl

/-- The recent messages are one `LRANGE` from the end. -/
theorem on_getRecentHistory : (getRecentHistory sessionId limit).on () =
    .call (.lrange (makeListKey sessionId) (-limit) (-1)) fun r => .ret (.ok (r.toOption.getD []), ()) := by
  simp only [getRecentHistory, Proc.on_tryCatch, Proc.on_tryCall, Prog.call_bind]
  refine congrArg (Prog.call _) (funext fun r => ?_)
  cases r <;> rfl

/-- All messages are one `LRANGE`. -/
theorem on_getAllHistory : (getAllHistory sessionId).on () =
    .call (.lrange (makeListKey sessionId) 0 (-1)) fun r => .ret (.ok (r.toOption.getD []), ()) := by
  simp only [getAllHistory, Proc.on_tryCatch, Proc.on_tryCall, Prog.call_bind]
  refine congrArg (Prog.call _) (funext fun r => ?_)
  cases r <;> rfl

/-- Clearing a session is a scan, and one `DEL` if the scan has found keys. -/
theorem on_clearSession : (clearSession sessionId).on () =
    .call (.scan (pattern sessionId)) fun
      | .error _ | .ok [] => .ret (.ok 0, ())
      | .ok (key :: keys) => .call (.delete (key :: keys)) fun r => .ret (.ok (r.toOption.getD 0), ()) := by
  simp only [clearSession, Proc.on_tryCatch, Proc.on_bind, Proc.on_tryCall, Prog.call_bind]
  refine congrArg (Prog.call _) (funext fun r => ?_)
  rcases r with e | _ | ⟨key, keys⟩
  · rfl
  · rfl
  · refine congrArg (Prog.call _) (funext fun r => ?_)
    cases r <;> rfl

/-- The names of a session come from one scan, without the conversation and without the stem of the keys. -/
theorem on_getSessionKeys : (getSessionKeys sessionId).on () =
    .call (.scan (pattern sessionId)) fun r => .ret (.ok (((r.toOption.getD []).filter
      (· ≠ makeListKey sessionId)).map (withoutStem sessionId)), ()) := by
  simp only [getSessionKeys, Proc.on_tryCatch, Proc.on_bind, Proc.on_tryCall, Prog.call_bind]
  refine congrArg (Prog.call _) (funext fun r => ?_)
  cases r <;> rfl

end

end SessionMemoryCache

/-! ## Redis, as the cache finds it -/

/-- The strings and lists in Redis. -/
abbrev MemoryKeyspace := Redis.Keyspace (Redis.Value Json)

namespace MemoryKeyspace

/-- An answer of Redis. -/
def answered {α : Type} (result : Except String α) : Except PyError α :=
  result.mapError fun message => .external s!"ResponseError: {message}"

variable (now : Nat) (self : MemoryKeyspace)

/-- `SETEX key seconds value`. -/
def setex (key : String) (seconds : Int) (value : Json) : Except PyError Unit × MemoryKeyspace :=
  if seconds ≤ 0 then (answered (.error "invalid expire time in 'setex' command"), self)
  else
    (.ok (), self.put key (Redis.set now key (.string value) (some (seconds.toNat * 1000)) self.store)
      fun _ h => Redis.set_of_ne h _ _)

/-- `RPUSH`, `LTRIM` and `EXPIRE` in a transaction, which goes on after a command that is refused. -/
def append (key : String) (entry : Json) (maxEntries seconds : Int) :
    Except PyError Unit × MemoryKeyspace :=
  let pushed := Redis.rpush now key entry self.store
  let trimmed := Redis.ltrim now key (-maxEntries) (-1) pushed.2
  (answered (pushed.1 >>= fun _ => trimmed.1),
    self.put key (Redis.expire now key seconds trimmed.2) fun _ h => by
      simp only [Redis.expire_of_ne h, trimmed, Redis.ltrim_of_ne h, pushed, Redis.rpush_of_ne h])

variable {self} in
/-- Another key stays as it is. -/
theorem append_of_ne {now : Nat} {key key' : String} (h : key' ≠ key) (entry : Json) (maxEntries seconds : Int) :
    (self.append now key entry maxEntries seconds).2.store key' = self.store key' := by
  dsimp only [append, Redis.Keyspace.put]
  rw [Redis.expire_of_ne h, Redis.ltrim_of_ne h, Redis.rpush_of_ne h]

/-- `DEL key …`. -/
def delete (keys : List String) : Nat × MemoryKeyspace :=
  ((Redis.del now keys self.store).1, self.restrict (Redis.del now keys self.store).2 fun key h => by
    by_cases hmem : key ∈ keys
    · simp [Redis.del, hmem] at h
    · simpa [Redis.del, hmem] using h)

/-- `EXPIRE key seconds`. -/
def expire (key : String) (seconds : Int) : MemoryKeyspace :=
  self.put key (Redis.expire now key seconds self.store) fun _ h => Redis.expire_of_ne h _

/-- The commands, answered at a time unless Redis refuses them; every other call is answered by `outside`. -/
def env (code : UInt8 → Int) (now : Nat) (refuses : MemoryCall → Option PyError)
    (outside : (o : MemoryCall) → o.Ans) : Env MemoryCall MemoryCall.Ans MemoryKeyspace
  | .setex key seconds value, self =>
    match refuses (.setex key seconds value) with
    | some e => (.error e, self)
    | none => self.setex now key seconds value
  | .get key, self =>
    match refuses (.get key) with
    | some e => (.error e, self)
    | none => (answered (Redis.getString now key self.store), self)
  | .append key entry maxEntries seconds, self =>
    match refuses (.append key entry maxEntries seconds) with
    | some e => (.error e, self)
    | none => self.append now key entry maxEntries seconds
  | .lrange key start stop, self =>
    match refuses (.lrange key start stop) with
    | some e => (.error e, self)
    | none => (answered ((Redis.listOf now key self.store).map (Redis.range start stop)), self)
  | .scan pattern, self =>
    match refuses (.scan pattern) with
    | some e => (.error e, self)
    | none => (.ok (self.scan code now pattern), self)
  | .delete keys, self =>
    match refuses (.delete keys) with
    | some e => (.error e, self)
    | none => ((.ok (self.delete now keys).1), (self.delete now keys).2)
  | .expire key seconds, self =>
    match refuses (.expire key seconds) with
    | some e => (.error e, self)
    | none => (.ok (), self.expire now key seconds)
  | o, self => (outside o, self)

end MemoryKeyspace

/-- The answers outside Redis, which the cache never asks for. -/
def noOutside : (o : MemoryCall) → o.Ans
  | .now => (0 : Nat)
  | .newUUID => ⟨0⟩
  | .setex _ _ _ | .get _ | .append _ _ _ _ | .lrange _ _ _ | .scan _ | .delete _ | .expire _ _
  | .summaryBySessionId _ _ _ | .summaryCreate _ | .summaryDelete _ _ _ | .summariesByAgent _ _ _ _
  | .recordCreate _ | .recordGet _ | .recordsByTenantAgent _ _ _ _ | .searchByVector _ _ _ _ _ _ _
  | .searchByMetadata _ _ _ _ _ _ | .deleteExpired _ | .policyByTenantScope _ _ | .countByTenant _ _
  | .storageMb _ | .outboxCreate _ _ _ _ | .generateEmbedding _ _ | .encrypt _ _ | .decrypt _ _ =>
    .error (.external "no answer")

end AgentRuntime
