import AgentRuntime.Cache.SessionMemoryCache
import AgentRuntime.Db.MemoryRepository

/-!
# What the memory services run against

The cache and the database, and what a request meets besides them: the clock, fresh identifiers, the
embedding and encryption services, and failures. What is drawn by a call depends on how many draws the
request has made before it.
-/

namespace AgentRuntime

open Interaction

/-- What is stored. -/
structure MemoryWorld where
  keyspace : MemoryKeyspace := .empty
  tables : MemoryTables := {}

/-- What is stored, and the number of draws that the request has made. -/
structure MemoryState extends MemoryWorld where
  draws : Nat := 0

/-- What a request meets: the time of Redis in milliseconds, the database, what each draw gives, and the
commands and statements that are refused. -/
structure Circumstances where
  redisTime : Nat
  database : MemoryDatabase
  clock : Nat → Time
  uuid : Nat → UUID
  embedding : Nat → String → UUID → Except PyError Embedding
  ciphertext : Nat → String → UUID → Except PyError String
  plaintext : String → UUID → Except PyError String
  refuses : MemoryCall → Option PyError

/-- The call, without the keys that were found for it. -/
def MemoryCall.command : MemoryCall → MemoryCall
  | .delete _ => .delete []
  | o => o

namespace MemoryState

/-- One draw more. -/
def drawn (self : MemoryState) : MemoryState := { self with draws := self.draws + 1 }

end MemoryState

namespace Circumstances

/-- Every call is served at the time `now`: nothing is similar, no table takes storage, and a text is its own
ciphertext. -/
def calm (now : Time) : Circumstances where
  redisTime := 0
  database :=
    { now
      similarity := fun _ _ => ⟨0, "0.0"⟩
      storageMb := fun _ => ⟨0, "0.0"⟩
      astext := fun _ => none
      str := fun _ => "" }
  clock _ := now
  uuid n := ⟨n⟩
  embedding _ _ _ := .ok []
  ciphertext _ plaintext _ := .ok plaintext
  plaintext ciphertext _ := .ok ciphertext
  refuses _ := none

variable (code : UInt8 → Int) (self : Circumstances)

/-- The result of a statement, unless it is refused. -/
def query {α : Type} (o : MemoryCall) (result : Except PyError α) : Except PyError α :=
  match self.refuses o with
  | some e => .error e
  | none => result

/-- A command of Redis. -/
def redis (o : MemoryCall) (s : MemoryState) : o.Ans × MemoryState :=
  let after := MemoryKeyspace.env code self.redisTime (fun o => self.refuses o.command) noOutside o
    s.keyspace
  (after.1, { s with keyspace := after.2 })

/-- A statement that changes the tables. -/
def execute {α : Type} (o : MemoryCall) (s : MemoryState) (after : Except PyError α × MemoryTables) :
    Except PyError α × MemoryState :=
  match self.refuses o with
  | some e => (.error e, s)
  | none => (after.1, { s with tables := after.2 })

/-- What answers the calls of the memory services. Events of the outbox are not kept. -/
def env : Env MemoryCall MemoryCall.Ans MemoryState
  | .summaryBySessionId tenantId agentId sessionId, s =>
    (self.query (.summaryBySessionId tenantId agentId sessionId)
      (s.tables.getBySessionId tenantId agentId sessionId), s)
  | .summaryCreate summary, s =>
    self.execute (.summaryCreate summary) s (s.tables.createSummary summary)
  | .summaryDelete tenantId agentId sessionId, s =>
    self.execute (.summaryDelete tenantId agentId sessionId) s
      ((s.tables.deleteBySessionId tenantId agentId sessionId).map .ok id)
  | .summariesByAgent tenantId agentId limit offset, s =>
    (self.query (.summariesByAgent tenantId agentId limit offset)
      (s.tables.listByAgent tenantId agentId limit offset), s)
  | .recordCreate record, s =>
    self.execute (.recordCreate record) s (.ok record, s.tables.createRecord record)
  | .recordGet recordId, s =>
    (self.query (.recordGet recordId) (.ok (s.tables.getRecord recordId)), s)
  | .recordsByTenantAgent tenantId agentId limit offset, s =>
    (self.query (.recordsByTenantAgent tenantId agentId limit offset)
      (s.tables.getByTenantAgent self.database tenantId agentId limit offset), s)
  | .searchByVector tenantId agentId queryEmbedding ns scope limit sessionId, s =>
    (self.query (.searchByVector tenantId agentId queryEmbedding ns scope limit sessionId)
      (s.tables.searchByVector self.database tenantId agentId queryEmbedding ns scope limit sessionId), s)
  | .searchByMetadata tenantId agentId ns scope metadataFilters limit, s =>
    (self.query (.searchByMetadata tenantId agentId ns scope metadataFilters limit)
      (s.tables.searchByMetadata self.database tenantId agentId ns scope metadataFilters limit), s)
  | .deleteExpired tenantId, s =>
    self.execute (.deleteExpired tenantId) s
      ((s.tables.deleteExpired self.database tenantId).map .ok id)
  | .policyByTenantScope tenantId scope, s =>
    (self.query (.policyByTenantScope tenantId scope) (s.tables.getByTenantScope tenantId scope), s)
  | .countByTenant tenantId scope, s =>
    (self.query (.countByTenant tenantId scope) (.ok (s.tables.countByTenant tenantId scope)), s)
  | .storageMb tenantId, s =>
    (self.query (.storageMb tenantId) (.ok (s.tables.storageMb self.database tenantId)), s)
  | .outboxCreate eventType aggregateId aggregateType payload, s =>
    (self.query (.outboxCreate eventType aggregateId aggregateType payload) (.ok ()), s)
  | .generateEmbedding text tenantId, s => (self.embedding s.draws text tenantId, s.drawn)
  | .encrypt plaintext tenantId, s => (self.ciphertext s.draws plaintext tenantId, s.drawn)
  | .decrypt ciphertext tenantId, s => (self.plaintext ciphertext tenantId, s)
  | .now, s => (self.clock s.draws, s.drawn)
  | .newUUID, s => (self.uuid s.draws, s.drawn)
  | .setex key seconds value, s => self.redis code (.setex key seconds value) s
  | .get key, s => self.redis code (.get key) s
  | .append key entry maxEntries seconds, s => self.redis code (.append key entry maxEntries seconds) s
  | .lrange key start stop, s => self.redis code (.lrange key start stop) s
  | .scan pattern, s => self.redis code (.scan pattern) s
  | .delete keys, s => self.redis code (.delete keys) s
  | .expire key seconds, s => self.redis code (.expire key seconds) s

/-- Reading a value changes nothing. -/
theorem env_get (key : String) (s : MemoryState) : (self.env code (.get key) s).2 = s := by
  simp only [env, redis, MemoryKeyspace.env]
  split
  · rfl
  · rfl

/-- Reading a conversation changes nothing. -/
theorem env_lrange (key : String) (start stop : Int) (s : MemoryState) :
    (self.env code (.lrange key start stop) s).2 = s := by
  simp only [env, redis, MemoryKeyspace.env]
  split
  · rfl
  · rfl

section
variable {self} {α : Type} {o : MemoryCall}

/-- A statement that is not refused has its result. -/
theorem query_of_answered (h : self.refuses o = none) (result : Except PyError α) :
    self.query o result = result := by
  rw [query, h]

/-- It changes the tables. -/
theorem execute_of_answered (h : self.refuses o = none) (s : MemoryState)
    (after : Except PyError α × MemoryTables) :
    self.execute o s after = (after.1, { s with tables := after.2 }) := by
  rw [execute, h]

/-- One that is refused raises, and changes nothing. -/
theorem execute_of_refused {e : PyError} (h : self.refuses o = some e) (s : MemoryState)
    (after : Except PyError α × MemoryTables) : self.execute o s after = (.error e, s) := by
  rw [execute, h]

end

variable {self} in
/-- A statement returns exactly if it is not refused and has something to return. -/
theorem query_eq_ok_iff {α : Type} {o : MemoryCall} {result : Except PyError α} {a : α} :
    self.query o result = .ok a ↔ self.refuses o = none ∧ result = .ok a := by
  unfold query
  cases self.refuses o with
  | none => simp
  | some e => simp

end Circumstances

end AgentRuntime
