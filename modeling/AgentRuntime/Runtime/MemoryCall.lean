import AgentRuntime.Domain.Memory
import AgentRuntime.Interaction.Method

/-!
# The calls of the memory services

`MemoryCall` lists what the modelled coroutines of the memory caches and services await or read from
outside: the commands of Redis, the statements of the repositories, the embedding and encryption services,
the clock and fresh identifiers. A value of Redis is the JSON value that its text spells.
-/

namespace AgentRuntime

open Interaction

/-- One awaited call, clock reading or fresh identifier. -/
inductive MemoryCall where
  | setex (key : String) (seconds : Int) (value : Json)
  | get (key : String)
  /-- `RPUSH`, `LTRIM` to the last `maxEntries`, and `EXPIRE`, in one transaction. -/
  | append (key : String) (entry : Json) (maxEntries seconds : Int)
  | lrange (key : String) (start stop : Int)
  /-- `scan_iter(match=pattern)`, to its end. -/
  | scan (pattern : String)
  | delete (keys : List String)
  | expire (key : String) (seconds : Int)
  | summaryBySessionId (tenantId agentId : UUID) (sessionId : String)
  | summaryCreate (summary : SessionSummary)
  | summaryDelete (tenantId agentId : UUID) (sessionId : String)
  | summariesByAgent (tenantId agentId : UUID) (limit offset : Int)
  | recordCreate (record : MemoryRecord)
  | recordGet (recordId : UUID)
  | recordsByTenantAgent (tenantId agentId : UUID) (limit offset : Int)
  | searchByVector (tenantId agentId : UUID) (queryEmbedding : Embedding) (ns : String)
      (scope : MemoryScope) (limit : Int) (sessionId : Option String)
  | searchByMetadata (tenantId agentId : UUID) (ns : String) (scope : MemoryScope)
      (metadataFilters : Dict) (limit : Int)
  /-- `delete_expired`. -/
  | deleteExpired (tenantId : UUID)
  | policyByTenantScope (tenantId : UUID) (scope : MemoryScope)
  | countByTenant (tenantId : UUID) (scope : MemoryScope)
  /-- `get_storage_size_bytes`, in megabytes. -/
  | storageMb (tenantId : UUID)
  | outboxCreate (eventType aggregateId aggregateType : String) (payload : Dict)
  | generateEmbedding (text : String) (tenantId : UUID)
  | encrypt (plaintext : String) (tenantId : UUID)
  | decrypt (ciphertext : String) (tenantId : UUID)
  | now
  | newUUID

/-- The type of the answer to a call. -/
@[reducible] def MemoryCall.Ans : MemoryCall → Type
  | setex _ _ _ => Except PyError Unit
  | get _ => Except PyError (Option Json)
  | append _ _ _ _ => Except PyError Unit
  | lrange _ _ _ => Except PyError (List Json)
  | scan _ => Except PyError (List String)
  | delete _ => Except PyError Nat
  | expire _ _ => Except PyError Unit
  | summaryBySessionId _ _ _ => Except PyError (Option SessionSummary)
  | summaryCreate _ => Except PyError SessionSummary
  | summaryDelete _ _ _ => Except PyError Bool
  | summariesByAgent _ _ _ _ => Except PyError (List SessionSummary)
  | recordCreate _ => Except PyError MemoryRecord
  | recordGet _ => Except PyError (Option MemoryRecord)
  | recordsByTenantAgent _ _ _ _ => Except PyError (List MemoryRecord)
  | searchByVector _ _ _ _ _ _ _ => Except PyError (List (MemoryRecord × PyFloat))
  | searchByMetadata _ _ _ _ _ _ => Except PyError (List MemoryRecord)
  | deleteExpired _ => Except PyError Nat
  | policyByTenantScope _ _ => Except PyError (Option MemoryRetentionPolicy)
  | countByTenant _ _ => Except PyError Nat
  | storageMb _ => Except PyError PyFloat
  | outboxCreate _ _ _ _ => Except PyError Unit
  | generateEmbedding _ _ => Except PyError Embedding
  | encrypt _ _ => Except PyError String
  | decrypt _ _ => Except PyError String
  | now => Time
  | newUUID => UUID

/-- A coroutine of the memory caches and services. -/
abbrev MemoryService := Proc MemoryCall MemoryCall.Ans PyError Unit

namespace MemoryService

/-- `datetime.now(UTC)`. -/
abbrev now : MemoryService Time := Proc.call MemoryCall.now

/-- `uuid4()`. -/
abbrev newUUID : MemoryService UUID := Proc.call MemoryCall.newUUID

/-- `datetime.isoformat()`, by its microseconds. -/
def isoformat (t : Time) : Json := .int t

/-- The coroutine makes only calls in `P`. -/
abbrev Makes {α : Type} (P : MemoryCall → Prop) (m : MemoryService α) : Prop :=
  m.Keeps (fun _ _ => True) P fun _ => True

/-- A service that makes only some calls makes only calls of a larger kind. -/
theorem Makes.mono {α : Type} {P P' : MemoryCall → Prop} {m : MemoryService α}
    (h : m.Makes P) (hP : ∀ o, P o → P' o) : m.Makes P' :=
  fun s hs => (h s hs).mono hP fun _ => id

end MemoryService

end AgentRuntime
