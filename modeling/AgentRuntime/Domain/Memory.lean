import AgentRuntime.Python.Values
import Mathlib.Data.Rat.Defs

/-!
# Memory records and session summaries

The entities of `app/domain/entities/memory.py`. The components of a vector are the rational numbers that
they are; a float that is also printed has its `repr` with it.
-/

namespace AgentRuntime

/-- A finite float. -/
structure PyFloat where
  value : Rat
  text : String
  deriving Repr

/-- Memory storage scope. -/
inductive MemoryScope where
  | ephemeral
  | session
  | durable
  deriving DecidableEq, Repr

/-- Data classification labels for memory content. -/
inductive AllowedUseLabel where
  | publicUse
  | internal
  | confidential
  | restricted
  deriving DecidableEq, Repr

def MemoryScope.value : MemoryScope → String
  | ephemeral => "ephemeral"
  | session => "session"
  | durable => "durable"

def AllowedUseLabel.value : AllowedUseLabel → String
  | publicUse => "public"
  | internal => "internal"
  | confidential => "confidential"
  | restricted => "restricted"

/-- The vector of a text. -/
abbrev Embedding := List Rat

/-- A single memory record with embedding. -/
structure MemoryRecord where
  id : UUID
  createdAt : Time
  updatedAt : Time
  tenantId : UUID
  agentId : UUID
  scope : MemoryScope
  ns : String
  contentCiphertext : String
  embedding : Option Embedding := none
  metadata : Dict := []
  allowedUseLabel : AllowedUseLabel := .publicUse
  sessionId : Option String := none
  expiresAt : Option Time := none
  deriving Repr

/-- Check if the memory record has expired. -/
def MemoryRecord.isExpired (self : MemoryRecord) (now : Time) : Bool :=
  match self.expiresAt with
  | none => false
  | some expiresAt => expiresAt ≤ now

/-- Summary of a session's memory. -/
structure SessionSummary where
  id : UUID
  createdAt : Time
  updatedAt : Time
  tenantId : UUID
  agentId : UUID
  sessionId : String
  summaryCiphertext : String
  metadata : Dict := []
  deriving Repr

/-- Retention policy for memory records. -/
structure MemoryRetentionPolicy where
  tenantId : UUID
  scope : MemoryScope
  retentionDays : Nat
  maxRecordsPerTenant : Option Nat := none
  maxStorageMb : Option Nat := none
  deriving Repr

namespace MemoryRetentionPolicy

/-- Calculate expiry date based on retention days. -/
def calculateExpiry (self : MemoryRetentionPolicy) (now : Time) : Time :=
  now + self.retentionDays * Time.perDay

/-- Check if quota limits are exceeded, and by what. -/
def isQuotaExceeded (self : MemoryRetentionPolicy) (currentRecordCount : Nat)
    (currentStorageMb : PyFloat) : Option String :=
  match self.maxRecordsPerTenant.filter (· ≤ currentRecordCount),
      self.maxStorageMb.filter (fun limit => (limit : Rat) ≤ currentStorageMb.value) with
  | some limit, _ => some s!"Record count {currentRecordCount} exceeds limit {limit}"
  | none, some limit => some s!"Storage {currentStorageMb.text}MB exceeds limit {limit}MB"
  | none, none => none

end MemoryRetentionPolicy

end AgentRuntime
