import AgentRuntime.Runtime.MemoryCall

/-!
# The memory cleanup service

`MemoryCleanupService` (`app/application/services/memory_cleanup_service.py`): expired records are deleted,
and the use of each scope is compared with its quota. Megabytes and milliseconds are exact here. What is
logged is left out.
-/

namespace AgentRuntime

open Interaction

/-- `int(x)` -/
def PyFloat.int (x : PyFloat) : Int := if x.value < 0 then x.value.ceil else x.value.floor

/-- An integer in the place of a float. -/
def PyFloat.ofInt (n : Int) : PyFloat := ⟨n, toString n⟩

/-- Result of a cleanup operation. -/
structure CleanupResult where
  tenantId : UUID
  scope : MemoryScope
  expiredDeleted : Nat := 0
  quotaEnforced : Bool := false
  storageFreedMb : Rat := 0
  durationMs : Rat := 0
  errors : List String := []
  deriving Repr

/-- Current quota status for a tenant/scope. -/
structure QuotaStatus where
  tenantId : UUID
  scope : MemoryScope
  recordCount : Nat
  storageMb : PyFloat
  maxRecords : Option Nat
  maxStorageMb : Option Nat
  retentionDays : Nat
  isOverQuota : Bool
  quotaExceededReason : Option String
  deriving Repr

namespace MemoryCleanupService

/-- The scopes, in the order in which they are cleaned up. -/
def scopes : List MemoryScope := [.ephemeral, .session, .durable]

/-- The milliseconds between two readings of the clock. -/
def durationMs (startTime endTime : Time) : Rat := ((endTime : Rat) - startTime) / 1000

variable (tenantId : UUID) (scope : MemoryScope)

/-- The deletion of the expired records: their number, and the megabytes that were freed. -/
def sweep : MemoryService (Nat × Rat) := do
  let storageBefore ← Proc.tryCall (.storageMb tenantId) id
  let deleted ← Proc.tryCall (.deleteExpired tenantId) id
  let storageAfter ← Proc.tryCall (.storageMb tenantId) id
  return (deleted, storageBefore.value - storageAfter.value)

/-- One scope after another, with what was deleted and freed and the errors so far. -/
def sweepScopes : List MemoryScope → Nat × Rat × List String → MemoryService (Nat × Rat × List String)
  | [], total => return total
  | scope :: scopes, (totalDeleted, totalFreedMb, errors) => do
    let total ← tryCatch
      (do
        let (deleted, freedMb) ← sweep tenantId
        return (totalDeleted + deleted, totalFreedMb + freedMb, errors))
      fun e => return (totalDeleted, totalFreedMb, errors ++ [s!"Failed to cleanup {scope.value}: {e.str}"])
    sweepScopes scopes total

/-- Delete all expired memory records for a tenant. -/
def cleanupExpired : MemoryService CleanupResult := do
  let startTime ← MemoryService.now
  let (totalDeleted, totalFreedMb, errors) ← sweepScopes tenantId scopes (0, 0, [])
  let endTime ← MemoryService.now
  return {
    tenantId
    scope := .durable
    expiredDeleted := totalDeleted
    storageFreedMb := totalFreedMb
    durationMs := durationMs startTime endTime
    errors }

/-- Enforce retention policy for a specific scope. -/
def enforceScopeRetention : MemoryService CleanupResult := do
  let startTime ← MemoryService.now
  match ← Proc.tryCall (.policyByTenantScope tenantId scope) id with
  | none => return { tenantId, scope }
  | some _ =>
    let (deleted, freedMb) ← sweep tenantId
    let endTime ← MemoryService.now
    return {
      tenantId, scope
      expiredDeleted := deleted
      storageFreedMb := freedMb
      durationMs := durationMs startTime endTime }

/-- One scope after another. -/
def enforceScopes : List MemoryScope → MemoryService (List CleanupResult)
  | [] => return []
  | scope :: scopes => do
    let result ← tryCatch (enforceScopeRetention tenantId scope) fun e =>
      return { tenantId, scope, errors := [e.str] }
    let results ← enforceScopes scopes
    return result :: results

/-- Enforce retention policies for all scopes of a tenant. -/
def enforceRetentionPolicies : MemoryService (List CleanupResult) := enforceScopes tenantId scopes

/-- Check quota for a specific scope. -/
def checkScopeQuota : MemoryService QuotaStatus := do
  let policy ← Proc.tryCall (.policyByTenantScope tenantId scope) id
  let recordCount ← Proc.tryCall (.countByTenant tenantId scope) id
  let storageMb ← Proc.tryCall (.storageMb tenantId) id
  match policy with
  | none =>
    return {
      tenantId, scope, recordCount, storageMb
      maxRecords := none
      maxStorageMb := none
      retentionDays := 0
      isOverQuota := false
      quotaExceededReason := none }
  | some policy =>
    let reason := policy.isQuotaExceeded recordCount (.ofInt storageMb.int)
    return {
      tenantId, scope, recordCount, storageMb
      maxRecords := policy.maxRecordsPerTenant
      maxStorageMb := policy.maxStorageMb
      retentionDays := policy.retentionDays
      isOverQuota := reason.isSome
      quotaExceededReason := reason }

/-- Check and enforce quotas for all scopes of a tenant. -/
def enforceQuotas : MemoryService (List QuotaStatus) := scopes.mapM (checkScopeQuota tenantId)

end MemoryCleanupService

end AgentRuntime
