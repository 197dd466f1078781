import AgentRuntime.Runtime.MemoryCall
import AgentRuntime.Text.SensitiveData

/-!
# The memory write service

`MemoryWriteService` (`app/application/services/memory_write_service.py`): a text is normalized, redacted
and cut into chunks, and each chunk is embedded, encrypted, stored and announced. The text tools are
arguments of its constructor, and are any functions here.
-/

namespace AgentRuntime

open Interaction

/-- Service for writing memory with validation and redaction pipeline. -/
structure MemoryWriteService where
  normalize : String → String
  validateSize : String → Except PyError Unit
  classify : String → UUID → ClassificationResult
  redact : String → ClassificationResult → UUID → RedactionResult
  /-- The chunks, if the chunker comes to an end. -/
  chunkText : String → Option (List String)

namespace MemoryWriteService

/-- A service whose text tools change nothing. -/
def plain : MemoryWriteService where
  normalize := id
  validateSize _ := .ok ()
  classify _ _ := ⟨false, [], .publicUse, ⟨1, "1.0"⟩⟩
  redact text _ _ := ⟨text, 0, false⟩
  chunkText text := some [text]

/-- Check if tenant quota allows writing memory. -/
def checkQuota (tenantId : UUID) (scope : MemoryScope) : MemoryService Unit := do
  match ← Proc.tryCall (.policyByTenantScope tenantId scope) id with
  | none => return
  | some policy =>
    let currentCount ← Proc.tryCall (.countByTenant tenantId scope) id
    let currentStorageMb ← Proc.tryCall (.storageMb tenantId) id
    match policy.isQuotaExceeded currentCount currentStorageMb with
    | some reason => throw (.memoryQuotaExceeded s!"Memory quota exceeded: {reason}")
    | none => return

/-- Calculate expiry time based on retention policy. -/
def calculateExpiry (tenantId : UUID) (scope : MemoryScope) : MemoryService (Option Time) := do
  match ← Proc.tryCall (.policyByTenantScope tenantId scope) id with
  | none =>
    match scope with
    | .ephemeral => return some ((← MemoryService.now) + 24 * Time.perHour)
    | .session => return some ((← MemoryService.now) + 7 * Time.perDay)
    | .durable => return none
  | some policy => return some (policy.calculateExpiry (← MemoryService.now))

/-- Publish memory written event to outbox. -/
def publishMemoryWrittenEvent (record : MemoryRecord) (chunk : String)
    (classification : ClassificationResult) (redactionResult : RedactionResult) : MemoryService Unit :=
  Proc.tryCall (.outboxCreate "memory.written" record.id.str "MemoryRecord"
    [("tenant_id", .str record.tenantId.str), ("agent_id", .str record.agentId.str),
      ("scope", .str record.scope.value), ("namespace", .str record.ns),
      ("session_id", (record.sessionId.map Json.str).getD .null),
      ("allowed_use_label", .str record.allowedUseLabel.value), ("chunk_length", .int chunk.length),
      ("was_redacted", .bool redactionResult.wasRedacted),
      ("redaction_count", .int redactionResult.redactionCount),
      ("sensitive_types", .list (classification.sensitiveTypes.map fun t => .str t.value))]) id

section
variable (self : MemoryWriteService) (tenantId agentId : UUID) (scope : MemoryScope) (ns : String)
  (metadata : Dict) (sessionId : Option String)

/-- One chunk after another: embedded, encrypted, stored and announced. -/
def writeChunks (classification : ClassificationResult) (redactionResult : RedactionResult)
    (expiresAt : Option Time) : List String → MemoryService (List MemoryRecord)
  | [] => return []
  | chunk :: chunks => do
    let embedding ← Proc.tryCall (.generateEmbedding chunk tenantId) id
    let ciphertext ← Proc.tryCall (.encrypt chunk tenantId) id
    let record : MemoryRecord :=
      { id := ← MemoryService.newUUID
        createdAt := ← MemoryService.now
        updatedAt := ← MemoryService.now
        tenantId, agentId, scope, ns
        contentCiphertext := ciphertext
        embedding := some embedding
        metadata
        allowedUseLabel := classification.allowedUseLabel
        sessionId, expiresAt }
    let savedRecord ← Proc.tryCall (.recordCreate record) id
    publishMemoryWrittenEvent savedRecord chunk classification redactionResult
    let records ← writeChunks classification redactionResult expiresAt chunks
    return savedRecord :: records

/-- Write memory with full validation and redaction pipeline. -/
def writeMemory (content : String) : MemoryService (List MemoryRecord) := do
  let normalizedContent := self.normalize content
  Proc.ofExcept (self.validateSize normalizedContent)
  checkQuota tenantId scope
  let classification := self.classify normalizedContent tenantId
  let redactionResult := self.redact normalizedContent classification tenantId
  match self.chunkText redactionResult.redactedText with
  | none => Proc.unfinished
  | some chunks =>
    let expiresAt ← calculateExpiry tenantId scope
    writeChunks tenantId agentId scope ns metadata sessionId classification redactionResult expiresAt chunks

end

/-! ## The calls -/

/-- What writing memory for a tenant calls. -/
def WriteCall (tenantId : UUID) : MemoryCall → Prop
  | .policyByTenantScope tenantId' _ | .countByTenant tenantId' _ | .storageMb tenantId'
  | .generateEmbedding _ tenantId' | .encrypt _ tenantId' => tenantId' = tenantId
  | .recordCreate record => record.tenantId = tenantId
  | .outboxCreate _ _ _ _ | .now | .newUUID => True
  | _ => False

section
open Proc

variable (self : MemoryWriteService) (tenantId agentId : UUID) (scope : MemoryScope) (ns : String)
  (metadata : Dict) (sessionId : Option String)

/-- The check of the quota reads the policy, the count and the storage of the tenant. -/
theorem makes_checkQuota : (checkQuota tenantId scope).Makes (WriteCall tenantId) := by
  refine keeps_bind (keeps_tryCall rfl) fun policy => ?_
  cases policy with
  | none => exact keeps_pure ()
  | some policy =>
    refine keeps_bind (keeps_tryCall rfl) fun count => ?_
    refine keeps_bind (keeps_tryCall rfl) fun storage => ?_
    split
    · exact keeps_throw _
    · exact keeps_pure ()

/-- The expiry is computed from the tenant's policy and the clock. -/
theorem makes_calculateExpiry : (calculateExpiry tenantId scope).Makes (WriteCall tenantId) := by
  refine keeps_bind (keeps_tryCall rfl) fun policy => ?_
  cases policy with
  | none =>
    cases scope with
    | ephemeral => exact keeps_bind (keeps_call trivial) fun _ => keeps_pure _
    | session => exact keeps_bind (keeps_call trivial) fun _ => keeps_pure _
    | durable => exact keeps_pure _
  | some policy => exact keeps_bind (keeps_call trivial) fun _ => keeps_pure _

/-- Writing the chunks embeds and encrypts for the tenant, and stores records of the tenant alone. -/
theorem makes_writeChunks (classification : ClassificationResult) (redactionResult : RedactionResult)
    (expiresAt : Option Time) (chunks : List String) :
    (writeChunks tenantId agentId scope ns metadata sessionId classification redactionResult expiresAt
      chunks).Makes (WriteCall tenantId) := by
  induction chunks with
  | nil => exact keeps_pure _
  | cons chunk chunks ih =>
    refine keeps_bind (keeps_tryCall rfl) fun embedding => ?_
    refine keeps_bind (keeps_tryCall rfl) fun ciphertext => ?_
    refine keeps_bind (keeps_call trivial) fun id => ?_
    refine keeps_bind (keeps_call trivial) fun createdAt => ?_
    refine keeps_bind (keeps_call trivial) fun updatedAt => ?_
    refine keeps_bind (keeps_tryCall rfl) fun savedRecord => ?_
    refine keeps_bind (keeps_tryCall trivial) fun _ => ?_
    exact keeps_bind ih fun _ => keeps_pure _

/-- So a write makes calls about its own tenant only. -/
theorem makes_writeMemory (content : String) :
    (self.writeMemory tenantId agentId scope ns metadata sessionId content).Makes
      (WriteCall tenantId) := by
  refine keeps_bind (keeps_ofExcept _) fun _ => ?_
  refine keeps_bind (makes_checkQuota tenantId scope) fun _ => ?_
  dsimp only
  split
  · exact keeps_unfinished
  · refine keeps_bind (makes_calculateExpiry tenantId scope) fun expiresAt => ?_
    exact makes_writeChunks tenantId agentId scope ns metadata sessionId _ _ expiresAt _

end

end MemoryWriteService

end AgentRuntime
