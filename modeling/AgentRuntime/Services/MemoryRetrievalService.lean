import AgentRuntime.Runtime.MemoryCall
import AgentRuntime.Text.SensitiveData

/-!
# The memory retrieval service

`MemoryRetrievalService` (`app/application/services/memory_retrieval_service.py`): five ways to read
memory records, which are decrypted, and redacted by their label, before they are returned. What a record is
returned with in the place of its ciphertext is the plaintext.
-/

namespace AgentRuntime

open Interaction

/-- Service for retrieving memory with semantic search and filtering. -/
structure MemoryRetrievalService where
  embeddingDimension : Nat
  redactBasedOnPolicy : String → AllowedUseLabel → UUID → RedactionResult
  /-- `str` of a value of the metadata. -/
  str : Json → String

namespace MemoryRetrievalService

def maxLimit : Int := 50

/-- `min(max(1, limit), self.MAX_LIMIT)`. -/
def clamped (limit : Int) : Int := min (max 1 limit) maxLimit

variable (self : MemoryRetrievalService) (tenantId agentId : UUID)

/-- The content that a record is returned with. -/
def shownContent (record : MemoryRecord) (decryptedContent : String) : String :=
  if record.allowedUseLabel ≠ .publicUse then
    let redactionResult := self.redactBasedOnPolicy decryptedContent record.allowedUseLabel tenantId
    if redactionResult.wasRedacted then redactionResult.redactedText else decryptedContent
  else decryptedContent

/-- Decrypt and redact a single memory record. -/
def decryptRecord (record : MemoryRecord) : MemoryService MemoryRecord := do
  let decryptedContent ← Proc.tryCall (.decrypt record.contentCiphertext tenantId) id
  return { record with contentCiphertext := self.shownContent tenantId record decryptedContent }

/-- Decrypt and redact a list of search results. -/
def decryptAndRedactResults (results : List (MemoryRecord × PyFloat)) :
    MemoryService (List MemoryRecord) :=
  results.mapM fun result => do
    let decrypted ← self.decryptRecord tenantId result.1
    return { decrypted with metadata := decrypted.metadata.set "_similarity" (.float result.2.text) }

/-- Apply metadata filters to search results. -/
def applyMetadataFilters (results : List (MemoryRecord × PyFloat)) (metadataFilters : Dict) :
    List (MemoryRecord × PyFloat) :=
  results.filter fun result => metadataFilters.all fun entry =>
    (result.1.metadata.get? entry.1).any fun value => self.str value == self.str entry.2

/-- Retrieve memory using semantic search with filtering. -/
def retrieveMemory (query ns : String) (scope : MemoryScope) (limit : Int) (sessionId : Option String)
    (metadataFilters : Option Dict) (similarityThreshold : Rat) : MemoryService (List MemoryRecord) := do
  let limit := clamped limit
  let queryEmbedding ← Proc.tryCall (.generateEmbedding query tenantId) id
  let results ← Proc.tryCall
    (.searchByVector tenantId agentId queryEmbedding ns scope limit sessionId) id
  let results := results.take limit.toNat
  let filteredResults := results.filter fun result => similarityThreshold ≤ result.2.value
  let filteredResults := match metadataFilters.filter (!·.isEmpty) with
    | some metadataFilters => self.applyMetadataFilters filteredResults metadataFilters
    | none => filteredResults
  self.decryptAndRedactResults tenantId filteredResults

/-- Retrieve memory records by metadata filters only. -/
def retrieveByMetadata (ns : String) (scope : MemoryScope) (metadataFilters : Dict) (limit : Int) :
    MemoryService (List MemoryRecord) := do
  let limit := clamped limit
  let results ← Proc.tryCall (.searchByMetadata tenantId agentId ns scope metadataFilters limit) id
  results.mapM (self.decryptRecord tenantId)

/-- Retrieve memory records for a specific session. -/
def retrieveBySession (sessionId ns : String) (scope : MemoryScope) (limit : Int) :
    MemoryService (List MemoryRecord) := do
  let dummyEmbedding := List.replicate self.embeddingDimension 0
  let results ← Proc.tryCall
    (.searchByVector tenantId agentId dummyEmbedding ns scope limit (some sessionId)) id
  let sessionResults := results.filter fun result => result.1.sessionId = some sessionId
  self.decryptAndRedactResults tenantId sessionResults

/-- Get a single memory record by ID. -/
def getMemoryRecord (recordId : UUID) : MemoryService (Option MemoryRecord) := do
  match ← Proc.tryCall (.recordGet recordId) id with
  | none => return none
  | some record =>
    if record.tenantId ≠ tenantId then return none
    else return some (← self.decryptRecord tenantId record)

/-- List memory records for a tenant and agent with pagination. -/
def listMemoryRecords (limit offset : Int) : MemoryService (List MemoryRecord) := do
  let limit := clamped limit
  let records ← Proc.tryCall (.recordsByTenantAgent tenantId agentId limit offset) id
  records.mapM (self.decryptRecord tenantId)

end MemoryRetrievalService

end AgentRuntime
