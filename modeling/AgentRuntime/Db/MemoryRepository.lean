import AgentRuntime.Db.Rows
import AgentRuntime.Domain.Memory
import Mathlib.Data.List.Sort

/-!
# The memory repositories

The statements of `app/infrastructure/db/repositories/memory.py` over the tables of memory records,
session summaries and retention policies, with the unique constraint on the summaries. A row of a table is
the entity that it is read as. Identifiers are drawn afresh, so that no row is refused for its own.
-/

namespace AgentRuntime

/-- The rows of the three tables. -/
structure MemoryTables where
  records : List MemoryRecord := []
  summaries : List SessionSummary := []
  policies : List MemoryRetentionPolicy := []

/-- What the database computes in a statement: the time of the transaction, the order in which the selected rows
are found, the similarity of two vectors, the size of rows in megabytes, the text of a JSON value; and `str` of a
value that it is compared with. -/
structure MemoryDatabase where
  now : Time
  order : RowOrder MemoryRecord := {}
  similarity : Embedding → Embedding → PyFloat
  storageMb : List MemoryRecord → PyFloat
  astext : Json → Option String
  str : Json → String

namespace MemoryTables

/-- `result.scalar_one_or_none()`. -/
def oneOrNone {α : Type} : List α → Except PyError (Option α)
  | [] => .ok none
  | [row] => .ok (some row)
  | _ :: _ :: _ => .error (.external "MultipleResultsFound")

/-- `LIMIT`, which must not be negative. -/
def limited {α : Type} (limit : Int) (rows : List α) : Except PyError (List α) :=
  if limit < 0 then .error (.external "LIMIT must not be negative") else .ok (rows.take limit.toNat)

/-- `OFFSET` and `LIMIT`. -/
def page {α : Type} (limit offset : Int) (rows : List α) : Except PyError (List α) :=
  if offset < 0 then .error (.external "OFFSET must not be negative")
  else limited limit (rows.drop offset.toNat)

variable (db : MemoryDatabase) (self : MemoryTables) (tenantId agentId : UUID)

/-! ## Memory records -/

def createRecord (record : MemoryRecord) : MemoryTables := { self with records := self.records ++ [record] }

def getRecord (recordId : UUID) : Option MemoryRecord :=
  self.records.find? fun record => record.id = recordId

def getByTenantAgent (limit offset : Int) : Except PyError (List MemoryRecord) :=
  page limit offset ((db.order.arrange (self.records.filter fun record =>
    record.tenantId = tenantId ∧ record.agentId = agentId)).insertionSort fun a b =>
      b.createdAt ≤ a.createdAt)

/-- The conditions of the search by vector: among them `expires_at IS NULL OR expires_at > now()`, and the
session, if one is given that is not empty. -/
def Searched (ns : String) (scope : MemoryScope) (sessionId : Option String) (record : MemoryRecord) :
    Prop :=
  record.tenantId = tenantId ∧ record.agentId = agentId ∧ record.ns = ns ∧ record.scope = scope ∧
    record.embedding.isSome = true ∧ record.expiresAt.all (fun t => db.now < t) = true ∧
      (sessionId.filter (· ≠ "")).all (fun s => record.sessionId = some s) = true

instance (ns : String) (scope : MemoryScope) (sessionId : Option String) :
    DecidablePred (Searched db tenantId agentId ns scope sessionId) := fun _ =>
  inferInstanceAs (Decidable (_ ∧ _ ∧ _ ∧ _ ∧ _ ∧ _ ∧ _))

def searchByVector (queryEmbedding : Embedding) (ns : String) (scope : MemoryScope) (limit : Int)
    (sessionId : Option String) : Except PyError (List (MemoryRecord × PyFloat)) :=
  limited limit (((db.order.arrange (self.records.filter (Searched db tenantId agentId ns scope sessionId))).map
    fun record => (record, db.similarity (record.embedding.getD []) queryEmbedding)).insertionSort fun a b =>
      b.2.value ≤ a.2.value)

/-- `metadata[key].astext == str(value)` for every filter. -/
def MatchesMetadata (metadataFilters : Dict) (record : MemoryRecord) : Prop :=
  ∀ entry ∈ metadataFilters, (record.metadata.get? entry.1).bind db.astext = some (db.str entry.2)

instance (metadataFilters : Dict) : DecidablePred (MatchesMetadata db metadataFilters) := fun _ =>
  inferInstanceAs (Decidable (∀ _ ∈ _, _))

def searchByMetadata (ns : String) (scope : MemoryScope) (metadataFilters : Dict) (limit : Int) :
    Except PyError (List MemoryRecord) :=
  limited limit (db.order.arrange (self.records.filter fun record =>
    (record.tenantId = tenantId ∧ record.agentId = agentId ∧ record.ns = ns ∧ record.scope = scope) ∧
      MatchesMetadata db metadataFilters record))

/-- The records whose `expires_at` has passed, as `expires_at < now()` says of those that have one. -/
def HasExpired (record : MemoryRecord) : Prop :=
  record.tenantId = tenantId ∧ record.expiresAt.any (fun t => t < db.now) = true

instance : DecidablePred (HasExpired db tenantId) := fun _ => inferInstanceAs (Decidable (_ ∧ _))

/-- The number of records that were deleted, and what is left. -/
def deleteExpired : Nat × MemoryTables :=
  ((self.records.filter (HasExpired db tenantId)).length,
    { self with records := self.records.filter fun record => ¬HasExpired db tenantId record })

def countByTenant (scope : MemoryScope) : Nat :=
  (self.records.filter fun record => record.tenantId = tenantId ∧ record.scope = scope).length

/-- `get_storage_size_bytes`, in megabytes. -/
def storageMb : PyFloat := db.storageMb (self.records.filter fun record => record.tenantId = tenantId)

/-! ## Session summaries -/

/-- The summary of a session. -/
def OfSession (tenantId agentId : UUID) (sessionId : String) (summary : SessionSummary) : Prop :=
  summary.tenantId = tenantId ∧ summary.agentId = agentId ∧ summary.sessionId = sessionId

instance (sessionId : String) : DecidablePred (OfSession tenantId agentId sessionId) := fun _ =>
  inferInstanceAs (Decidable (_ ∧ _ ∧ _))

/-- A second summary of a session is refused by the unique constraint. -/
def createSummary (summary : SessionSummary) : Except PyError SessionSummary × MemoryTables :=
  if self.summaries.any (OfSession summary.tenantId summary.agentId summary.sessionId) then
    (.error (.external "IntegrityError"), self)
  else (.ok summary, { self with summaries := self.summaries ++ [summary] })

def getBySessionId (sessionId : String) : Except PyError (Option SessionSummary) :=
  oneOrNone (self.summaries.filter (OfSession tenantId agentId sessionId))

def deleteBySessionId (sessionId : String) : Bool × MemoryTables :=
  (self.summaries.any (OfSession tenantId agentId sessionId),
    { self with summaries :=
        self.summaries.filter fun summary => ¬OfSession tenantId agentId sessionId summary })

def listByAgent (limit offset : Int) : Except PyError (List SessionSummary) :=
  page limit offset ((self.summaries.filter fun summary =>
    summary.tenantId = tenantId ∧ summary.agentId = agentId).insertionSort fun a b =>
      b.createdAt ≤ a.createdAt)

/-! ## Retention policies -/

def getByTenantScope (scope : MemoryScope) : Except PyError (Option MemoryRetentionPolicy) :=
  oneOrNone (self.policies.filter fun policy => policy.tenantId = tenantId ∧ policy.scope = scope)

/-- The policy of a tenant and a scope. -/
def PolicyOf (tenantId : UUID) (scope : MemoryScope) (policy : MemoryRetentionPolicy) : Prop :=
  policy.tenantId = tenantId ∧ policy.scope = scope

instance (scope : MemoryScope) : DecidablePred (PolicyOf tenantId scope) := fun _ =>
  inferInstanceAs (Decidable (_ ∧ _))

/-- A second policy of a tenant and a scope is refused by the unique constraint. -/
def createPolicy (policy : MemoryRetentionPolicy) : Except PyError MemoryRetentionPolicy × MemoryTables :=
  if self.policies.any (PolicyOf policy.tenantId policy.scope) then
    (.error (.external "IntegrityError"), self)
  else (.ok policy, { self with policies := self.policies ++ [policy] })

/-- The policy that is there takes the values of the new one. -/
def updatePolicy (policy : MemoryRetentionPolicy) : MemoryTables :=
  { self with policies := self.policies.map fun existing =>
      if PolicyOf policy.tenantId policy.scope existing then
        { existing with
          retentionDays := policy.retentionDays
          maxRecordsPerTenant := policy.maxRecordsPerTenant
          maxStorageMb := policy.maxStorageMb }
      else existing }

def upsertPolicy (policy : MemoryRetentionPolicy) : Except PyError MemoryRetentionPolicy × MemoryTables :=
  match self.getByTenantScope policy.tenantId policy.scope with
  | .error e => (.error e, self)
  | .ok (some _) => (.ok policy, self.updatePolicy policy)
  | .ok none => self.createPolicy policy

/-- The unique constraint on the policies. -/
def PoliciesUnique : Prop :=
  ∀ tenantId scope, (self.policies.filter (PolicyOf tenantId scope)).length ≤ 1

variable {self} in
/-- With at most one policy for each tenant and scope, the lookup does not raise. -/
theorem PoliciesUnique.exists_getByTenantScope (h : self.PoliciesUnique) (tenantId : UUID)
    (scope : MemoryScope) : ∃ policy, self.getByTenantScope tenantId scope = .ok policy := by
  have hlength := h tenantId scope
  unfold getByTenantScope
  change ∃ policy, oneOrNone (self.policies.filter (PolicyOf tenantId scope)) = .ok policy
  cases hrows : self.policies.filter (PolicyOf tenantId scope) with
  | nil => exact ⟨none, rfl⟩
  | cons row rows =>
    rw [hrows, List.length_cons] at hlength
    obtain rfl : rows = [] := List.eq_nil_of_length_eq_zero (by omega)
    exact ⟨some row, rfl⟩

/-! ## The rows of a tenant -/

/-- The rows of one tenant. -/
def ofTenant : MemoryTables where
  records := self.records.filter fun record => record.tenantId = tenantId
  summaries := self.summaries.filter fun summary => summary.tenantId = tenantId
  policies := self.policies.filter fun policy => policy.tenantId = tenantId

/-- A filter that asks for more has the same result on what an earlier filter left. -/
theorem filter_filter_of_imp {α : Type} {p q : α → Bool} (h : ∀ a, p a = true → q a = true)
    (rows : List α) : (rows.filter q).filter p = rows.filter p := by
  rw [List.filter_filter]
  refine List.filter_congr fun a _ => ?_
  cases hp : p a with
  | false => rfl
  | true => rw [h a hp]; rfl

/-- A lookup of a session's summary sees the rows of its tenant alone. -/
theorem getBySessionId_ofTenant (sessionId : String) :
    (self.ofTenant tenantId).getBySessionId tenantId agentId sessionId =
      self.getBySessionId tenantId agentId sessionId := by
  refine congrArg oneOrNone (filter_filter_of_imp (fun summary h => ?_) self.summaries)
  exact decide_eq_true (of_decide_eq_true h).1

/-- So does the list of an agent's summaries. -/
theorem listByAgent_ofTenant (limit offset : Int) :
    (self.ofTenant tenantId).listByAgent tenantId agentId limit offset =
      self.listByAgent tenantId agentId limit offset := by
  refine congrArg (fun rows : List SessionSummary => page limit offset
    (rows.insertionSort fun a b => b.createdAt ≤ a.createdAt))
      (filter_filter_of_imp (fun summary h => ?_) self.summaries)
  exact decide_eq_true (of_decide_eq_true h).1

/-- So does the search by similarity. -/
theorem searchByVector_ofTenant (queryEmbedding : Embedding) (ns : String)
    (scope : MemoryScope) (limit : Int) (sessionId : Option String) :
    (self.ofTenant tenantId).searchByVector db tenantId agentId queryEmbedding ns scope limit sessionId =
      self.searchByVector db tenantId agentId queryEmbedding ns scope limit sessionId := by
  refine congrArg (fun rows : List MemoryRecord => limited limit (((db.order.arrange rows).map fun record =>
    (record, db.similarity (record.embedding.getD []) queryEmbedding)).insertionSort fun a b =>
      b.2.value ≤ a.2.value)) (filter_filter_of_imp (fun record h => ?_) self.records)
  exact decide_eq_true (of_decide_eq_true h).1

/-- So does the search by metadata. -/
theorem searchByMetadata_ofTenant (ns : String) (scope : MemoryScope) (metadataFilters : Dict)
    (limit : Int) :
    (self.ofTenant tenantId).searchByMetadata db tenantId agentId ns scope metadataFilters limit =
      self.searchByMetadata db tenantId agentId ns scope metadataFilters limit := by
  refine congrArg (fun rows : List MemoryRecord => limited limit (db.order.arrange rows))
    (filter_filter_of_imp (fun record h => ?_) self.records)
  exact decide_eq_true (of_decide_eq_true h).1.1

/-- So does the list of an agent's records. -/
theorem getByTenantAgent_ofTenant (limit offset : Int) :
    (self.ofTenant tenantId).getByTenantAgent db tenantId agentId limit offset =
      self.getByTenantAgent db tenantId agentId limit offset := by
  refine congrArg (fun rows : List MemoryRecord => page limit offset
    ((db.order.arrange rows).insertionSort fun a b => b.createdAt ≤ a.createdAt))
      (filter_filter_of_imp (fun record h => ?_) self.records)
  exact decide_eq_true (of_decide_eq_true h).1

/-- So does the count of a scope. -/
theorem countByTenant_ofTenant (scope : MemoryScope) :
    (self.ofTenant tenantId).countByTenant tenantId scope = self.countByTenant tenantId scope := by
  refine congrArg List.length (filter_filter_of_imp (fun record h => ?_) self.records)
  exact decide_eq_true (of_decide_eq_true h).1

/-- So does the sum of the storage. -/
theorem storageMb_ofTenant :
    (self.ofTenant tenantId).storageMb db tenantId = self.storageMb db tenantId :=
  congrArg db.storageMb (filter_filter_of_imp (fun _ => id) self.records)

/-- So does the lookup of a policy. -/
theorem getByTenantScope_ofTenant (scope : MemoryScope) :
    (self.ofTenant tenantId).getByTenantScope tenantId scope = self.getByTenantScope tenantId scope := by
  refine congrArg oneOrNone (filter_filter_of_imp (fun policy h => ?_) self.policies)
  exact decide_eq_true (of_decide_eq_true h).1

/-- A record is added to the rows of its tenant. -/
theorem ofTenant_createRecord (record : MemoryRecord) :
    (self.createRecord record).ofTenant tenantId =
      if record.tenantId = tenantId then (self.ofTenant tenantId).createRecord record
      else self.ofTenant tenantId := by
  unfold ofTenant createRecord
  rw [List.filter_append]
  split
  · next h => simp [h]
  · next h => simp [h]

/-- So is a summary, and the rows of its tenant decide about it. -/
theorem createSummary_ofTenant (summary : SessionSummary) :
    ((self.ofTenant summary.tenantId).createSummary summary).1 = (self.createSummary summary).1 ∧
      (self.createSummary summary).2.ofTenant summary.tenantId =
        ((self.ofTenant summary.tenantId).createSummary summary).2 := by
  have hany : (self.ofTenant summary.tenantId).summaries.any
      (OfSession summary.tenantId summary.agentId summary.sessionId) =
        self.summaries.any (OfSession summary.tenantId summary.agentId summary.sessionId) := by
    rw [Bool.eq_iff_iff]
    simp only [ofTenant, List.any_eq_true, List.mem_filter, decide_eq_true_eq]
    constructor
    · rintro ⟨row, ⟨hrow, -⟩, hof⟩
      exact ⟨row, hrow, hof⟩
    · rintro ⟨row, hrow, hof⟩
      exact ⟨row, ⟨hrow, hof.1⟩, hof⟩
  unfold createSummary
  rw [hany]
  split
  · exact ⟨rfl, rfl⟩
  · refine ⟨rfl, ?_⟩
    simp [ofTenant, List.filter_append]

/-- The summaries of other tenants do not change. -/
theorem ofTenant_createSummary_of_ne {summary : SessionSummary} (h : summary.tenantId ≠ tenantId) :
    (self.createSummary summary).2.ofTenant tenantId = self.ofTenant tenantId := by
  unfold createSummary
  split
  · rfl
  · simp [ofTenant, List.filter_append, h]

/-- A delete of a session's summary counts and removes rows of its tenant alone. -/
theorem deleteBySessionId_ofTenant (sessionId : String) :
    ((self.ofTenant tenantId).deleteBySessionId tenantId agentId sessionId).1 =
        (self.deleteBySessionId tenantId agentId sessionId).1 ∧
      (self.deleteBySessionId tenantId agentId sessionId).2.ofTenant tenantId =
        ((self.ofTenant tenantId).deleteBySessionId tenantId agentId sessionId).2 := by
  constructor
  · rw [Bool.eq_iff_iff]
    simp only [deleteBySessionId, ofTenant, List.any_eq_true, List.mem_filter, decide_eq_true_eq]
    constructor
    · rintro ⟨row, ⟨hrow, -⟩, hof⟩
      exact ⟨row, hrow, hof⟩
    · rintro ⟨row, hrow, hof⟩
      exact ⟨row, ⟨hrow, hof.1⟩, hof⟩
  · simp only [deleteBySessionId, ofTenant, List.filter_filter, Bool.and_comm]

/-- It leaves the rows of every other tenant. -/
theorem ofTenant_deleteBySessionId_of_ne {tenantId' : UUID} (h : tenantId' ≠ tenantId)
    (sessionId : String) :
    (self.deleteBySessionId tenantId' agentId sessionId).2.ofTenant tenantId = self.ofTenant tenantId := by
  have hrows : (self.summaries.filter fun summary => ¬OfSession tenantId' agentId sessionId summary).filter
      (fun summary => decide (summary.tenantId = tenantId)) =
        self.summaries.filter fun summary => decide (summary.tenantId = tenantId) := by
    refine filter_filter_of_imp (fun summary htenant => ?_) self.summaries
    have hne : ¬OfSession tenantId' agentId sessionId summary :=
      fun hof => h (hof.1.symm.trans (of_decide_eq_true htenant))
    simpa using hne
  simp only [deleteBySessionId, ofTenant, hrows]

end MemoryTables

end AgentRuntime
