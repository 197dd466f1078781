import AgentRuntime.Db.Rows
import AgentRuntime.Domain.ApprovalRequest

/-!
# The approval repository

`SQLApprovalRepository` (`app/infrastructure/db/repositories/security.py`) over the rows of
`approval_requests` (`app/infrastructure/db/models/approval.py`). `update` overwrites the columns of the
decision, whatever they are; `expire_old` is one statement on the rows that are still pending.
-/

namespace AgentRuntime

open Interaction

/-- A row of `approval_requests`. -/
structure ApprovalRow where
  id : UUID
  runId : UUID
  stepSequence : Int
  approvalType : ApprovalType
  state : ApprovalState := .pending
  toolName : String
  action : String
  resource : Option String := none
  inputData : Json := .dict []
  policyReason : String := ""
  requestedBy : String := "system"
  requestedAt : Time
  approvedBy : Option String := none
  approvedAt : Option Time := none
  denialReason : Option String := none
  expiresAt : Option Time := none
  ttlSeconds : Nat := 3600
  responseData : Option Dict := none
  createdAt : Time
  updatedAt : Time

/-- The table `approval_requests`. -/
abbrev ApprovalTable := List ApprovalRow

/-- The part of a request that a decision about it assigns. -/
structure ApprovalDecision where
  state : ApprovalState
  approvedBy : Option String
  denialReason : Option String
  responseData : Option Dict

def ApprovalRequest.decision (self : ApprovalRequest) : ApprovalDecision where
  state := self.state
  approvedBy := self.approvedBy
  denialReason := self.denialReason
  responseData := self.responseData

/-- The constructor changes at most the expiry time. -/
theorem ApprovalRequest.of_postInit {self request : ApprovalRequest} {now : Time}
    (h : self.postInit now = .ok request) : ∃ expiresAt, request = { self with expiresAt } := by
  unfold postInit at h
  cases hexpires : self.expiresAt with
  | none =>
    simp only [hexpires] at h
    split_ifs at h
    exact ⟨_, (Except.ok.inj h).symm⟩
  | some expiresAt =>
    simp only [hexpires] at h
    split_ifs at h
    exact ⟨self.expiresAt, (Except.ok.inj h).symm⟩

/-- The constructor accepts a request with a tool and an action. -/
theorem ApprovalRequest.exists_postInit_eq_ok {self : ApprovalRequest} {now : Time} :
    (∃ request, self.postInit now = .ok request) ↔
      isBlank self.toolName = false ∧ isBlank self.action = false := by
  unfold postInit
  cases hexpires : self.expiresAt <;> cases htool : isBlank self.toolName <;>
    cases haction : isBlank self.action <;> simp [htool, haction]

namespace ApprovalRow

def decision (self : ApprovalRow) : ApprovalDecision where
  state := self.state
  approvedBy := self.approvedBy
  denialReason := self.denialReason
  responseData := self.responseData

/-- Convert to domain entity. -/
def toEntity (self : ApprovalRow) (now : Time) : Except PyError ApprovalRequest :=
  ApprovalRequest.postInit
    { id := self.id, createdAt := self.createdAt, updatedAt := self.updatedAt, runId := self.runId,
      stepSequence := self.stepSequence, approvalType := self.approvalType, state := self.state,
      toolName := self.toolName, action := self.action, resource := self.resource,
      inputData := if self.inputData.truthy then self.inputData else .dict [],
      policyReason := self.policyReason, requestedBy := self.requestedBy, requestedAt := self.requestedAt,
      approvedBy := self.approvedBy, approvedAt := self.approvedAt, denialReason := self.denialReason,
      expiresAt := self.expiresAt, ttlSeconds := self.ttlSeconds, responseData := self.responseData } now

/-- Update model from domain entity. -/
def updateFromEntity (self : ApprovalRow) (request : ApprovalRequest) (now : Time) : ApprovalRow :=
  { self with
    state := request.state, approvedBy := request.approvedBy, approvedAt := request.approvedAt,
    denialReason := request.denialReason, responseData := request.responseData, updatedAt := now }

/-- The checks of the entity's constructor. -/
def Readable (self : ApprovalRow) : Prop := isBlank self.toolName = false ∧ isBlank self.action = false

instance : DecidablePred Readable := fun _ => inferInstanceAs (Decidable (_ ∧ _))

/-- A row can be loaded exactly if it passes the checks. -/
theorem exists_toEntity_eq_ok {self : ApprovalRow} {now : Time} :
    (∃ request, self.toEntity now = .ok request) ↔ self.Readable := by
  exact ApprovalRequest.exists_postInit_eq_ok

/-- The condition of `expire_old`. -/
def Expirable (now : Time) (self : ApprovalRow) : Prop :=
  self.state = .pending ∧ ∃ expiresAt ∈ self.expiresAt, expiresAt < now

instance (now : Time) : DecidablePred (Expirable now) := fun _ => inferInstanceAs (Decidable (_ ∧ _))

/-- What `expire_old` makes of a row. -/
def expired (now : Time) (self : ApprovalRow) : ApprovalRow :=
  if self.Expirable now then { self with state := .expired, updatedAt := now } else self

/-- Expiry leaves the identifier of a request. -/
@[simp] theorem expired_id (now : Time) (self : ApprovalRow) : (self.expired now).id = self.id := by
  unfold expired
  split <;> rfl

/-- Only a pending row expires. -/
theorem expired_of_ne {self : ApprovalRow} (h : self.state ≠ .pending) (now : Time) :
    self.expired now = self :=
  if_neg fun hexpirable => h hexpirable.1

/-- An entity has the key and the decision of the row that it was made of. -/
theorem of_toEntity {self : ApprovalRow} {now : Time} {request : ApprovalRequest}
    (h : self.toEntity now = .ok request) : request.id = self.id ∧ request.decision = self.decision := by
  obtain ⟨expiresAt, rfl⟩ := ApprovalRequest.of_postInit h
  exact ⟨rfl, rfl⟩

end ApprovalRow

namespace ApprovalTable

/-- The row with this primary key. -/
def find (self : ApprovalTable) (requestId : UUID) : Option ApprovalRow := Rows.find ApprovalRow.id self requestId

end ApprovalTable

namespace ApprovalRepository

def get (requestId : UUID) (now : Time) : Method PyError ApprovalTable (Option ApprovalRequest) := do
  let table ← MonadState.get
  match ApprovalTable.find table requestId with
  | none => return none
  | some model => some <$> Method.ofExcept (model.toEntity now)

def update (request : ApprovalRequest) (now : Time) : Method PyError ApprovalTable Unit := do
  let table ← MonadState.get
  match ApprovalTable.find table request.id with
  | none => throw (.external "No row was found when one was required")
  | some model => set (Rows.put ApprovalRow.id table (model.updateFromEntity request now))

/-- The count is of the rows that the statement changed. -/
def expireOld (now : Time) : Method PyError ApprovalTable Nat := do
  let table ← MonadState.get
  set (table.map (ApprovalRow.expired now))
  return table.countP fun row => row.Expirable now

variable {requestId : UUID} {now : Time} {table : ApprovalTable}

/-- Loading a request changes nothing. -/
@[simp] theorem get_on_state (requestId : UUID) (now : Time) (table : ApprovalTable) :
    ((get requestId now).on table).2 = table := by
  rw [get, Method.on_bind, Method.on_get]
  cases h : ApprovalTable.find table requestId with
  | none => simp [h]
  | some model => simp [h]

/-- A request is loaded from the row with its identifier, which must be decodable at that time. -/
theorem get_on_eq_some {request : ApprovalRequest} :
    ((get requestId now).on table).1 = .ok (some request) ↔
      ∃ row, ApprovalTable.find table requestId = some row ∧ row.toEntity now = .ok request := by
  rw [get, Method.on_bind, Method.on_get]
  cases h : ApprovalTable.find table requestId with
  | none => simp [h]
  | some model => cases htoEntity : model.toEntity now <;> simp [h, htoEntity, Except.map]

/-- An update of a request that is there overwrites its decision, and no other row. -/
theorem update_on {request : ApprovalRequest} {row : ApprovalRow}
    (h : ApprovalTable.find table request.id = some row) (now : Time) :
    (update request now).on table =
      (.ok (), Rows.put ApprovalRow.id table (row.updateFromEntity request now)) := by
  simp [update, h]

/-- The update of a request without a row raises, and changes nothing. -/
theorem update_on_of_none {request : ApprovalRequest} (h : ApprovalTable.find table request.id = none)
    (now : Time) : (update request now).on table =
      (.error (.external "No row was found when one was required"), table) := by
  simp [update, h]

/-- After an update, the row of the request has the columns that it writes. -/
theorem find_update {request : ApprovalRequest} {row : ApprovalRow}
    (h : ApprovalTable.find table request.id = some row) (now : Time) :
    ApprovalTable.find ((update request now).on table).2 request.id =
      some (row.updateFromEntity request now) := by
  have hid : row.id = request.id := Rows.key_of_find h
  rw [update_on h]
  exact Rows.find_put_of_find h hid

/-- The expiry of old requests acts on every row for itself. -/
theorem find_expireOld (requestId : UUID) (now : Time) (table : ApprovalTable) :
    ApprovalTable.find ((expireOld now).on table).2 requestId =
      (ApprovalTable.find table requestId).map (ApprovalRow.expired now) :=
  Rows.find_map (ApprovalRow.expired_id now) table requestId

end ApprovalRepository

end AgentRuntime
