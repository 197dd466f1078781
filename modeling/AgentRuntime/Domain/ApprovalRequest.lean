import AgentRuntime.Interaction.Method
import AgentRuntime.Python.Values

/-!
# Approval requests

The human-in-the-loop request of `app/domain/entities/approval_request.py` and its life cycle: only
a pending request can be approved or denied, and an approval also checks the expiry time.
-/

namespace AgentRuntime

open Interaction

inductive ApprovalState where
  | pending
  | approved
  | denied
  | expired
  | cancelled
  deriving DecidableEq, Repr

/-- The text of the state. -/
def ApprovalState.value : ApprovalState → String
  | pending => "pending"
  | approved => "approved"
  | denied => "denied"
  | expired => "expired"
  | cancelled => "cancelled"

inductive ApprovalType where
  | toolExecution
  | sensitiveAction
  | budgetExceed
  | policyViolation
  deriving DecidableEq, Repr

/-- The events an approval request emits. -/
inductive ApprovalEvent where
  | granted (approvalId runId : UUID) (approvedBy : String) (responseData : Option Dict)
  | denied (approvalId runId : UUID) (deniedBy reason : String)
  | cancelled (approvalId runId : UUID) (reason : String)
  deriving Repr

/-- Human-in-the-loop approval request. -/
structure ApprovalRequest where
  id : UUID
  createdAt : Time
  updatedAt : Time
  runId : UUID
  stepSequence : Int
  approvalType : ApprovalType
  state : ApprovalState := .pending
  toolName : String
  action : String
  resource : Option String := none
  inputData : Json := .dict []
  policyReason : String := ""
  requestedBy : String := "system"
  requestedAt : Time
  approvedBy : Option String := none
  approvedAt : Option Time := none
  denialReason : Option String := none
  expiresAt : Option Time := none
  ttlSeconds : Nat := 3600
  responseData : Option Dict := none
  events : List ApprovalEvent := []
  deriving Repr

namespace ApprovalRequest

/-- `ApprovalRequest.__post_init__`: the default expiry time and the checks of the constructor. -/
def postInit (self : ApprovalRequest) (now : Time) : Except PyError ApprovalRequest :=
  let self :=
    match self.expiresAt with
    | some _ => self
    | none => { self with expiresAt := some (now + self.ttlSeconds * Time.perSecond) }
  if isBlank self.toolName then
    .error (.valueError "Tool name cannot be empty")
  else if isBlank self.action then
    .error (.valueError "Action cannot be empty")
  else
    .ok self

def isExpired (self : ApprovalRequest) (now : Time) : Bool :=
  match self.expiresAt with
  | none => false
  | some expiresAt => expiresAt < now

/-- Approve a pending request that has not expired. -/
def approve (approvedBy : String) (responseData : Option Dict) (now : Time) :
    Method PyError ApprovalRequest Unit := do
  let self ← get
  if self.state ≠ .pending then
    throw (.valueError s!"Cannot approve request in state {self.state.value}")
  if self.isExpired now then
    throw (.valueError "Approval request has expired")
  set { self with
    state := .approved, approvedBy := some approvedBy, approvedAt := some now,
    responseData := responseData, updatedAt := now,
    events := self.events ++ [ApprovalEvent.granted self.id self.runId approvedBy responseData] }

/-- Deny a pending request. -/
def deny (deniedBy reason : String) (now : Time) : Method PyError ApprovalRequest Unit := do
  let self ← get
  if self.state ≠ .pending then
    throw (.valueError s!"Cannot deny request in state {self.state.value}")
  set { self with
    state := .denied, approvedBy := some deniedBy, approvedAt := some now,
    denialReason := some reason, updatedAt := now,
    events := self.events ++ [ApprovalEvent.denied self.id self.runId deniedBy reason] }

/-- Cancel a pending or approved request; any other is left as it is. -/
def cancel (reason : String) (now : Time) : Method PyError ApprovalRequest Unit := do
  let self ← get
  if self.state ≠ .pending ∧ self.state ≠ .approved then
    return
  set { self with
    state := .cancelled, denialReason := some reason, updatedAt := now,
    events := self.events ++ [ApprovalEvent.cancelled self.id self.runId reason] }

/-- A cancellation raises nothing. -/
theorem cancel_on (reason : String) (now : Time) (self : ApprovalRequest) :
    ∃ self', (cancel reason now).on self = (.ok (), self') ∧ self'.id = self.id ∧
      (self'.state = .cancelled ∨ self' = self) := by
  rw [cancel, Method.on_bind, Method.on_get]
  by_cases hopen : self.state ≠ .pending ∧ self.state ≠ .approved
  · refine ⟨self, ?_, rfl, .inr rfl⟩
    simp [hopen]
  · refine ⟨{ self with
      state := .cancelled, denialReason := some reason, updatedAt := now,
      events := self.events ++ [ApprovalEvent.cancelled self.id self.runId reason] }, ?_, rfl, .inl rfl⟩
    simp [hopen]

end ApprovalRequest

end AgentRuntime
