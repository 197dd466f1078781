import AgentRuntime.Runtime.Call

/-!
# The approval coordinator

Creating approval requests and recording the answers to them
(`app/domain/services/approval_coordinator.py`), and the endpoint that cancels one
(`app/api/v1/approvals/router.py`).
-/

namespace AgentRuntime

open Interaction Service

namespace ApprovalCoordinator

variable {σ : Type}

/-- Create and store approval request. -/
def requestApproval (runId : UUID) (stepSequence : Int) (toolName action : String)
    (resource : Option String) (inputData : Json) (policyReason requestedBy : String)
    (ttlSeconds : Nat) (approvalType : ApprovalType) : Service σ ApprovalRequest := do
  let requestId ← newUUID
  let now ← now
  let request ← Proc.ofExcept (ApprovalRequest.postInit
    { id := requestId, createdAt := now, updatedAt := now, runId, stepSequence, approvalType,
      toolName, action, resource, inputData, policyReason, requestedBy, requestedAt := now, ttlSeconds } now)
  approvalAdd request
  Proc.tryCall (.notifyApprovalRequested request) id
  return request

/-- Store what a method made of the request, and notify. -/
def storeResponse : Service ApprovalRequest ApprovalRequest := do
  let request ← get
  approvalUpdate request
  Proc.tryCall (.notifyApprovalResponded request) id
  return request

/-- Process approval response. -/
def respondToApproval (requestId : UUID) (approved : Bool) (respondedBy : String)
    (responseData : Option Dict) (denialReason : Option String) : Service σ ApprovalRequest := do
  match ← approvalGet requestId with
  | none => throw (.valueError "Approval request not found")
  | some request =>
    let now ← now
    Proc.withObject request do
      if approved then
        Proc.method (ApprovalRequest.approve respondedBy responseData now)
      else
        let reason := (PolicyEvaluator.given denialReason).getD "Denied by approver"
        Proc.method (ApprovalRequest.deny respondedBy reason now)
      storeResponse

/-- What an endpoint of the router raises for a request that is not there: the module of the exception that
it means to raise does not exist. -/
def noErrorsModule : PyError := .external "No module named 'app.infrastructure.error'"

/-- The body of the `cancel_request` endpoint. -/
def cancelRequest (requestId : UUID) : Service σ ApprovalRequest := do
  match ← approvalGet requestId with
  | none => throw noErrorsModule
  | some request =>
    let now ← now
    Proc.withObject request do
      Proc.method (ApprovalRequest.cancel "Cancelled by user" now)
      let request ← get
      approvalUpdate request
      return request

/-- Expire old pending requests. -/
def expireOldRequests : Service σ Nat := Proc.tryCall .approvalExpireOld id

/-- Get approval request by ID. -/
def get (requestId : UUID) : Service σ (Option ApprovalRequest) := approvalGet requestId

end ApprovalCoordinator

end AgentRuntime
