import AgentRuntime.Services.ApprovalCoordinator

/-!
# Tool execution with policy enforcement

`ToolExecutionService.execute_tool` (`app/application/services/tool_execution_service.py`): look up
the grant, evaluate its policy, check the rate limit, ask for approval, run the tool.

The class `ToolExecutionResult` names a field and a class method alike, `awaiting_approval`. As the
dataclass decorator reads the field's default from the class, the default is that method, bound to
the class, and a bound method is true; and as the slotted class replaces the method by the slot of
the field, calling `ToolExecutionResult.awaiting_approval(…)` raises.

The service never looks at `decision.allowed`: a denied decision that asks for no approval reaches
the handler (`executeTool_denied_reaches_handler`).
-/

namespace AgentRuntime

open Interaction Service

/-- What the attribute `awaiting_approval` of a result holds. -/
inductive AwaitingApproval where
  | flag (b : Bool)
  /-- The class method of the same name, which is the default of the field. -/
  | boundMethod
  deriving DecidableEq, Repr

/-- `bool(result.awaiting_approval)`. -/
def AwaitingApproval.truthy : AwaitingApproval → Bool
  | flag b => b
  | boundMethod => true

/-- Result of tool execution. -/
structure ToolExecutionResult where
  success : Bool
  output : Option Dict := none
  reason : String := ""
  awaitingApproval : AwaitingApproval := .boundMethod
  approvalId : Option UUID := none
  rateLimitInfo : Option RateLimitInfo := none
  deriving Repr

namespace ToolExecutionResult

def allowed (output : Dict) : ToolExecutionResult := { success := true, output := output }

def denied (reason : String) : ToolExecutionResult := { success := false, reason }

/-- `ToolExecutionResult.awaiting_approval(approval_id)`: the slot's descriptor is not callable. -/
def awaitingApprovalFor (_approvalId : UUID) : Except PyError ToolExecutionResult :=
  .error (.typeError "'member_descriptor' object is not callable")

def rateLimited (rateLimitInfo : RateLimitInfo) : ToolExecutionResult :=
  { success := false, reason := "Rate limit exceeded", rateLimitInfo := rateLimitInfo }

end ToolExecutionResult

namespace ToolExecutionService

/-- The key of the rate limit counter. -/
def rateLimitKey (toolName action : String) (tenantId : UUID) : String :=
  s!"tool:{toolName}:{action}:{tenantId.str}"

/-- Delegate to actual tool implementation (a mock result). -/
def executeToolHandler {σ : Type} (toolName action : String) (inputData : Json) :
    Service σ ToolExecutionResult := do
  Proc.call (Call.toolHandler toolName action inputData)
  return .allowed [("result", .str "success"), ("tool", .str toolName), ("action", .str action)]

/-- Execute the tool and count the call against its rate limit. -/
def executeHandler (decision : PolicyDecision) (toolName action : String) (inputData : Json) :
    Service Run ToolExecutionResult := do
  let result ← executeToolHandler toolName action inputData
  match decision.rateLimit with
  | some rateLimit =>
    let run ← get
    let _ ← increment (rateLimitKey toolName action run.tenantId) rateLimit.scope
    return result
  | none => return result

/-- What follows the rate limit check: ask for approval, or run the tool. `Run` has no attribute
`steps`, so the request's step sequence is 0. -/
def executeDecided (decision : PolicyDecision) (toolName action : String) (inputData : Json)
    (resource : Option String) : Service Run ToolExecutionResult := do
  if decision.requiresApproval then
    let run ← get
    let request ← ApprovalCoordinator.requestApproval run.id 0 toolName action resource inputData
      decision.reason "executor" 3600 .toolExecution
    let now ← now
    Proc.method (Run.requestApproval now)
    Proc.ofExcept (ToolExecutionResult.awaitingApprovalFor request.id)
  else
    executeHandler decision toolName action inputData

/-- What follows the policy evaluation: check the rate limit, if the decision has one. -/
def executeChecked (decision : PolicyDecision) (toolName action : String) (inputData : Json)
    (resource : Option String) : Service Run ToolExecutionResult := do
  match decision.rateLimit with
  | some rateLimit =>
    let run ← get
    let allowed ← checkLimit (rateLimitKey toolName action run.tenantId) rateLimit.limit
      rateLimit.scope
    if allowed then
      executeDecided decision toolName action inputData resource
    else
      return .rateLimited rateLimit
  | none => executeDecided decision toolName action inputData resource

/-- Execute tool with security checks. -/
def executeTool (cel : Cel) (agentVersionId : UUID) (toolName action : String) (inputData : Json)
    (resource : Option String) (context : Option Dict) : Service Run ToolExecutionResult := do
  match ← grantByTool agentVersionId toolName with
  | none => return .denied "No grant found for tool"
  | some grant =>
    let now ← now
    let decision := grant.evaluate cel action resource context now
    executeChecked decision toolName action inputData resource

end ToolExecutionService

end AgentRuntime
