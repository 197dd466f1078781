import AgentRuntime.Domain.ApprovalRequest
import AgentRuntime.Domain.Policy
import AgentRuntime.Domain.Run

/-!
# The calls of the run workers and services

`Call` lists what the modelled coroutines await or read from outside: the clock, fresh identifiers,
the repositories, the rate limiter, the notification service, the tool handler, the cancellation
signals and the memory services. `Call.Ans` is the type of each answer; an answer in `Except` may be
an exception of the callee. The signal methods catch every exception and answer a truth value.
-/

namespace AgentRuntime

open Interaction

/-- One awaited call, clock reading or fresh identifier. -/
inductive Call where
  | now
  | newUUID
  /-- `run_repository.get(run_id)`. -/
  | runGet (runId : UUID)
  /-- `run_repository.update(run)`. -/
  | runUpdate (run : Run)
  /-- `run_repository.update_step(run.id, step)`, as the executor writes it. -/
  | updateStep (runId : UUID) (step : RunStep)
  /-- `tool_grant_repo.get_by_tool(agent_version_id, tool_name)`. -/
  | grantByTool (agentVersionId : UUID) (toolName : String)
  | checkLimit (key : String) (limit : Int) (window : String)
  | increment (key : String) (window : String)
  /-- `_execute_tool_handler(tool_name, action, input_data)`. -/
  | toolHandler (toolName action : String) (inputData : Json)
  | approvalAdd (request : ApprovalRequest)
  | approvalGet (requestId : UUID)
  | approvalUpdate (request : ApprovalRequest)
  | approvalExpireOld
  | notifyApprovalRequested (request : ApprovalRequest)
  | notifyApprovalResponded (request : ApprovalRequest)
  | publishRequest (runId tenantId : UUID) (reason : Option String)
  | publishAcknowledgement (runId tenantId : UUID) (workerId : String)
  | publishCompletion (runId tenantId : UUID) (workerId : String) (stepsCancelled : Nat)
      (cleanupPerformed : Bool)
  | setFlag (runId : UUID)
  | checkFlag (runId : UUID)
  | clearFlag (runId : UUID)
  | ephemeralGetAll (runId : UUID)
  | ephemeralSet (runId : UUID) (key : String) (value : Json)
  | sessionContext (tenantId agentId : UUID) (sessionId : String) (limit : Nat)
  | retrieveMemory (tenantId agentId : UUID) (query ns : String) (limit : Nat)
  /-- `asyncio.sleep`, in the placeholder for the steps that call a model or memory. -/
  | sleep
  deriving Repr

/-- The type of the answer to a call. -/
@[reducible] def Call.Ans : Call → Type
  | now => Time
  | newUUID => UUID
  | runGet _ => Except PyError (Option Run)
  | runUpdate _ => Except PyError Run
  | updateStep _ _ => Except PyError Unit
  | grantByTool _ _ => Except PyError (Option ToolGrant)
  | checkLimit _ _ _ => Except PyError Bool
  | increment _ _ => Except PyError Int
  | toolHandler _ _ _ => Unit
  | approvalAdd _ => Except PyError Unit
  | approvalGet _ => Except PyError (Option ApprovalRequest)
  | approvalUpdate _ => Except PyError Unit
  | approvalExpireOld => Except PyError Nat
  | notifyApprovalRequested _ => Except PyError Unit
  | notifyApprovalResponded _ => Except PyError Unit
  | publishRequest _ _ _ => Bool
  | publishAcknowledgement _ _ _ => Bool
  | publishCompletion _ _ _ _ _ => Bool
  | setFlag _ => Bool
  | checkFlag _ => Bool
  | clearFlag _ => Bool
  | ephemeralGetAll _ => Except PyError Dict
  | ephemeralSet _ _ _ => Except PyError Unit
  | sessionContext _ _ _ _ => Except PyError (List Json)
  | retrieveMemory _ _ _ _ _ => Except PyError (List Json)
  | sleep => Unit

/-- The answers of an outside where every call succeeds and nothing is stored. -/
def Call.quiet : (o : Call) → o.Ans
  | now => (0 : Nat)
  | newUUID => ⟨0⟩
  | runGet _ => .ok none
  | runUpdate run => .ok run
  | updateStep _ _ => .ok ()
  | grantByTool _ _ => .ok none
  | checkLimit _ _ _ => .ok true
  | increment _ _ => .ok 1
  | toolHandler _ _ _ => ()
  | approvalAdd _ => .ok ()
  | approvalGet _ => .ok none
  | approvalUpdate _ => .ok ()
  | approvalExpireOld => .ok 0
  | notifyApprovalRequested _ => .ok ()
  | notifyApprovalResponded _ => .ok ()
  | publishRequest _ _ _ => true
  | publishAcknowledgement _ _ _ => true
  | publishCompletion _ _ _ _ _ => true
  | setFlag _ => true
  | checkFlag _ => false
  | clearFlag _ => true
  | ephemeralGetAll _ => .ok []
  | ephemeralSet _ _ _ => .ok ()
  | sessionContext _ _ _ _ => .ok []
  | retrieveMemory _ _ _ _ _ => .ok []
  | sleep => ()

/-- The call runs the handler of a tool. -/
def Call.isToolHandler : Call → Bool
  | toolHandler _ _ _ => true
  | _ => false

/-- A call of a handler is one. -/
@[simp] theorem Call.isToolHandler_toolHandler (toolName action : String) (inputData : Json) :
    (toolHandler toolName action inputData).isToolHandler = true := rfl

/-- Nothing else is. -/
@[simp] theorem Call.isToolHandler_of_ne {o : Call}
    (h : ∀ toolName action inputData, o ≠ toolHandler toolName action inputData) :
    o.isToolHandler = false := by
  cases o <;> first | rfl | exact absurd rfl (h _ _ _)

/-- The call stores a new approval request. -/
def Call.isApprovalAdd : Call → Bool
  | approvalAdd _ => true
  | _ => false

/-- The call stores a new approval request that is pending. -/
def Call.isPendingApprovalAdd : Call → Bool
  | approvalAdd request => request.state = .pending
  | _ => false

/-- A coroutine of the run services on a local object of type `σ`. -/
abbrev Service (σ : Type) := Proc Call Call.Ans PyError σ

/-- A run of a program of the run services. -/
abbrev CallEnv (W : Type) := Env Call Call.Ans W

/-- The environment of such an outside. -/
def quietEnv : CallEnv Unit := fun o w => (o.quiet, w)

/-! ## Sample data

Concrete values for the counterexamples and witnesses of the later modules; what is not a parameter
plays no role in them.
-/

/-- A pending step. -/
def RunStep.sample (kind : RunStepKind) (inputData : Option Dict) : RunStep :=
  { id := ⟨2⟩, createdAt := 0, updatedAt := 0, runId := ⟨1⟩, sequence := 0, kind, inputData }

/-- A run in some state, with some steps. -/
def Run.sample (state : RunState) (steps : List RunStep) : Run :=
  { id := ⟨1⟩, createdAt := 0, updatedAt := 0, tenantId := ⟨3⟩, agentVersionId := ⟨4⟩, state,
    idempotencyKey := "key", steps }

/-- A grant for a tool, whose policy is only its default effect. -/
def ToolGrant.sample (toolName : String) (effect : PolicyEffect) : ToolGrant :=
  { id := ⟨5⟩, createdAt := 0, updatedAt := 0, agentVersionId := ⟨4⟩, toolName,
    policy := { toolName, defaultEffect := effect } }

namespace Service

variable {σ : Type}

/-- `datetime.now(UTC)`. -/
abbrev now : Service σ Time := Proc.call Call.now

/-- `uuid4()`. -/
abbrev newUUID : Service σ UUID := Proc.call Call.newUUID

abbrev runGet (runId : UUID) : Service σ (Option Run) := Proc.tryCall (.runGet runId) id

abbrev runUpdate (run : Run) : Service σ Run := Proc.tryCall (.runUpdate run) id

abbrev updateStep (runId : UUID) (step : RunStep) : Service σ Unit :=
  Proc.tryCall (.updateStep runId step) id

abbrev grantByTool (agentVersionId : UUID) (toolName : String) : Service σ (Option ToolGrant) :=
  Proc.tryCall (.grantByTool agentVersionId toolName) id

abbrev checkLimit (key : String) (limit : Int) (window : String) : Service σ Bool :=
  Proc.tryCall (.checkLimit key limit window) id

abbrev increment (key window : String) : Service σ Int := Proc.tryCall (.increment key window) id

abbrev approvalAdd (request : ApprovalRequest) : Service σ Unit :=
  Proc.tryCall (.approvalAdd request) id

abbrev approvalGet (requestId : UUID) : Service σ (Option ApprovalRequest) :=
  Proc.tryCall (.approvalGet requestId) id

abbrev approvalUpdate (request : ApprovalRequest) : Service σ Unit :=
  Proc.tryCall (.approvalUpdate request) id

end Service

end AgentRuntime
