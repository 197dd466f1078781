import AgentRuntime.Services.RunServices
import AgentRuntime.Services.ToolExecution

/-!
# The run executor

`RunExecutor` (`app/workers/executor.py`): load the run and its memory context, start the run, and
execute its steps one after another until it is cancelled, pauses for an approval or is done.

The executor reads and writes attributes that a `Run` does not have. `Run`, `AggregateRoot` and
`Entity` are slotted dataclasses, so `agent_version`, `session_id`, `memory_context` and
`memory_written_ids` raise `AttributeError`, and `hasattr` answers no. The main loop is translated
with fuel, one unit an iteration.
-/

namespace AgentRuntime

open Interaction Service

/-- Memory context for run execution. -/
structure MemoryContext where
  ephemeral : Dict
  session : List Json
  durable : List Json

/-- Executor for runs; `cel` is the expression library of the policies. -/
structure RunExecutor where
  workerId : String
  cel : Cel

namespace RunExecutor

/-! ## The attributes a run does not have -/

/-- The exception for an attribute that has no slot. -/
def noSlotError (name : String) : PyError :=
  .attributeError s!"'Run' object has no attribute '{name}'"

/-- Reading or writing an attribute that has no slot. -/
def noSlot {α : Type} (name : String) : Service Run α := throw (noSlotError name)

/-- `run.agent_version`, of which only the agent's identifier is used. -/
def agentVersion : Service Run (Option UUID) := noSlot "agent_version"

/-- `run.session_id`. -/
def sessionId : Service Run (Option String) := noSlot "session_id"

/-- `run.memory_context = memory_context`. -/
def setMemoryContext (_memoryContext : MemoryContext) : Service Run Unit := noSlot "memory_context"

/-- `run.memory_written_ids`. -/
def memoryWrittenIds : Service Run Json := noSlot "memory_written_ids"

/-! ## Memory -/

/-- Load memory context for a run. -/
def loadMemoryContext : Service Run MemoryContext := do
  let run ← get
  match ← agentVersion with
  | none => return ⟨[], [], []⟩
  | some agentId =>
    let ephemeral ← Proc.tryCall (.ephemeralGetAll run.id) id
    let session ← match PolicyEvaluator.given (← sessionId) with
      | some sessionId => Proc.tryCall (.sessionContext run.tenantId agentId sessionId 20) id
      | none => pure []
    let durable ← match run.inputData.get? "query" with
      | some (.str query) => Proc.tryCall (.retrieveMemory run.tenantId agentId query "conversation" 8) id
      | _ => pure []
    return ⟨ephemeral, session, durable⟩

/-- Save ephemeral memory back to cache: `hasattr(run, "memory_context")` is false. -/
def saveEphemeralMemory : Service Run Unit := return

/-! ## Steps -/

/-- A text in the input of a step; the service's parameters are annotated as strings, and nothing
else is modelled there. -/
def textOf (value : Json) : Service Run String :=
  match value with
  | .str text => pure text
  | _ => throw (.typeError "expected a string")

/-- Get the next pending step to execute, by its position. -/
def getNextPendingStep (run : Run) : Option Nat :=
  run.steps.findIdx? fun step => step.state = .queued || step.state = .running

/-- `step.input_data.get("resource")`. -/
def resourceOf (data : Dict) : Service Run (Option String) :=
  match data.get? "resource" with
  | none | some .null => pure none
  | some resource => some <$> textOf resource

/-- What `_execute_tool_call` makes of the result of the tool service. -/
def outputOf (result : ToolExecutionResult) : Service Run Json :=
  if result.awaitingApproval.truthy then
    throw (.toolApprovalRequired result.approvalId)
  else if result.success then
    pure ((result.output.map Json.dict).getD .null)
  else
    throw (.toolExecutionDenied result.reason)

/-- Execute tool call with security checks; the result is the `output` of the returned mapping. -/
def executeToolCall (self : RunExecutor) (step : RunStep) : Service Run Json := do
  let run ← get
  let data := step.inputData.getD []
  let toolName := (data.get? "tool_name").getD .null
  if toolName.truthy then
    let toolName ← textOf toolName
    let action ← textOf ((data.get? "action").getD (.str "execute"))
    let input := (data.get? "input").getD (.dict [])
    let resource ← resourceOf data
    let result ← ToolExecutionService.executeTool self.cel run.agentVersionId toolName action input
      resource (some [("run_id", .str run.id.str), ("step_sequence", .int step.sequence),
        ("tenant_id", .str run.tenantId.str)])
    outputOf result
  else
    throw (.valueError "Tool name required for tool_call step")

/-- Handle explicit approval request step. -/
def handleApprovalStep (step : RunStep) : Service Run Json := do
  let approvalId := ((step.inputData.getD []).get? "approval_id").getD .null
  if approvalId.truthy then
    let text ← textOf approvalId
    match UUID.ofStr? text with
    | none => throw (.external "invalid UUID")
    | some approvalId =>
      match ← approvalGet approvalId with
      | none => throw (.valueError s!"Approval request {text} not found")
      | some request =>
        match request.state with
        | .approved => return .dict (request.responseData.getD [])
        | .denied =>
          throw (.toolExecutionDenied
            ((PolicyEvaluator.given request.denialReason).getD "Approval denied"))
        | .expired => throw (.toolExecutionDenied "Approval request expired")
        | .pending | .cancelled =>
          let now ← now
          Proc.method (Run.requestApproval now)
          throw (.toolApprovalRequired approvalId)
  else
    throw (.valueError "approval_id required for approval_request step")

/-- Execute other step types (a placeholder). -/
def executeOtherStep : Service Run Json := do
  Proc.call Call.sleep
  return .str "step result"

/-- Execute a step according to its kind. -/
def executeStepKind (self : RunExecutor) (step : RunStep) : Service Run Json :=
  match step.kind with
  | .toolCall => self.executeToolCall step
  | .approvalRequest => handleApprovalStep step
  | _ => executeOtherStep

/-- `update_step(run.id, step)` for the step at position `i`. -/
def updateStepAt (i : Nat) : Service Run Unit := do
  let run ← get
  match run.steps[i]? with
  | some step => updateStep run.id step
  | none => return

/-- Call a method of the step at position `i`. -/
def stepMethodAt (i : Nat) (m : Time → Method PyError RunStep Unit) : Service Run Unit := do
  let now ← now
  Proc.method (Run.stepMethod i (m now))

/-- The `except` clauses of `_execute_step`. -/
def onStepError (i : Nat) : PyError → Service Run Unit
  | .toolApprovalRequired approvalId => do
    let now ← now
    Proc.method (Run.requestApproval now)
    stepMethodAt i (RunStep.fail s!"Approval required: {optionUUIDStr approvalId}")
  | .toolExecutionDenied reason => stepMethodAt i (RunStep.fail reason)
  | e => do
    stepMethodAt i (RunStep.fail e.str)
    throw e

/-- Execute the step at position `i`, which is pending. -/
def executeStepAt (self : RunExecutor) (i : Nat) (step : RunStep) : Service Run Unit := do
  stepMethodAt i RunStep.start
  updateStepAt i
  tryCatch
    (do
      let output ← self.executeStepKind step
      stepMethodAt i (RunStep.complete output))
    (onStepError i)
  updateStepAt i
  let run ← get
  let _ ← runUpdate run

/-- Execute a single step of the run. -/
def executeStep (self : RunExecutor) : Service Run Unit := do
  let run ← get
  match getNextPendingStep run with
  | none => return
  | some i =>
    match run.steps[i]? with
    | some step => self.executeStepAt i step
    | none => return

/-! ## Runs -/

/-- Handle cancellation of a run. -/
def handleCancellation (self : RunExecutor) : Service Run Unit := do
  let run ← get
  let _ ← CancellationService.acknowledgeCancellation run.id self.workerId
  let _ ← CancellationService.completeCancellation run.id self.workerId run.steps.length true

/-- How the main loop ends: by one of its `return`s, or by its condition. -/
inductive LoopExit where
  | returned
  | exhausted
  deriving DecidableEq, Repr

/-- Main execution loop. -/
def mainLoop (self : RunExecutor) : Nat → Service Run LoopExit
  | 0 => Proc.unfinished
  | fuel + 1 => do
    let run ← get
    if run.canExecute then
      if ← CancellationService.isCancelled run.id then
        self.handleCancellation
        return .returned
      else
        self.executeStep
        let run ← get
        if run.state = .awaitingApproval then
          return .returned
        else if ← CancellationService.isCancelled run.id then
          self.handleCancellation
          return .returned
        else
          self.mainLoop fuel
    else
      return .exhausted

/-- What follows the main loop when its condition ends it: complete the run. -/
def completeRun : Service Run Unit := do
  saveEphemeralMemory
  let memoryIds ← memoryWrittenIds
  let now ← now
  Proc.method (Run.complete [("result", .str "success"), ("memory_ids", memoryIds)] now)
  let run ← get
  let _ ← runUpdate run

/-- The `try` block of `execute_run` from the main loop on. -/
def executeLoop (self : RunExecutor) (fuel : Nat) : Service Run Unit := do
  match ← self.mainLoop fuel with
  | .returned => return
  | .exhausted => completeRun

/-- The `try` block of `execute_run`: start the run, then loop. -/
def startAndLoop (self : RunExecutor) (fuel : Nat) : Service Run Unit := do
  let now₁ ← now
  let now₂ ← now
  let now₃ ← now
  Proc.method (Run.start self.workerId 300 now₁ now₂ now₃)
  let run ← get
  let _ ← runUpdate run
  self.executeLoop fuel

/-- The `except` clause of `execute_run`. -/
def failRun (e : PyError) : Service Run Unit := do
  let now ← now
  Proc.method (Run.fail e.str none now)
  let run ← get
  let _ ← runUpdate run

/-- Execute a run with cancellation support, memory integration, and tool security. -/
def executeRun (self : RunExecutor) (fuel : Nat) (runId : UUID) : Service Unit Unit := do
  match ← runGet runId with
  | none => return
  | some run =>
    Proc.withObject run do
      let memoryContext ← loadMemoryContext
      setMemoryContext memoryContext
      tryCatch (self.startAndLoop fuel) failRun

/-- What `execute_run` does with the answer of the repository: the run found has no attribute
`agent_version`, and the memory context is loaded before the `try` block. -/
def afterGet : Except PyError (Option Run) → Except PyError Unit × Unit
  | .error e => (.error e, ())
  | .ok none => (.ok (), ())
  | .ok (some _) => (.error (noSlotError "agent_version"), ())

/-- `execute_run` reads the run once, and ends. -/
theorem executeRun_on (self : RunExecutor) (fuel : Nat) (runId : UUID) :
    (self.executeRun fuel runId).on () = .call (.runGet runId) fun r => .ret (afterGet r) := by
  rw [executeRun, Proc.on_bind, Proc.on_tryCall, Prog.call_bind]
  refine congrArg (Prog.call _) (funext fun r => ?_)
  rcases r with e | _ | run
  · rfl
  · rfl
  · simp [loadMemoryContext, agentVersion, noSlot, afterGet]

end RunExecutor

end AgentRuntime
