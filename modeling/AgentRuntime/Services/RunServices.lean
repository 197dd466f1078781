import AgentRuntime.Runtime.Call

/-!
# The services of a run

Loading and cancelling a run for a tenant (`app/application/use_cases/run.py`), recording what it spends
(`app/application/services/budget_service.py`), and requesting, detecting and completing its cancellation
(`app/application/services/cancellation_service.py`). A refused recording is logged and raised again. A request
to cancel is stored on the run's row and signalled through Redis; the flag there expires, and the row is the
fallback of `is_cancelled`.
-/

namespace AgentRuntime

open Interaction Service

namespace RunUseCases

variable {σ : Type}

/-- Get run by ID with tenant check. -/
def getRun (runId tenantId : UUID) : Service σ (Option Run) := do
  match ← runGet runId with
  | none => return none
  | some run => if run.tenantId = tenantId then return some run else return none

/-- Cancel a run of the tenant. -/
def cancelRun (runId tenantId : UUID) (reason : Option String) : Service σ (Option Run) := do
  match ← getRun runId tenantId with
  | none => return none
  | some run =>
    Proc.withObject run do
      let now ← now
      Proc.method (Run.cancel reason now)
      let run ← get
      let run ← runUpdate run
      return some run

end RunUseCases

namespace BudgetService

variable {σ : Type}

/-- Record spent cost against a run. -/
def recordSpent (runId : UUID) (cost : Money) (provider model : String) : Service σ Unit := do
  match ← runGet runId with
  | none => return
  | some run =>
    Proc.withObject run do
      let now ← now
      Proc.method (Run.recordCost cost now)
      let run ← get
      let _ ← runUpdate run
      let totalSpent ← Proc.ofExcept run.spentCost.microUnits
      Proc.method (Run.addEvent
        (.costRecorded run.id run.tenantId cost.microUnits totalSpent provider model))

/-- Record provider usage and calculate cost. The cost service is a parameter. -/
def recordProviderUsage (calculateCost : String → String → Int → Int → Except PyError Int)
    (runId : UUID) (provider model : String) (promptTokens completionTokens : Int) :
    Service σ Unit := do
  let costMicro ← Proc.ofExcept (calculateCost provider model promptTokens completionTokens)
  if 0 < costMicro then
    recordSpent runId ⟨costMicro.toNat⟩ provider model

end BudgetService

namespace CancellationService

variable {σ : Type}

/-- Request cancellation of a run. -/
def requestCancellation (runId : UUID) (reason : Option String) : Service σ Bool := do
  match ← runGet runId with
  | none => return false
  | some run =>
    if run.state.isTerminal then
      return true
    else
      Proc.withObject run do
        let now₁ ← now
        modify fun run => { run with cancelRequestedAt := some now₁ }
        let run ← get
        let _ ← runUpdate run
        let now₂ ← now
        Proc.method (Run.addEvent (.cancellationRequested run.id run.tenantId reason now₂))
        let success ← Proc.call (Call.publishRequest runId run.tenantId reason)
        let _ ← Proc.call (Call.setFlag runId)
        return success

/-- Check if a run has been cancelled: the Redis flag first, then the stored run. -/
def isCancelled (runId : UUID) : Service σ Bool := do
  if ← Proc.call (Call.checkFlag runId) then
    return true
  else
    match ← runGet runId with
    | none => return false
    | some run => return run.cancelRequestedAt.isSome

/-- Acknowledge cancellation request from a worker. -/
def acknowledgeCancellation (runId : UUID) (workerId : String) : Service σ Bool := do
  match ← runGet runId with
  | none => return false
  | some run =>
    Proc.withObject run do
      let now ← now
      Proc.method (Run.addEvent (.cancellationAcknowledged run.id run.tenantId workerId now))
      Proc.call (Call.publishAcknowledgement runId run.tenantId workerId)

/-- Mark cancellation as completed. -/
def completeCancellation (runId : UUID) (workerId : String) (stepsCancelled : Nat)
    (cleanupPerformed : Bool) : Service σ Bool := do
  match ← runGet runId with
  | none => return false
  | some run =>
    Proc.withObject run do
      let now₁ ← now
      Proc.method (Run.cancel (some "Cancellation completed") now₁)
      let now₂ ← now
      Proc.method (Run.addEvent (.cancellationCompleted run.id run.tenantId workerId now₂
        stepsCancelled cleanupPerformed))
      let run ← get
      let _ ← runUpdate run
      let success ← Proc.call
        (Call.publishCompletion runId run.tenantId workerId stepsCancelled cleanupPerformed)
      let _ ← Proc.call (Call.clearFlag runId)
      return success

end CancellationService

end AgentRuntime
