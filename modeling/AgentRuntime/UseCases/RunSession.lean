import AgentRuntime.Services.RunServices
import AgentRuntime.UseCases.Agent

/-!
# The run use cases in a session

The rest of `RunUseCases`, which only requests use, and the session of a request as the environment
of the use cases that are services (`ofService`): their calls of the repository are statements in the
session's transaction. None of them commits.
-/

namespace AgentRuntime

open Interaction Session

namespace RunUseCases

variable (lazyLoad : Except PyError Unit) (drawn : Drawn)

/-- The calls of a service, answered in the session of a request. -/
def sessionEnv : CallEnv (Session Tables)
  | .now, s => (drawn.now, s)
  | .newUUID, s => (drawn.id, s)
  | .runGet runId, s => (inTransaction (Tables.onRuns (RunRepository.get .asInt runId))).on s
  | .runUpdate run, s => (inTransaction (Tables.onRuns (RunRepository.update .asInt lazyLoad run))).on s
  | o, s => (o.quiet, s)

/-- A service in the session of a request. These services have no loop that could run out of fuel. -/
def ofService {α : Type} (m : Service Unit α) : Method PyError (Session Tables) α := do
  let self ← get
  let exec := (m.on ()).exec (sessionEnv lazyLoad drawn) self
  set exec.state
  match exec.result with
  | some (result, _) => Method.ofExcept result
  | none => throw (.external "unfinished")

/-- Create a new run, or return the one with the same idempotency key. `maxCostMicrounits` is
`int(max_cost_usd * 1_000_000)`. -/
def createRun (tenantId agentVersionId : UUID) (inputData : Dict) (idempotencyKey : String)
    (maxSteps maxCostMicrounits : Int) : Method PyError (Session Tables) Run := do
  let existing ← inTransaction (Tables.onRuns
    (RunRepository.getByIdempotencyKey .asInt tenantId idempotencyKey))
  match existing with
  | some existing => return existing
  | none =>
    let maxCost ← Method.ofExcept (Money.ofInt maxCostMicrounits)
    let run ← Method.ofExcept (Run.postInit
      { id := drawn.id, createdAt := drawn.now, updatedAt := drawn.now, tenantId, agentVersionId,
        inputData, idempotencyKey, maxSteps, maxCost })
    inTransaction (Tables.onRuns (RunRepository.create .asInt lazyLoad run))

/-- The status of a run: the run, and the total cost that is read from it. A loaded step has no
usage attributes, so no tokens are counted. -/
structure RunStatus where
  run : Run
  stepsCompleted : Nat
  totalCostMicrounits : Int
  tokensUsed : Nat := 0
  deriving Repr

/-- Get run status with usage summary. -/
def getRunStatus (runId tenantId : UUID) :
    Method PyError (Session Tables) (Option RunStatus) := do
  match ← ofService lazyLoad drawn (getRun runId tenantId) with
  | none => return none
  | some run =>
    let totalCostMicrounits ← Method.ofExcept run.spentCost.microUnits
    return some { run, stepsCompleted := run.steps.length, totalCostMicrounits }

/-! ## No use case commits -/

variable {d : Tables}

/-- A service keeps of the session what each of its calls keeps. -/
theorem keeps_ofService {α : Type} {m : Service Unit α} {I : Session Tables → Prop}
    {P : Call → Prop} (hm : (m.on ()).Guar (fun _ _ => True) P fun _ => True)
    (hcall : ∀ o s, P o → I s → I (sessionEnv lazyLoad drawn o s).2) : (ofService lazyLoad drawn m).Keeps I := by
  intro s hs
  have hexec := hm.exec_state (sessionEnv lazyLoad drawn) hcall hs
  rw [ofService, Method.on_bind]
  simp only [Method.on_get, Method.on_bind, Method.on_set]
  split <;> simpa using hexec

/-- No service on runs commits. -/
theorem keepsCommitted_ofService {α : Type} (m : Service Unit α) :
    KeepsCommitted d (ofService lazyLoad drawn m) := by
  refine keeps_ofService lazyLoad drawn (m.on ()).guar_trivial fun o s _ hs => ?_
  cases o with
  | runGet runId => exact keepsCommitted_inTransaction _ s hs
  | runUpdate run => exact keepsCommitted_inTransaction _ s hs
  | _ => exact hs

/-- Creating a run commits nothing. -/
theorem keepsCommitted_createRun (tenantId agentVersionId : UUID) (inputData : Dict)
    (idempotencyKey : String) (maxSteps maxCostMicrounits : Int) :
    KeepsCommitted d (createRun lazyLoad drawn tenantId agentVersionId inputData idempotencyKey maxSteps
      maxCostMicrounits) := by
  refine Method.keeps_bind (keepsCommitted_inTransaction _) fun existing => ?_
  cases existing with
  | some existing => exact Method.keeps_pure _
  | none =>
    refine Method.keeps_bind (Method.keeps_ofExcept _) fun maxCost => ?_
    exact Method.keeps_bind (Method.keeps_ofExcept _) fun run => keepsCommitted_inTransaction _

/-- Reading its status commits nothing. -/
theorem keepsCommitted_getRunStatus (runId tenantId : UUID) :
    KeepsCommitted d (getRunStatus lazyLoad drawn runId tenantId) := by
  refine Method.keeps_bind (keepsCommitted_ofService lazyLoad drawn _) fun run => ?_
  cases run with
  | none => exact Method.keeps_pure _
  | some run => exact Method.keeps_bind (Method.keeps_ofExcept _) fun _ => Method.keeps_pure _

/-- Loading a run writes nothing, and neither does its status. -/
theorem keepsView_getRunStatus (runId tenantId : UUID) :
    KeepsView d (getRunStatus lazyLoad drawn runId tenantId) := by
  have hreads : ((getRun runId tenantId : Service Unit (Option Run)).on ()).Guar
      (fun _ _ => True) (fun o => o = .runGet runId) fun _ => True := by
    simp only [getRun, Proc.on_bind, Proc.on_tryCall, Prog.call_bind, Prog.ret_bind, Prog.guar_call]
    refine ⟨trivial, ?_⟩
    rintro (e | _ | run) -
    · trivial
    · trivial
    · simp only [id, Proc.thenOn_ok, Proc.on_ite]
      split <;> trivial
  have hgetRun : KeepsView d (ofService lazyLoad drawn (getRun runId tenantId)) := by
    refine keeps_ofService lazyLoad drawn hreads ?_
    rintro _ s rfl hs
    exact keepsView_inTransaction (Tables.keeps_onRuns (RunRepository.get_on_state runId)) s hs
  refine Method.keeps_bind hgetRun fun run => ?_
  cases run with
  | none => exact Method.keeps_pure _
  | some run => exact Method.keeps_bind (Method.keeps_ofExcept _) fun _ => Method.keeps_pure _

end RunUseCases

end AgentRuntime
