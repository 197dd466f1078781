import AgentRuntime.Db.RunRepository
import AgentRuntime.Interaction.Pool
import AgentRuntime.Services.RunServices
import AgentRuntime.Workers.RunExecutor

/-!
# Clients of a stored run

Workers and services share the tables of the runs and the cancellation flags in Redis. `storeRules`
answers the calls about these from a `Store`, and leaves every other answer open: it is part of the
schedule, like the expiry of a flag. Each update is one transaction on the tables.

`Client` lists the programs that run on one stored run, each a thread of a pool (`clientPool`).
-/

namespace AgentRuntime

open Interaction

/-- What the clients share. `lastRead` records, for each client, the row that it read last; no call
depends on it. -/
structure Store where
  tables : RunTables
  flags : List UUID := []
  lastRead : Nat → Option RunRow := fun _ => none

/-- What everything outside the store answers at one moment. -/
abbrev Outside := (o : Call) → o.Ans

/-- A cancellation flag expires. -/
structure FlagExpiry where
  runId : UUID

/-- The steps of a run that was updated can be loaded at every moment. -/
def loadsSteps (_ : Outside) : Except PyError Unit := .ok ()

/-- The answers of the store. `lazyLoad` says what the access to the steps of a run that was updated does at
each moment. The repository has no method `update_step` that takes a run's identifier and a step. A flag is
set, found or removed only when Redis can be reached. -/
def storeAnswer (reading : SpentCostReading) (lazyLoad : Outside → Except PyError Unit) (outside : Outside)
    (client : Nat) :
    (o : Call) → Store → o.Ans × Store
  | .runGet runId, s =>
    (((RunRepository.get reading runId).on s.tables).1,
      { s with lastRead := Function.update s.lastRead client (s.tables.find runId) })
  | .runUpdate run, s =>
    (((RunRepository.update reading (lazyLoad outside) run).on s.tables).1,
      { s with tables := ((RunRepository.update reading (lazyLoad outside) run).on s.tables).2 })
  | .updateStep _ _, s =>
    (.error (.typeError "SQLRunRepository.update_step() takes 2 positional arguments but 3 were given"),
      s)
  | .setFlag runId, s =>
    (outside (.setFlag runId),
      if outside (.setFlag runId) then { s with flags := runId :: s.flags } else s)
  | .checkFlag runId, s => (outside (.checkFlag runId) && s.flags.contains runId, s)
  | .clearFlag runId, s =>
    (outside (.clearFlag runId),
      if outside (.clearFlag runId) then { s with flags := s.flags.filter (· ≠ runId) } else s)
  | o, s => (outside o, s)

/-- The rules of the store. -/
def storeRules (reading : SpentCostReading) (lazyLoad : Outside → Except PyError Unit) :
    Rules Call Call.Ans Store Outside FlagExpiry where
  answer := storeAnswer reading lazyLoad
  outside expiry s := { s with flags := s.flags.filter (· ≠ expiry.runId) }

section
variable (reading : SpentCostReading) (lazyLoad : Outside → Except PyError Unit) (outside : Outside)
  (client : Nat) (s : Store)

/-- Reading a run notes which row the client has read. -/
@[simp] theorem storeRules_answer_runGet (runId : UUID) :
    (storeRules reading lazyLoad).answer outside client (.runGet runId) s =
      (((RunRepository.get reading runId).on s.tables).1,
        { s with lastRead := Function.update s.lastRead client (s.tables.find runId) }) := rfl

/-- An update answers and changes the tables as the repository does. -/
@[simp] theorem storeRules_answer_runUpdate (run : Run) :
    (storeRules reading lazyLoad).answer outside client (.runUpdate run) s =
      (((RunRepository.update reading (lazyLoad outside) run).on s.tables).1,
        { s with tables := ((RunRepository.update reading (lazyLoad outside) run).on s.tables).2 }) := rfl

end

/-! ## Clients -/

/-- A program that runs on the stored run. -/
inductive Client where
  | worker (executor : RunExecutor) (fuel : Nat)
  | requestCancellation (reason : Option String)
  | isCancelled
  | cancelRun (tenantId : UUID) (reason : Option String)
  | recordSpent (cost : Money) (provider model : String)
  /-- Get the run, do one operation on it at the time `now`, and update it. -/
  | operation (op : RunOperation) (now : Time)

/-- Get, one operation, update. -/
def runOperation {σ : Type} (runId : UUID) (op : RunOperation) (now : Time) : Service σ Unit := do
  match ← Service.runGet runId with
  | none => return
  | some run =>
    Proc.withObject run do
      Proc.method (op.method now)
      let run ← get
      let _ ← Service.runUpdate run

/-- How a call ends: an exception, or its result, if that is a truth value. -/
abbrev Ending := Except PyError (Option Bool) × Unit

/-- The program of a client. -/
def Client.program (runId : UUID) : Client → Prog Call Call.Ans Ending
  | worker executor fuel =>
    (((fun _ => none) <$> executor.executeRun fuel runId : Service Unit (Option Bool))).on ()
  | requestCancellation reason =>
    ((some <$> CancellationService.requestCancellation runId reason :
      Service Unit (Option Bool))).on ()
  | isCancelled => ((some <$> CancellationService.isCancelled runId : Service Unit (Option Bool))).on ()
  | cancelRun tenantId reason =>
    (((fun _ => none) <$> RunUseCases.cancelRun runId tenantId reason :
      Service Unit (Option Bool))).on ()
  | recordSpent cost provider model =>
    (((fun _ => none) <$> BudgetService.recordSpent runId cost provider model :
      Service Unit (Option Bool))).on ()
  | operation op now =>
    (((fun _ => none) <$> runOperation runId op now : Service Unit (Option Bool))).on ()

/-- Clients of the stored run that have not started. -/
def clientPool (runId : UUID) (clients : List Client) (store : Store) :
    Pool Call Call.Ans Ending Store where
  threads := clients.map (Client.program runId)
  shared := store

/-- A row of a run in some state, at the start of its life. -/
def RunRow.sample (state : RunState) : RunRow :=
  { id := ⟨1⟩, tenantId := ⟨3⟩, agentVersionId := ⟨4⟩, state, inputData := [], outputData := none,
    idempotencyKey := "key", attempt := 0, maxSteps := 100, maxCostMicrounits := 10000000,
    spentCostMicrounits := 0, leaseOwner := none, leaseExpiresAt := none,
    cancelRequestedAt := none, createdAt := 0, updatedAt := 0 }

/-- A store that holds only this row. -/
def Store.sample (row : RunRow) : Store := { tables := { runs := [row] } }

/-- The next call of client `i`, with every other answer as of a quiet outside. -/
def quietStep (i : Nat) : Act Outside FlagExpiry := .thread i Call.quiet

/-- Clients that have not started guarantee what their programs do. -/
theorem clientPool_guaranteed {runId : UUID} {clients : List Client} {store : Store}
    {J : Store → Prop} {A : (o : Call) → o.Ans → Prop} {P : Nat → Call → Prop}
    {Q : Nat → Ending → Prop} (hJ : J store)
    (hprogram : ∀ (i : Nat) (client : Client), clients[i]? = some client →
      (client.program runId).Guar A (P i) (Q i)) :
    (clientPool runId clients store).Guaranteed J A P Q := by
  refine ⟨fun i q hq => ?_, hJ, by simp [clientPool]⟩
  obtain ⟨client, hclient, rfl⟩ : ∃ client, clients[i]? = some client ∧ client.program runId = q := by
    simpa [clientPool] using hq
  exact hprogram i client hclient

end AgentRuntime
