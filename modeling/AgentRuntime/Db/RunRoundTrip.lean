import AgentRuntime.Db.RunRepository
import AgentRuntime.Runtime.Call

/-!
# Storing a run and loading it again

What `SQLRunRepository.get` makes of a run that was stored with `create` and `add_step`, or with
`update`. The decoder goes through the constructor of `Run`: it leaves `timeout_seconds` to its
default, passes the integer column as `spent_cost`, and the constructor emits `RunCreated`, so a
loaded run always has a pending event. `get_of_create` states all that a run loses.
-/

namespace AgentRuntime

open Interaction

namespace RunRepository

/-- `add_step` for each step. -/
def addSteps : List RunStep → Method PyError RunTables Unit
  | [] => return
  | step :: steps => do
    let _ ← addStep step
    addSteps steps

/-- The ways to store a run: as a new one with its steps, or over its row. -/
inductive Storing where
  | create
  | update
  deriving DecidableEq, Repr

/-- Store the run. -/
def Storing.method (reading : SpentCostReading) (lazyLoad : Except PyError Unit) (run : Run) :
    Storing → Method PyError RunTables Unit
  | create => do
    let _ ← RunRepository.create reading lazyLoad run
    addSteps run.steps
  | update => do
    let _ ← RunRepository.update reading lazyLoad run

/-- The run can be stored, and is then loaded as it was, without pending events; every operation on
the loaded run ends as it does on the original. -/
def RoundTrips (reading : SpentCostReading) (lazyLoad : Except PyError Unit) (storing : Storing) (run : Run)
    (tables : RunTables) : Prop :=
  ∃ tables' loaded, (storing.method reading lazyLoad run).on tables = (.ok (), tables') ∧
    ((get reading run.id).on tables').1 = .ok (some loaded) ∧
    loaded = { run with events := [] } ∧
    ∀ (op : RunOperation) (now : Time), ((op.method now).on loaded).1 = ((op.method now).on run).1

/-! ## What is stored -/

/-- A step that is stored is appended to the table. -/
theorem addStep_on_ok {step stored : RunStep} {tables tables' : RunTables}
    (h : (addStep step).on tables = (.ok stored, tables')) :
    tables' = { tables with steps := tables.steps ++ [step] } := by
  simp only [addStep, Method.on_bind, Method.on_get, Method.on_ite] at h
  split at h
  · cases h
  · simp only [Method.on_modify, Method.on_pure, Prod.mk.injEq] at h
    exact h.2.symm

/-- Stored steps are appended in their order. -/
theorem addSteps_on_ok {steps : List RunStep} {tables tables' : RunTables}
    (h : (addSteps steps).on tables = (.ok (), tables')) :
    tables' = { tables with steps := tables.steps ++ steps } := by
  induction steps generalizing tables with
  | nil =>
    cases h
    simp
  | cons step steps ih =>
    obtain ⟨stored, tables₁, hstep, hsteps⟩ := Method.on_bind_eq_ok.1 h
    rw [ih hsteps, addStep_on_ok hstep]
    simp

/-- The row of a new run is appended, where no row had its key. -/
theorem create_on_ok {reading : SpentCostReading} {lazyLoad : Except PyError Unit} {run created : Run}
    {tables tables' : RunTables} (h : (create reading lazyLoad run).on tables = (.ok created, tables')) :
    ∃ model, toModel run = .ok model ∧ tables.find run.id = none ∧
      tables' = { tables with runs := tables.runs ++ [model] } := by
  obtain ⟨model, _, hmodel, h⟩ := Method.on_bind_eq_ok.1 h
  simp only [Method.on_ofExcept, Prod.mk.injEq] at hmodel
  obtain ⟨hmodel, rfl⟩ := hmodel
  simp only [Method.on_bind, Method.on_get, Method.on_ite] at h
  split at h
  · cases h
  · next hfree =>
    have hid : model.id = run.id := by
      obtain ⟨spentCostMicrounits, -, hrow⟩ := bind_eq_ok.1 hmodel
      cases hrow
      rfl
    have hfind : tables.find run.id = none := by
      refine List.find?_eq_none.2 fun row hrow => ?_
      simp only [List.any_eq_true, decide_eq_true_eq, not_exists, not_and, not_or] at hfree
      simpa [hid] using (hfree row hrow).1
    simp only [Method.on_modify, Method.on_ofExcept] at h
    cases lazyLoad with
    | error e => cases h
    | ok _ => exact ⟨model, hmodel, hfind, (congrArg Prod.snd h).symm⟩

/-! ## What is loaded -/

/-- The steps in the order in which they are loaded. -/
def inSequence (steps : List RunStep) : List RunStep :=
  steps.insertionSort fun a b => a.sequence ≤ b.sequence

/-- What becomes of a run that spent `m` when it is stored and loaded. -/
def reloaded (reading : SpentCostReading) (m : Money) (run : Run) : Run :=
  { run with
    spentCost := reading.ofMoney m
    timeoutSeconds := 90
    leaseOwner := PolicyEvaluator.given run.leaseOwner
    steps := inSequence run.steps
    events := [run.createdEvent] }

/-- A row that was appended under a free key is found. -/
theorem find_append {tables : RunTables} {row : RunRow} (steps : List RunStep)
    (hfree : tables.find row.id = none) :
    RunTables.find ⟨tables.runs ++ [row], steps⟩ row.id = some row := by
  rw [RunTables.find] at hfree
  simp [RunTables.find, List.find?_append, hfree]

/-- Steps that were appended for a run without steps are loaded. -/
theorem stepsOf_append {tables : RunTables} {runId : UUID} {steps : List RunStep}
    (runs : List RunRow) (hfresh : ∀ step ∈ tables.steps, step.runId ≠ runId)
    (hsteps : ∀ step ∈ steps, step.runId = runId) :
    RunTables.stepsOf ⟨runs, tables.steps ++ steps⟩ runId = inSequence steps := by
  have hold : tables.steps.filter (fun step => step.runId = runId) = [] := by
    simpa [List.filter_eq_nil_iff] using hfresh
  have hnew : steps.filter (fun step => step.runId = runId) = steps := by
    simpa [List.filter_eq_self] using hsteps
  rw [RunTables.stepsOf, List.filter_append, hold, hnew]
  rfl

/-- The row of a run that the constructor admits is decoded to what `reloaded` says. -/
theorem toEntity_toModel (reading : SpentCostReading) {run : Run} {m : Money} {model : RunRow}
    (hvalid : run.Valid) (hspent : run.spentCost = .money m) (hmodel : toModel run = .ok model)
    (hsteps : ∀ step ∈ run.steps, 0 ≤ step.sequence) :
    model.id = run.id ∧
      toEntity reading model (inSequence run.steps) = .ok (reloaded reading m run) := by
  obtain ⟨n, hn, hrow⟩ := bind_eq_ok.1 hmodel
  rw [hspent] at hn
  cases hn
  cases hrow
  obtain ⟨hkey, hmaxSteps, -, hattempt⟩ := hvalid
  refine ⟨rfl, toEntity_eq_ok.2 ⟨_, run.maxCost, reading.decode_microUnits m,
    Money.ofInt_eq_ok.2 rfl, ⟨hkey, hmaxSteps, hattempt⟩, fun step hstep => ?_, rfl⟩⟩
  exact hsteps step ((List.perm_insertionSort _ run.steps).mem_iff.1 hstep)

/-- A new run that the constructor admits, with its steps, is loaded as `reloaded`. -/
theorem get_of_create {reading : SpentCostReading} {lazyLoad : Except PyError Unit} {run : Run} {m : Money}
    {tables tables' : RunTables} (hvalid : run.Valid) (hspent : run.spentCost = .money m)
    (hsteps : ∀ step ∈ run.steps, step.runId = run.id ∧ 0 ≤ step.sequence)
    (hfresh : ∀ step ∈ tables.steps, step.runId ≠ run.id)
    (hstored : (Storing.create.method reading lazyLoad run).on tables = (.ok (), tables')) :
    ((get reading run.id).on tables').1 = .ok (some (reloaded reading m run)) := by
  obtain ⟨created, tables₁, hcreate, hadd⟩ := Method.on_bind_eq_ok.1 hstored
  obtain ⟨model, hmodel, hfree, rfl⟩ := create_on_ok hcreate
  obtain rfl := addSteps_on_ok hadd
  obtain ⟨hid, hentity⟩ :=
    toEntity_toModel reading hvalid hspent hmodel fun step hstep => (hsteps step hstep).2
  rw [← hid] at hfree
  refine get_on_eq_some.2 ⟨model, hid ▸ find_append _ hfree, ?_⟩
  rw [stepsOf_append _ hfresh fun step hstep => (hsteps step hstep).1]
  exact hentity

/-! ## No run is loaded as it was stored -/

/-- A loaded run has a pending event: the constructor emits one. -/
theorem events_ne_nil_of_get {reading : SpentCostReading} {runId : UUID} {tables : RunTables}
    {loaded : Run} (h : ((get reading runId).on tables).1 = .ok (some loaded)) :
    loaded.events ≠ [] := by
  obtain ⟨row, -, htoEntity⟩ := get_on_eq_some.1 h
  obtain ⟨spentCost, maxCost, -, -, -, -, rfl⟩ := toEntity_eq_ok.1 htoEntity
  exact List.cons_ne_nil _ _

/-- No run makes the round trip, however it is stored. The decoder goes through the constructor of `Run`,
which emits an event, so a loaded run has a pending one whatever its row is. -/
theorem not_roundTrips (reading : SpentCostReading) (lazyLoad : Except PyError Unit) (storing : Storing)
    (run : Run) (tables : RunTables) : ¬ RoundTrips reading lazyLoad storing run tables := by
  rintro ⟨tables', loaded, -, hloaded, hfields, -⟩
  have hevents : loaded.events = [] := by rw [hfields]
  exact events_ne_nil_of_get hloaded hevents

/-- A run with a timeout of 30 seconds and one step. -/
def briefRun : Run :=
  { Run.sample .running [RunStep.sample .modelCall none] with
    timeoutSeconds := 30, events := [(Run.sample .running []).createdEvent] }

/-- It is loaded with a timeout of 90 seconds, a pending event, and a spent cost to which no cost can
be added. -/
theorem briefRun_not_roundTrips :
    briefRun.Valid ∧
      (∃ tables loaded, (Storing.create.method .asInt (.ok ()) briefRun).on {} = (.ok (), tables) ∧
        ((get .asInt briefRun.id).on tables).1 = .ok (some loaded) ∧
        loaded.timeoutSeconds = 90 ∧ loaded.events.length = 1 ∧
        (((RunOperation.recordCost ⟨5⟩).method 0).on loaded).1 =
          .error (.typeError "unsupported operand type(s) for +: 'int' and 'Money'")) ∧
      (((RunOperation.recordCost ⟨5⟩).method 0).on briefRun).1 = .ok () ∧
      ¬ RoundTrips .asInt (.ok ()) .create briefRun {} := by
  have hvalid : briefRun.Valid := ⟨by decide, by decide, by decide, by decide⟩
  have hok : ((Storing.create.method .asInt (.ok ()) briefRun).on {}).1 = .ok () := by decide
  obtain ⟨tables, hstored⟩ : ∃ tables,
      (Storing.create.method .asInt (.ok ()) briefRun).on {} = (.ok (), tables) := ⟨_, Prod.ext hok rfl⟩
  have hloaded : ((get .asInt briefRun.id).on tables).1 =
      .ok (some (reloaded .asInt 0 briefRun)) :=
    get_of_create hvalid rfl (by decide) (fun _ h => absurd h List.not_mem_nil) hstored
  refine ⟨hvalid, ⟨tables, _, hstored, hloaded, rfl, rfl, by decide⟩, by decide, ?_⟩
  rintro ⟨tables', loaded, hstored', hloaded', hfields, -⟩
  obtain rfl : tables = tables' := congrArg Prod.snd (hstored.symm.trans hstored')
  rw [hloaded, Except.ok.injEq, Option.some.injEq] at hloaded'
  subst hloaded'
  have htimeout : (90 : Int) = 30 := congrArg Run.timeoutSeconds hfields
  exact absurd htimeout (by decide)

end RunRepository

end AgentRuntime
