import AgentRuntime.Db.Rows
import AgentRuntime.Domain.RunOperation
import AgentRuntime.Domain.Policy
import Mathlib.Data.List.Sort

/-!
# The run repository

`SQLRunRepository` (`app/infrastructure/db/repositories/run.py`) over the tables `runs` and
`run_steps`, with the unique constraints of the schema. A method is a `Method` on the tables; the
assignments of `update` reach the database with the flush that ends it, so a method that raises
before its flush leaves the tables alone. The steps of a run that was not loaded with them are decoded all the
same: `lazyLoad` is what the access to them does.

The decoder of a row passes the integer column as `spent_cost`. A result that also covers a
repository that reads the column as `Money`, or is about such a repository, takes the reading as a
parameter (`SpentCostReading`).
-/

namespace AgentRuntime

open Interaction

/-- A row of `runs`. -/
structure RunRow where
  id : UUID
  tenantId : UUID
  agentVersionId : UUID
  state : RunState
  inputData : Dict
  outputData : Option Dict
  idempotencyKey : String
  attempt : Int
  maxSteps : Int
  maxCostMicrounits : Int
  spentCostMicrounits : Int
  leaseOwner : Option String
  leaseExpiresAt : Option Time
  cancelRequestedAt : Option Time
  createdAt : Time
  updatedAt : Time
  deriving Repr

/-- The two tables. A row of `run_steps` has the columns of a `RunStep`, and stands for one. -/
structure RunTables where
  runs : List RunRow := []
  steps : List RunStep := []
  deriving Repr

namespace RunTables

/-- The row with this primary key. -/
def find (self : RunTables) (runId : UUID) : Option RunRow :=
  self.runs.find? fun row => row.id = runId

/-- The rows of the steps of a run, by sequence. -/
def stepsOf (self : RunTables) (runId : UUID) : List RunStep :=
  (self.steps.filter fun step => step.runId = runId).insertionSort fun a b => a.sequence ≤ b.sequence

/-- The row with the key of `row` is overwritten by it. -/
def put (self : RunTables) (row : RunRow) : RunTables :=
  { self with runs := self.runs.map fun old => if old.id = row.id then row else old }

/-- Overwriting a run leaves its steps. -/
@[simp] theorem stepsOf_put (self : RunTables) (row : RunRow) (runId : UUID) :
    (self.put row).stepsOf runId = self.stepsOf runId := rfl

/-- A row is found under its own key. -/
theorem id_of_find {self : RunTables} {runId : UUID} {row : RunRow}
    (h : self.find runId = some row) : row.id = runId := by
  simpa using List.find?_some h

/-- A row that is there is found as it was last put. -/
theorem find_put_of_find {self : RunTables} {runId : UUID} {row old : RunRow}
    (h : self.find runId = some old) (hid : row.id = runId) :
    (self.put row).find runId = some row :=
  Rows.find_put_of_find (show Rows.find RunRow.id self.runs runId = some old from h) hid

/-- Overwriting a row leaves the rows with other keys alone. -/
theorem find_put_of_ne {self : RunTables} {row : RunRow} {runId : UUID} (h : row.id ≠ runId) :
    (self.put row).find runId = self.find runId :=
  show Rows.find RunRow.id (Rows.put RunRow.id self.runs row) runId = _ from Rows.find_put_of_ne h

end RunTables

/-- How the decoder of a row reads the column of the spent cost: the repository writes
`spent_cost=model.spent_cost_microunits`, which passes the integer on (`asInt`); `asMoney` is
`Money(model.spent_cost_microunits)`. -/
inductive SpentCostReading where
  | asInt
  | asMoney
  deriving DecidableEq, Repr

/-- What becomes of the column. -/
def SpentCostReading.decode : SpentCostReading → Int → Except PyError SpentCost
  | asInt, n => .ok (.int n)
  | asMoney, n => (Money.ofInt n).map .money

/-- What a stored amount is read as. -/
def SpentCostReading.ofMoney : SpentCostReading → Money → SpentCost
  | asInt, m => .int m.microUnits
  | asMoney, m => .money m

/-- An amount that was stored is read, as an integer or as money. -/
theorem SpentCostReading.decode_microUnits (reading : SpentCostReading) (m : Money) :
    reading.decode m.microUnits = .ok (reading.ofMoney m) := by
  cases reading with
  | asInt => rfl
  | asMoney =>
    have hm : Money.ofInt m.microUnits = .ok m := Money.ofInt_eq_ok.2 rfl
    rw [decode, hm]
    rfl

namespace RunRepository

/-- `_to_entity`: the constructor gets the columns it is given here and its defaults for the rest,
and emits its event. -/
def toEntity (reading : SpentCostReading) (row : RunRow) (steps : List RunStep) :
    Except PyError Run := do
  let spentCost ← reading.decode row.spentCostMicrounits
  let run ← Run.postInit
    { id := row.id, tenantId := row.tenantId, agentVersionId := row.agentVersionId,
      state := row.state, inputData := row.inputData, outputData := row.outputData,
      idempotencyKey := row.idempotencyKey, attempt := row.attempt, maxSteps := row.maxSteps,
      spentCost, createdAt := row.createdAt, updatedAt := row.updatedAt }
  let maxCost ← Money.ofInt row.maxCostMicrounits
  let steps ← steps.mapM RunStep.postInit
  return { run with
    maxCost, leaseOwner := PolicyEvaluator.given row.leaseOwner,
    leaseExpiresAt := row.leaseExpiresAt, cancelRequestedAt := row.cancelRequestedAt, steps }

/-- `_to_model`. -/
def toModel (entity : Run) : Except PyError RunRow := do
  let spentCostMicrounits ← entity.spentCost.microUnits
  return {
    id := entity.id, tenantId := entity.tenantId, agentVersionId := entity.agentVersionId,
    state := entity.state, inputData := entity.inputData, outputData := entity.outputData,
    idempotencyKey := entity.idempotencyKey, attempt := entity.attempt,
    maxSteps := entity.maxSteps, maxCostMicrounits := entity.maxCost.microUnits,
    spentCostMicrounits, leaseOwner := entity.leaseOwner,
    leaseExpiresAt := entity.leaseExpiresAt, cancelRequestedAt := entity.cancelRequestedAt,
    createdAt := entity.createdAt, updatedAt := entity.updatedAt }

variable (reading : SpentCostReading) (lazyLoad : Except PyError Unit)

/-- Insert the row of a new run. -/
def create (run : Run) : Method PyError RunTables Run := do
  let model ← Method.ofExcept (toModel run)
  let tables ← get
  if tables.runs.any fun row => row.id = model.id ∨
      row.tenantId = model.tenantId ∧ row.idempotencyKey = model.idempotencyKey then
    throw (.external "IntegrityError")
  else
    modify fun tables => { tables with runs := tables.runs ++ [model] }
    Method.ofExcept lazyLoad
    let tables ← get
    Method.ofExcept (toEntity reading model (tables.stepsOf model.id))

/-- Load a run with its steps. -/
def get (runId : UUID) : Method PyError RunTables (Option Run) := do
  let tables ← MonadState.get
  match tables.find runId with
  | none => return none
  | some model => some <$> Method.ofExcept (toEntity reading model (tables.stepsOf runId))

/-- Load the run of a tenant by its idempotency key. -/
def getByIdempotencyKey (tenantId : UUID) (key : String) : Method PyError RunTables (Option Run) := do
  let tables ← MonadState.get
  match tables.runs.find? fun row => row.tenantId = tenantId ∧ row.idempotencyKey = key with
  | none => return none
  | some model => some <$> Method.ofExcept (toEntity reading model (tables.stepsOf model.id))

/-- The row after the assignments of `update`. -/
def assigned (model : RunRow) (run : Run) (spentCostMicrounits : Int) : RunRow :=
  { model with
    state := run.state, outputData := run.outputData, attempt := run.attempt,
    spentCostMicrounits, leaseOwner := run.leaseOwner, leaseExpiresAt := run.leaseExpiresAt,
    cancelRequestedAt := run.cancelRequestedAt, updatedAt := run.updatedAt }

/-- Overwrite the mutable columns of the row of a run. -/
def update (run : Run) : Method PyError RunTables Run := do
  let tables ← MonadState.get
  match tables.find run.id with
  | none => throw (.valueError s!"Run {run.id.str} not found")
  | some model =>
    let spentCostMicrounits ← Method.ofExcept run.spentCost.microUnits
    let model := assigned model run spentCostMicrounits
    modify fun tables => tables.put model
    Method.ofExcept lazyLoad
    let tables ← MonadState.get
    Method.ofExcept (toEntity reading model (tables.stepsOf run.id))

/-- Insert the row of a new step. -/
def addStep (step : RunStep) : Method PyError RunTables RunStep := do
  let tables ← MonadState.get
  if tables.steps.any fun row => row.id = step.id ∨
      row.runId = step.runId ∧ row.sequence = step.sequence then
    throw (.external "IntegrityError")
  else
    modify fun tables => { tables with steps := tables.steps ++ [step] }
    return step

/-! ## What the methods do -/

/-- Steps can be constructed again exactly when their sequences are not negative, and are the same
then. -/
theorem mapM_postInit_eq_ok {steps steps' : List RunStep} :
    steps.mapM RunStep.postInit = .ok steps' ↔
      (∀ step ∈ steps, 0 ≤ step.sequence) ∧ steps' = steps := by
  induction steps generalizing steps' with
  | nil => simp [pure, Except.pure, eq_comm]
  | cons step steps ih =>
    simp only [List.mapM_cons, bind_eq_ok, RunStep.postInit_eq_ok, ih, List.forall_mem_cons]
    constructor
    · rintro ⟨_, ⟨hstep, rfl⟩, _, ⟨hsteps, rfl⟩, h⟩
      cases h
      exact ⟨⟨hstep, hsteps⟩, rfl⟩
    · rintro ⟨⟨hstep, hsteps⟩, rfl⟩
      exact ⟨step, ⟨hstep, rfl⟩, steps, ⟨hsteps, rfl⟩, rfl⟩

/-- The run that a row and its steps are decoded to. -/
def decoded (row : RunRow) (steps : List RunStep) (spentCost : SpentCost) (maxCost : Money) : Run :=
  { id := row.id, tenantId := row.tenantId, agentVersionId := row.agentVersionId,
    state := row.state, inputData := row.inputData, outputData := row.outputData,
    idempotencyKey := row.idempotencyKey, attempt := row.attempt, maxSteps := row.maxSteps,
    maxCost, spentCost, createdAt := row.createdAt, updatedAt := row.updatedAt,
    leaseOwner := PolicyEvaluator.given row.leaseOwner, leaseExpiresAt := row.leaseExpiresAt,
    cancelRequestedAt := row.cancelRequestedAt, steps,
    events := [.runCreated row.tenantId row.agentVersionId row.inputData row.idempotencyKey] }

/-- When a row is decoded, and to what. -/
theorem toEntity_eq_ok {reading : SpentCostReading} {row : RunRow} {steps : List RunStep}
    {run : Run} :
    toEntity reading row steps = .ok run ↔
      ∃ spentCost maxCost, reading.decode row.spentCostMicrounits = .ok spentCost ∧
        Money.ofInt row.maxCostMicrounits = .ok maxCost ∧
        (row.idempotencyKey ≠ "" ∧ 0 < row.maxSteps ∧ 0 ≤ row.attempt) ∧
        (∀ step ∈ steps, 0 ≤ step.sequence) ∧ run = decoded row steps spentCost maxCost := by
  simp only [toEntity, bind_eq_ok, Run.postInit_eq_ok, mapM_postInit_eq_ok, Run.Valid]
  constructor
  · rintro ⟨spentCost, hspent, _, ⟨⟨hkey, hsteps, -, hattempt⟩, rfl⟩, maxCost, hmax, _,
      ⟨hsequence, rfl⟩, h⟩
    cases h
    exact ⟨spentCost, maxCost, hspent, hmax, ⟨hkey, hsteps, hattempt⟩, hsequence, rfl⟩
  · rintro ⟨spentCost, maxCost, hspent, hmax, ⟨hkey, hsteps, hattempt⟩, hsequence, rfl⟩
    exact ⟨spentCost, hspent, _, ⟨⟨hkey, hsteps, by decide, hattempt⟩, rfl⟩, maxCost, hmax, steps,
      ⟨hsequence, rfl⟩, rfl⟩

variable {reading} {lazyLoad}

/-- Loading a run changes nothing. -/
@[simp] theorem get_on_state (runId : UUID) (tables : RunTables) :
    ((get reading runId).on tables).2 = tables := by
  rw [get, Method.on_bind, Method.on_get]
  cases h : tables.find runId with
  | none => simp [h]
  | some model => simp [h]

/-- A run that is loaded is decoded from its row. -/
theorem get_on_eq_some {runId : UUID} {tables : RunTables} {run : Run} :
    ((get reading runId).on tables).1 = .ok (some run) ↔ ∃ row, tables.find runId = some row ∧
      toEntity reading row (tables.stepsOf runId) = .ok run := by
  rw [get, Method.on_bind, Method.on_get]
  cases h : tables.find runId with
  | none => simp [h]
  | some model => cases htoEntity : toEntity reading model (tables.stepsOf runId) <;>
      simp [h, htoEntity, Except.map]

/-- A run that has a row is found, or cannot be decoded. -/
theorem get_on_ne_none {runId : UUID} {tables : RunTables} {row : RunRow}
    (hrow : tables.find runId = some row) : ((get reading runId).on tables).1 ≠ .ok none := by
  rw [get, Method.on_bind, Method.on_get]
  cases htoEntity : toEntity reading row (tables.stepsOf runId) <;>
    simp [hrow, htoEntity, Except.map]

/-- A stored run whose spent cost is `Money` overwrites the mutable columns of its row. -/
theorem update_on_of_money {run : Run} {tables : RunTables} {row : RunRow} {m : Money}
    (hrow : tables.find run.id = some row) (hspent : run.spentCost = .money m) :
    (update reading lazyLoad run).on tables =
      (lazyLoad >>= fun _ => toEntity reading (assigned row run m.microUnits) (tables.stepsOf run.id),
        tables.put (assigned row run m.microUnits)) := by
  have hcost : run.spentCost.microUnits = .ok (m.microUnits : Int) := by
    rw [hspent]
    rfl
  simp only [update, Method.on_bind, Method.on_get, hrow, Method.on_ofExcept, hcost, Method.on_modify]
  cases lazyLoad with
  | error e => rfl
  | ok _ => rfl

/-- What `update` can do: raise and change nothing, or overwrite the mutable columns of the row,
which takes a spent cost that is `Money`. -/
theorem update_on_cases (reading : SpentCostReading) (lazyLoad : Except PyError Unit) (run : Run)
    (tables : RunTables) :
    (∃ e, (update reading lazyLoad run).on tables = (.error e, tables)) ∨
    (∃ row m, tables.find run.id = some row ∧ run.spentCost = .money m ∧
      (update reading lazyLoad run).on tables =
        (lazyLoad >>= fun _ => toEntity reading (assigned row run m.microUnits) (tables.stepsOf run.id),
          tables.put (assigned row run m.microUnits))) := by
  cases h : tables.find run.id with
  | none => exact .inl ⟨.valueError s!"Run {run.id.str} not found", by simp [update, h]⟩
  | some row =>
    cases hspent : run.spentCost with
    | int n =>
      refine .inl ⟨.attributeError "'int' object has no attribute 'micro_units'", ?_⟩
      simp [update, h, hspent, SpentCost.microUnits]
    | money m => exact .inr ⟨row, m, rfl, rfl, update_on_of_money h hspent⟩

/-- A row that can be loaded can be loaded after an update by a run with a valid attempt. The update returns
what is loaded then, if it can load the steps. -/
theorem get_on_of_update {run stored : Run} {tables : RunTables} {row : RunRow} {m : Money}
    (hrow : tables.find run.id = some row) (hspent : run.spentCost = .money m)
    (hattempt : 0 ≤ run.attempt) (hloads : ((get reading run.id).on tables).1 = .ok (some stored)) :
    ∃ updated, ((update reading lazyLoad run).on tables).1 = lazyLoad.map (fun _ => updated) ∧
      ((get reading run.id).on ((update reading lazyLoad run).on tables).2).1 = .ok (some updated) ∧
      updated.cancelRequestedAt = run.cancelRequestedAt := by
  obtain ⟨old, hold, htoEntity⟩ := get_on_eq_some.1 hloads
  obtain rfl : row = old := Option.some.inj (hrow.symm.trans hold)
  obtain ⟨-, maxCost, -, hmax, ⟨hkey, hsteps, -⟩, hsequence, -⟩ := toEntity_eq_ok.1 htoEntity
  have hid : row.id = run.id := RunTables.id_of_find hrow
  have hfind : (tables.put (assigned row run m.microUnits)).find run.id =
      some (assigned row run m.microUnits) := RunTables.find_put_of_find hrow hid
  have hentity : toEntity reading (assigned row run m.microUnits) (tables.stepsOf run.id) =
      .ok (decoded (assigned row run m.microUnits) (tables.stepsOf run.id) (reading.ofMoney m)
        maxCost) :=
    toEntity_eq_ok.2 ⟨_, maxCost, reading.decode_microUnits m, hmax, ⟨hkey, hsteps, hattempt⟩, hsequence, rfl⟩
  rw [update_on_of_money hrow hspent]
  refine ⟨decoded (assigned row run m.microUnits) (tables.stepsOf run.id) (reading.ofMoney m) maxCost, ?_,
    get_on_eq_some.2 ⟨_, hfind, hentity⟩, rfl⟩
  rw [hentity]
  cases lazyLoad with
  | error e => rfl
  | ok _ => rfl

end RunRepository

end AgentRuntime
