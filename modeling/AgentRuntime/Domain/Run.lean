import AgentRuntime.Domain.Money
import AgentRuntime.Domain.RunState
import AgentRuntime.Interaction.Method

/-!
# Runs and run steps

The `Run` aggregate and its steps (`app/domain/entities/run.py`, `app/domain/entities/base.py`),
with the domain events they emit (`app/domain/events`). A method is a `Method PyError Run`: it may
raise, and what it assigned before it raised stays assigned, as in `start`, which changes the state
before it computes the lease.

`spent_cost` is declared `Money`, but nothing checks the declaration, and the repository passes the
column's integer (`AgentRuntime.Db.RunRepository`); `SpentCost` keeps the two apart, because the
operators and attributes of an integer are not those of `Money`. A method that reads the clock is
given the times it reads.
-/

namespace AgentRuntime

open Interaction

/-- What the attribute `spent_cost` holds. -/
inductive SpentCost where
  | money (m : Money)
  | int (n : Int)
  deriving DecidableEq, Repr

namespace SpentCost

/-- `spent_cost.micro_units`. -/
def microUnits : SpentCost → Except PyError Int
  | money m => .ok m.microUnits
  | int _ => .error (.attributeError "'int' object has no attribute 'micro_units'")

/-- `spent_cost + cost`. -/
def add : SpentCost → Money → Except PyError Money
  | money m, cost => .ok (m + cost)
  | int _, _ => .error (.typeError "unsupported operand type(s) for +: 'int' and 'Money'")

end SpentCost

/-- The domain events that the entities and the services add to a run. -/
inductive DomainEvent where
  | runCreated (tenantId agentVersionId : UUID) (inputData : Dict) (idempotencyKey : String)
  | runStateChanged (tenantId agentVersionId : UUID) (oldState newState : RunState)
      (reason : Option String)
  | runStepCreated (runId : UUID) (sequence : Int) (kind : String) (inputData : Option Dict)
  | runCompleted (tenantId agentVersionId : UUID) (outputData : Dict) (totalCost : Int)
      (stepsCount : Nat)
  | runFailed (tenantId agentVersionId : UUID) (error : String) (failedStep : Option Int)
  | runCancelled (tenantId agentVersionId : UUID) (reason : Option String)
  | runTimedOut (tenantId agentVersionId : UUID) (lastState : RunState)
  | cancellationRequested (runId tenantId : UUID) (reason : Option String) (requestedAt : Time)
  | cancellationAcknowledged (runId tenantId : UUID) (workerId : String) (acknowledgedAt : Time)
  | cancellationCompleted (runId tenantId : UUID) (workerId : String) (completedAt : Time)
      (stepsCancelled : Nat) (cleanupPerformed : Bool)
  | costRecorded (runId tenantId : UUID) (costMicrounits totalSpentMicrounits : Int)
      (provider model : String)
  | budgetExceeded (runId tenantId : UUID)
      (maxCostMicrounits spentCostMicrounits additionalCostMicrounits : Int)
  | budgetWarning (runId tenantId : UUID) (maxCostMicrounits spentCostMicrounits : Int)
      (warningThresholdPercent : Rat)
  | stepLimitExceeded (runId tenantId : UUID) (maxSteps currentStep : Int)
  | timeoutExceeded (runId tenantId : UUID) (timeoutSeconds elapsedSeconds : Int)
  deriving Repr

/-! ## Steps -/

/-- Run step entity (part of the `Run` aggregate). `outputData` is declared a dictionary, and the
executor stores a text there. -/
structure RunStep where
  id : UUID
  createdAt : Time
  updatedAt : Time
  runId : UUID
  sequence : Int
  kind : RunStepKind
  state : RunState := .queued
  inputData : Option Dict := none
  outputData : Option Json := none
  error : Option String := none
  deriving Repr

namespace RunStep

/-- `RunStep.__post_init__`. -/
def postInit (self : RunStep) : Except PyError RunStep :=
  if self.sequence < 0 then
    .error (.valueError "Sequence must be non-negative")
  else
    .ok self

/-- A step is accepted if its sequence is not negative. -/
theorem postInit_eq_ok {self step : RunStep} :
    self.postInit = .ok step ↔ 0 ≤ self.sequence ∧ step = self := by
  unfold postInit
  split
  · simp; omega
  · simp [eq_comm]; omega

/-- Start the step. -/
def start (now : Time) : Method PyError RunStep Unit := do
  let self ← get
  if self.state ≠ .queued then
    throw (.valueError s!"Cannot start step in state {self.state.value}")
  modify fun self => { self with state := .running, updatedAt := now }

/-- Complete the step. -/
def complete (outputData : Json) (now : Time) : Method PyError RunStep Unit := do
  let self ← get
  if self.state ≠ .running then
    throw (.valueError s!"Cannot complete step in state {self.state.value}")
  modify fun self => { self with state := .succeeded, outputData := outputData, updatedAt := now }

/-- Fail the step. -/
def fail (error : String) (now : Time) : Method PyError RunStep Unit := do
  let self ← get
  if self.state ≠ .queued ∧ self.state ≠ .running then
    throw (.valueError s!"Cannot fail step in state {self.state.value}")
  modify fun self => { self with state := .failed, error := error, updatedAt := now }

end RunStep

/-! ## Runs -/

/-- Run aggregate root. `events` are the pending domain events, oldest first. -/
structure Run where
  id : UUID
  createdAt : Time
  updatedAt : Time
  tenantId : UUID
  agentVersionId : UUID
  state : RunState := .queued
  inputData : Dict := []
  outputData : Option Dict := none
  idempotencyKey : String
  attempt : Int := 0
  maxSteps : Int := 100
  maxCost : Money := ⟨10000000⟩
  spentCost : SpentCost := .money 0
  timeoutSeconds : Int := 90
  leaseOwner : Option String := none
  leaseExpiresAt : Option Time := none
  cancelRequestedAt : Option Time := none
  steps : List RunStep := []
  events : List DomainEvent := []
  deriving Repr

namespace Run

/-- The event that `__post_init__` adds. -/
def createdEvent (self : Run) : DomainEvent :=
  .runCreated self.tenantId self.agentVersionId self.inputData self.idempotencyKey

/-- `Run.__post_init__`: the checks of the constructor, and the event it emits. -/
def postInit (self : Run) : Except PyError Run :=
  if self.idempotencyKey = "" then
    .error (.valueError "Idempotency key cannot be empty")
  else if self.maxSteps ≤ 0 then
    .error (.valueError "Max steps must be positive")
  else if self.maxCost.microUnits = 0 then
    .error (.valueError "Max cost must be positive")
  else if self.attempt < 0 then
    .error (.valueError "Attempt cannot be negative")
  else
    .ok { self with events := self.events ++ [self.createdEvent] }

/-- The conditions that the constructor checks. -/
def Valid (self : Run) : Prop :=
  self.idempotencyKey ≠ "" ∧ 0 < self.maxSteps ∧ self.maxCost.microUnits ≠ 0 ∧ 0 ≤ self.attempt

/-- A run is accepted if it is valid, and then has the event of its creation. -/
theorem postInit_eq_ok {self run : Run} :
    self.postInit = .ok run ↔
      self.Valid ∧ run = { self with events := self.events ++ [self.createdEvent] } := by
  unfold postInit Valid
  split_ifs with hkey hsteps hcost hattempt
  · simp [hkey]
  · simp only [false_iff, not_and]
    omega
  · simp [hcost]
  · simp only [false_iff, not_and]
    omega
  · simp only [Except.ok.injEq, eq_comm (a := run)]
    exact ⟨fun h => ⟨⟨hkey, by omega, hcost, by omega⟩, h⟩, And.right⟩

/-- Update the `updated_at` timestamp. -/
def touch (now : Time) : Method PyError Run Unit :=
  modify fun self => { self with updatedAt := now }

/-- Add a domain event to be published. -/
def addEvent (event : DomainEvent) : Method PyError Run Unit :=
  modify fun self => { self with events := self.events ++ [event] }

/-- Internal state transition with validation (`_transition`). -/
def transition (newState : RunState) (reason : Option String) (now : Time) :
    Method PyError Run Unit := do
  let self ← get
  if self.state.isTerminal then
    throw (.valueError s!"Cannot transition from terminal state {self.state.value}")
  if self.state.canTransitionTo newState = false then
    throw (.valueError s!"Invalid transition from {self.state.value} to {newState.value}")
  let oldState := self.state
  modify fun self => { self with state := newState }
  touch now
  addEvent (.runStateChanged self.tenantId self.agentVersionId oldState newState reason)

/-- Start the run. The lease is computed after the transition, from two more readings of the clock:
`now.replace(second=now.second + lease_duration_seconds)`. -/
def start (leaseOwner : String) (leaseDurationSeconds : Int) (now leaseBase leaseSecond : Time) :
    Method PyError Run Unit := do
  transition .running none now
  modify fun self => { self with leaseOwner := leaseOwner }
  let leaseExpiresAt ← Method.ofExcept
    (leaseBase.replaceSecond (leaseSecond.second + leaseDurationSeconds))
  modify fun self => { self with leaseExpiresAt := leaseExpiresAt }

/-- Request approval (transition to AWAITING_APPROVAL). -/
def requestApproval (now : Time) : Method PyError Run Unit := transition .awaitingApproval none now

/-- Resume from approval (transition to RUNNING). -/
def resumeFromApproval (now : Time) : Method PyError Run Unit := transition .running none now

/-- Schedule retry (transition to RETRY_SCHEDULED). -/
def scheduleRetry (now : Time) : Method PyError Run Unit := do
  transition .retryScheduled none now
  modify fun self => { self with attempt := self.attempt + 1 }

/-- Requeue for retry (transition to QUEUED). -/
def requeue (now : Time) : Method PyError Run Unit := transition .queued none now

/-- Complete successfully (transition to SUCCEEDED). -/
def complete (outputData : Dict) (now : Time) : Method PyError Run Unit := do
  transition .succeeded none now
  modify fun self => { self with outputData := outputData }
  let self ← get
  let totalCost ← Method.ofExcept self.spentCost.microUnits
  addEvent (.runCompleted self.tenantId self.agentVersionId outputData totalCost self.steps.length)

/-- Fail the run (transition to FAILED). -/
def fail (error : String) (failedStep : Option Int) (now : Time) : Method PyError Run Unit := do
  transition .failed (some error) now
  let self ← get
  addEvent (.runFailed self.tenantId self.agentVersionId error failedStep)

/-- Cancel the run (transition to CANCELLED); idempotent for terminal states. -/
def cancel (reason : Option String) (now : Time) : Method PyError Run Unit := do
  let self ← get
  if self.state.isTerminal then
    return
  modify fun self => { self with cancelRequestedAt := now }
  transition .cancelled reason now
  addEvent (.runCancelled self.tenantId self.agentVersionId reason)

/-- Timeout the run (transition to TIMED_OUT); idempotent for terminal states. The event carries
the state after the transition. -/
def timeout (now : Time) : Method PyError Run Unit := do
  let self ← get
  if self.state.isTerminal then
    return
  transition .timedOut none now
  let self ← get
  addEvent (.runTimedOut self.tenantId self.agentVersionId self.state)

/-- Check if the current lease is still valid. -/
def isLeaseValid (self : Run) (now : Time) : Bool :=
  match self.leaseOwner, self.leaseExpiresAt with
  | some owner, some expiresAt => owner != "" && now < expiresAt
  | _, _ => false

/-- Renew the worker lease. -/
def renewLease (leaseOwner : String) (leaseDurationSeconds : Int)
    (leaseBase leaseSecond now : Time) : Method PyError Run Bool := do
  let self ← get
  if self.leaseOwner ≠ some leaseOwner then
    return false
  let leaseExpiresAt ← Method.ofExcept
    (leaseBase.replaceSecond (leaseSecond.second + leaseDurationSeconds))
  modify fun self => { self with leaseExpiresAt := leaseExpiresAt }
  touch now
  return true

/-- Add a step to the run; `stepId` and `now` are what the step's constructor draws. -/
def addStep (sequence : Int) (kind : RunStepKind) (inputData : Option Dict) (stepId : UUID)
    (now : Time) : Method PyError Run RunStep := do
  let self ← get
  if self.maxSteps ≤ self.steps.length then
    throw (.valueError "Max steps exceeded")
  else if self.steps.any fun s => s.sequence == sequence then
    throw (.valueError s!"Step sequence {sequence} already exists")
  else
    let step ← Method.ofExcept (RunStep.postInit
      { id := stepId, createdAt := now, updatedAt := now, runId := self.id, sequence, kind,
        state := .queued, inputData })
    modify fun self => { self with steps := self.steps ++ [step] }
    addEvent (.runStepCreated self.id sequence kind.value inputData)
    return step

/-- Get a step by sequence. -/
def getStep (self : Run) (sequence : Int) : Option RunStep :=
  self.steps.find? fun s => s.sequence == sequence

/-- Record cost against the run budget. -/
def recordCost (cost : Money) (now : Time) : Method PyError Run Unit := do
  let self ← get
  let newTotal ← Method.ofExcept (self.spentCost.add cost)
  if self.maxCost < newTotal then
    throw (.valueError "Run would exceed max cost")
  else
    modify fun self => { self with spentCost := .money newTotal }
    touch now

/-- Record token usage, at 10 micro-units for 1000 tokens. -/
def recordTokenUsage (usage : TokenUsage) (now : Time) : Method PyError Run Unit := do
  let costMicro := usage.totalTokens * 10 / 1000
  if 0 < costMicro then
    recordCost ⟨costMicro⟩ now

/-- Check if run can execute. -/
def canExecute (self : Run) : Bool :=
  match self.state with
  | .queued | .running | .retryScheduled => true
  | _ => false

/-- Call a method of the step at position `i`. -/
def stepMethod (i : Nat) (m : Method PyError RunStep Unit) : Method PyError Run Unit := do
  let self ← get
  match self.steps[i]? with
  | some step =>
    let (result, step) := m.on step
    set { self with steps := self.steps.set i step }
    Method.ofExcept result
  | none => return

end Run

end AgentRuntime
