import AgentRuntime.Domain.Run

/-!
# Operations on a run

`RunOperation` enumerates what the services and the workers do to a loaded run: the methods of the
aggregate, the methods of its steps, and the one attribute a service assigns directly. What an
operation may change is said per method, by `Method.Keeps`; an operation other than a cost recording
keeps the identity and the budget of the run (`RunOperation.keeps_sameBudget`), and no operation
turns an integer spent cost into money (`RunOperation.keeps_int`).
-/

namespace AgentRuntime

open Interaction

namespace Run

/-! ## Transitions -/

/-- A transition changes nothing, or it takes a valid edge of the state machine and adds an
event. -/
theorem transition_on (newState : RunState) (reason : Option String) (now : Time) (self : Run) :
    (transition newState reason now).on self =
      if self.state.isTerminal then
        (.error (.valueError s!"Cannot transition from terminal state {self.state.value}"), self)
      else if self.state.canTransitionTo newState = false then
        (.error (.valueError s!"Invalid transition from {self.state.value} to {newState.value}"),
          self)
      else
        (.ok (), { self with
          state := newState, updatedAt := now,
          events := self.events ++ [.runStateChanged self.tenantId self.agentVersionId self.state
            newState reason] }) := by
  by_cases hterminal : self.state.isTerminal = true
  · simp [transition, hterminal]
  · by_cases hvalid : self.state.canTransitionTo newState = false
    · simp [transition, hterminal, hvalid]
    · simp [transition, touch, addEvent, hterminal, hvalid]

/-- A valid edge is taken. -/
theorem transition_on_of_valid {newState : RunState} {reason : Option String} {now : Time}
    {self : Run} (h : self.state.canTransitionTo newState = true) :
    (transition newState reason now).on self = (.ok (), { self with
      state := newState, updatedAt := now,
      events := self.events ++ [.runStateChanged self.tenantId self.agentVersionId self.state
        newState reason] }) := by
  have hterminal : self.state.isTerminal = false := by
    by_contra hterminal
    rw [RunState.canTransitionTo_of_isTerminal (by simpa using hterminal)] at h
    cases h
  rw [transition_on]
  simp [hterminal, h]

/-- The owner of the lease renews it, if the second of the expiry time can be set. -/
theorem renewLease_on (leaseOwner : String) (leaseDurationSeconds : Int)
    (leaseBase leaseSecond now : Time) (self : Run) :
    (renewLease leaseOwner leaseDurationSeconds leaseBase leaseSecond now).on self =
      if self.leaseOwner ≠ some leaseOwner then
        (.ok false, self)
      else match leaseBase.replaceSecond (leaseSecond.second + leaseDurationSeconds) with
        | .ok leaseExpiresAt =>
          (.ok true, { self with leaseExpiresAt := leaseExpiresAt, updatedAt := now })
        | .error e => (.error e, self) := by
  by_cases howner : self.leaseOwner = some leaseOwner
  · rcases hlease : leaseBase.replaceSecond (leaseSecond.second + leaseDurationSeconds) with e | t
    · simp [renewLease, howner, hlease]
    · simp [renewLease, howner, hlease, touch, Except.map]
  · simp [renewLease, howner]

/-- A step is added unless there are enough, its number is taken, or its number is negative. -/
theorem addStep_on (sequence : Int) (kind : RunStepKind) (inputData : Option Dict) (stepId : UUID)
    (now : Time) (self : Run) :
    (addStep sequence kind inputData stepId now).on self =
      if self.maxSteps ≤ self.steps.length then
        (.error (.valueError "Max steps exceeded"), self)
      else if ∃ step ∈ self.steps, step.sequence = sequence then
        (.error (.valueError s!"Step sequence {sequence} already exists"), self)
      else if sequence < 0 then
        (.error (.valueError "Sequence must be non-negative"), self)
      else
        let step : RunStep :=
          { id := stepId, createdAt := now, updatedAt := now, runId := self.id, sequence, kind,
            state := .queued, inputData }
        (.ok step, { self with
          steps := self.steps ++ [step],
          events := self.events ++ [.runStepCreated self.id sequence kind.value inputData] }) := by
  by_cases hmax : self.maxSteps ≤ self.steps.length
  · simp [addStep, hmax]
  · rw [if_neg hmax]
    by_cases htaken : ∃ step ∈ self.steps, step.sequence = sequence
    · have hany : (self.steps.any fun s => s.sequence == sequence) = true := by simpa using htaken
      rw [if_pos htaken]
      simp only [addStep, Method.on_bind, Method.on_get, hmax, if_false, hany, if_true,
        Method.on_throw]
    · have hany : (self.steps.any fun s => s.sequence == sequence) = false := by simpa using htaken
      rw [if_neg htaken]
      by_cases hsequence : sequence < 0
      · simp only [addStep, Method.on_bind, Method.on_get, hmax, if_false, hany,
          Bool.false_eq_true, RunStep.postInit, hsequence, if_true, Method.on_ofExcept]
      · simp only [addStep, Method.on_bind, Method.on_get, hmax, if_false, hany,
          Bool.false_eq_true, RunStep.postInit, hsequence, Method.on_ofExcept, Method.on_modify,
          addEvent, Method.on_pure]

/-- A step's method, called through its run. -/
theorem stepMethod_on (i : Nat) (m : Method PyError RunStep Unit) (self : Run) :
    (stepMethod i m).on self = match self.steps[i]? with
      | some step => ((m.on step).1, { self with steps := self.steps.set i (m.on step).2 })
      | none => (.ok (), self) := by
  rcases hstep : self.steps[i]? with _ | step
  · simp [stepMethod, hstep]
  · simp only [stepMethod, Method.on_bind, Method.on_get, hstep]
    rcases m.on step with ⟨result, step'⟩
    simp

/-! ## What a method keeps -/

section
variable {I : Run → Prop}

/-- A transition keeps what neither a new state, a new time nor a new event can break. -/
theorem keeps_transition {newState : RunState} (reason : Option String) (now : Time)
    (h : ∀ (self : Run) events, I self →
      I { self with state := newState, updatedAt := now, events := events }) :
    (transition newState reason now).Keeps I := by
  intro self hself
  rw [transition_on]
  split
  · exact hself
  · split
    · exact hself
    · exact h self _ hself

/-- An event changes nothing that does not look at the events. -/
theorem keeps_addEvent (event : DomainEvent)
    (h : ∀ (self : Run) events, I self → I { self with events := events }) :
    (addEvent event).Keeps I := by
  simpa [addEvent] using fun self hself => h self _ hself

/-- A method of a step changes nothing that does not look at the steps. -/
theorem keeps_stepMethod (i : Nat) (m : Method PyError RunStep Unit)
    (h : ∀ (self : Run) step, I self → I { self with steps := self.steps.set i step }) :
    (stepMethod i m).Keeps I := by
  intro self hself
  rw [stepMethod_on]
  split
  · exact h self _ hself
  · exact hself

/-- A renewal keeps what neither a new expiry of the lease nor a new time can break. -/
theorem keeps_renewLease (leaseOwner : String) (leaseDurationSeconds : Int)
    (leaseBase leaseSecond now : Time)
    (hlease : ∀ (self : Run) leaseExpiresAt, I self → I { self with leaseExpiresAt })
    (htouch : ∀ (self : Run) updatedAt, I self → I { self with updatedAt }) :
    (renewLease leaseOwner leaseDurationSeconds leaseBase leaseSecond now).Keeps I := by
  refine Method.keeps_get_bind fun _ _ => ?_
  refine Method.keeps_ite (fun _ => Method.keeps_pure _) fun _ => ?_
  refine Method.keeps_bind (Method.keeps_ofExcept _) fun leaseExpiresAt => ?_
  refine Method.keeps_bind (fun self hself => hlease self _ hself) fun _ => ?_
  exact Method.keeps_bind (fun self hself => htouch self _ hself) fun _ => Method.keeps_pure _

/-- A new step keeps what neither the steps nor its event can break. -/
theorem keeps_addStep (sequence : Int) (kind : RunStepKind) (inputData : Option Dict) (stepId : UUID)
    (now : Time) (hsteps : ∀ (self : Run) steps, I self → I { self with steps })
    (hevent : ∀ runId, (addEvent (.runStepCreated runId sequence kind.value inputData)).Keeps I) :
    (addStep sequence kind inputData stepId now).Keeps I := by
  refine Method.keeps_get_bind fun _ _ => ?_
  refine Method.keeps_ite (fun _ => Method.keeps_throw _) fun _ => ?_
  refine Method.keeps_ite (fun _ => Method.keeps_throw _) fun _ => ?_
  refine Method.keeps_bind (Method.keeps_ofExcept _) fun _ => ?_
  refine Method.keeps_bind (fun self hself => hsteps self _ hself) fun _ => ?_
  exact Method.keeps_bind (hevent _) fun _ => Method.keeps_pure _

end

/-- `run'` is `run` but for what does not concern the budget; it may have been attempted more
often. -/
structure SameBudget (run run' : Run) : Prop where
  id : run'.id = run.id
  maxCost : run'.maxCost = run.maxCost
  spentCost : run'.spentCost = run.spentCost
  attempt : run.attempt ≤ run'.attempt

namespace SameBudget

/-- Runs that agree in these fields have one budget. -/
theorem of_eq {run run' : Run} (hid : run'.id = run.id) (hmax : run'.maxCost = run.maxCost)
    (hspent : run'.spentCost = run.spentCost) (hattempt : run'.attempt = run.attempt) :
    run.SameBudget run' :=
  ⟨hid, hmax, hspent, Int.le_of_eq hattempt.symm⟩

/-- A run has its own budget. -/
theorem refl (run : Run) : run.SameBudget run := .of_eq rfl rfl rfl rfl

/-- A budget that is kept twice is kept. -/
theorem trans {run run' run'' : Run} (h : run.SameBudget run') (h' : run'.SameBudget run'') :
    run.SameBudget run'' :=
  ⟨h'.id.trans h.id, h'.maxCost.trans h.maxCost, h'.spentCost.trans h.spentCost,
    Int.le_trans h.attempt h'.attempt⟩

end SameBudget

end Run

/-! ## Operations -/

/-- One operation on a loaded run. -/
inductive RunOperation where
  | start (leaseOwner : String) (leaseDurationSeconds : Int) (leaseBase leaseSecond : Time)
  | requestApproval
  | resumeFromApproval
  | scheduleRetry
  | requeue
  | complete (outputData : Dict)
  | fail (error : String) (failedStep : Option Int)
  | cancel (reason : Option String)
  | timeout
  | renewLease (leaseOwner : String) (leaseDurationSeconds : Int) (leaseBase leaseSecond : Time)
  | addStep (sequence : Int) (kind : RunStepKind) (inputData : Option Dict) (stepId : UUID)
  | startStep (i : Nat)
  | completeStep (i : Nat) (outputData : Json)
  | failStep (i : Nat) (error : String)
  | recordCost (cost : Money)
  | recordTokenUsage (usage : TokenUsage)
  | addEvent (event : DomainEvent)
  /-- `run.cancel_requested_at = datetime.now(UTC)`. -/
  | setCancelRequestedAt

namespace RunOperation

/-- The operation, at the time `now`. -/
def method (now : Time) : RunOperation → Method PyError Run Unit
  | start leaseOwner leaseDurationSeconds leaseBase leaseSecond =>
    Run.start leaseOwner leaseDurationSeconds now leaseBase leaseSecond
  | requestApproval => Run.requestApproval now
  | resumeFromApproval => Run.resumeFromApproval now
  | scheduleRetry => Run.scheduleRetry now
  | requeue => Run.requeue now
  | complete outputData => Run.complete outputData now
  | fail error failedStep => Run.fail error failedStep now
  | cancel reason => Run.cancel reason now
  | timeout => Run.timeout now
  | renewLease leaseOwner leaseDurationSeconds leaseBase leaseSecond => do
    let _ ← Run.renewLease leaseOwner leaseDurationSeconds leaseBase leaseSecond now
  | addStep sequence kind inputData stepId => do
    let _ ← Run.addStep sequence kind inputData stepId now
  | startStep i => Run.stepMethod i (RunStep.start now)
  | completeStep i outputData => Run.stepMethod i (RunStep.complete outputData now)
  | failStep i error => Run.stepMethod i (RunStep.fail error now)
  | recordCost cost => Run.recordCost cost now
  | recordTokenUsage usage => Run.recordTokenUsage usage now
  | addEvent event => Run.addEvent event
  | setCancelRequestedAt => modify fun run => { run with cancelRequestedAt := some now }

/-- The state that a state transition leads to. -/
def target : RunOperation → Option RunState
  | start _ _ _ _ => some .running
  | requestApproval => some .awaitingApproval
  | resumeFromApproval => some .running
  | scheduleRetry => some .retryScheduled
  | requeue => some .queued
  | complete _ => some .succeeded
  | fail _ _ => some .failed
  | cancel _ => some .cancelled
  | timeout => some .timedOut
  | _ => none

/-- The operation records a cost. -/
def recordsCost : RunOperation → Bool
  | recordCost _ | recordTokenUsage _ => true
  | _ => false

/-- On a run whose spent cost is an integer, recording a cost raises and changes nothing. -/
theorem recordCost_on_int {self : Run} {n : Int} (h : self.spentCost = .int n) (cost : Money)
    (now : Time) : (Run.recordCost cost now).on self =
      (.error (.typeError "unsupported operand type(s) for +: 'int' and 'Money'"), self) := by
  simp [Run.recordCost, h, SpentCost.add]

/-- On a run whose spent cost is money, a cost is recorded unless it exceeds the budget. -/
theorem recordCost_on_money {self : Run} {m : Money} (h : self.spentCost = .money m) (cost : Money)
    (now : Time) : (Run.recordCost cost now).on self =
      if self.maxCost < m + cost then
        (.error (.valueError "Run would exceed max cost"), self)
      else
        (.ok (), { self with spentCost := .money (m + cost), updatedAt := now }) := by
  by_cases hmax : self.maxCost.microUnits < m.microUnits + cost.microUnits
  · simp [Run.recordCost, h, SpentCost.add, hmax]
  · simp [Run.recordCost, h, SpentCost.add, hmax, Run.touch]

/-- A transition, even one that raises, keeps what does not depend on what it assigns. -/
theorem keeps_of_target {op : RunOperation} {newState : RunState}
    (htarget : op.target = some newState) (now : Time) {I : Run → Prop}
    (h : ∀ (self : Run) state updatedAt events leaseOwner leaseExpiresAt attempt outputData
      cancelRequestedAt, self.attempt ≤ attempt → I self → I { self with
        state, updatedAt, events, leaseOwner, leaseExpiresAt, attempt, outputData,
        cancelRequestedAt }) :
    (op.method now).Keeps I := by
  have htransition (newState : RunState) (reason : Option String) :
      (Run.transition newState reason now).Keeps I :=
    Run.keeps_transition reason now fun self events hself =>
      h self _ _ events _ _ _ _ _ (Int.le_refl _) hself
  have haddEvent (event : DomainEvent) : (Run.addEvent event).Keeps I :=
    Run.keeps_addEvent event fun self events hself =>
      h self _ _ events _ _ _ _ _ (Int.le_refl _) hself
  cases op <;> cases htarget
  case start leaseOwner _ _ _ =>
    refine Method.keeps_bind (htransition _ _) fun _ => ?_
    refine Method.keeps_bind (fun self hself => ?_) fun _ => ?_
    · exact h self _ _ _ leaseOwner _ _ _ _ (Int.le_refl _) hself
    · refine Method.keeps_bind (Method.keeps_ofExcept _) fun leaseExpiresAt self hself => ?_
      exact h self _ _ _ _ leaseExpiresAt _ _ _ (Int.le_refl _) hself
  case scheduleRetry =>
    refine Method.keeps_bind (htransition _ _) fun _ self hself => ?_
    have hattempt : self.attempt ≤ self.attempt + 1 := by omega
    exact h self _ _ _ _ _ _ _ _ hattempt hself
  case complete outputData =>
    refine Method.keeps_bind (htransition _ _) fun _ => ?_
    refine Method.keeps_bind (fun self hself => ?_) fun _ => ?_
    · exact h self _ _ _ _ _ _ outputData _ (Int.le_refl _) hself
    · exact Method.keeps_get_bind fun _ _ =>
        Method.keeps_bind (Method.keeps_ofExcept _) fun _ => haddEvent _
  case fail =>
    exact Method.keeps_bind (htransition _ _) fun _ => Method.keeps_get_bind fun _ _ => haddEvent _
  case cancel =>
    refine Method.keeps_get_bind fun _ _ => ?_
    refine Method.keeps_ite (fun _ => Method.keeps_pure _) fun _ => ?_
    refine Method.keeps_bind (fun self hself => ?_) fun _ => ?_
    · exact h self _ _ _ _ _ _ _ (some now) (Int.le_refl _) hself
    · exact Method.keeps_bind (htransition _ _) fun _ => haddEvent _
  case timeout =>
    refine Method.keeps_get_bind fun _ _ => ?_
    refine Method.keeps_ite (fun _ => Method.keeps_pure _) fun _ => ?_
    exact Method.keeps_bind (htransition _ _) fun _ => Method.keeps_get_bind fun _ _ => haddEvent _
  all_goals exact htransition _ _

/-- An operation that records no cost keeps the identity and the budget of the run. -/
theorem keeps_sameBudget {op : RunOperation} (h : op.recordsCost = false) (now : Time) (run : Run) :
    (op.method now).Keeps run.SameBudget := by
  cases htarget : op.target with
  | some newState =>
    refine keeps_of_target htarget now fun self _ _ _ _ _ _ _ _ hattempt hsame => ?_
    exact hsame.trans ⟨rfl, rfl, rfl, hattempt⟩
  | none =>
    have haddEvent (event : DomainEvent) : (Run.addEvent event).Keeps run.SameBudget :=
      Run.keeps_addEvent event fun _ _ hsame => hsame.trans (.of_eq rfl rfl rfl rfl)
    have hstepMethod (i : Nat) (m : Method PyError RunStep Unit) :
        (Run.stepMethod i m).Keeps run.SameBudget :=
      Run.keeps_stepMethod i m fun _ _ hsame => hsame.trans (.of_eq rfl rfl rfl rfl)
    have hassign (f : Run → Run) (hf : ∀ s : Run, s.SameBudget (f s)) :
        (modify f : Method PyError Run PUnit).Keeps run.SameBudget :=
      fun s hsame => hsame.trans (hf s)
    cases op with
    | renewLease leaseOwner leaseDurationSeconds leaseBase leaseSecond =>
      refine Method.keeps_bind (Run.keeps_renewLease _ _ _ _ _ ?_ ?_) fun _ => Method.keeps_pure _
      · exact fun _ _ hsame => hsame.trans (.of_eq rfl rfl rfl rfl)
      · exact fun _ _ hsame => hsame.trans (.of_eq rfl rfl rfl rfl)
    | addStep sequence kind inputData stepId =>
      refine Method.keeps_bind (Run.keeps_addStep _ _ _ _ _ ?_ ?_) fun _ => Method.keeps_pure _
      · exact fun _ _ hsame => hsame.trans (.of_eq rfl rfl rfl rfl)
      · exact fun _ => haddEvent _
    | startStep i => exact hstepMethod i _
    | completeStep i => exact hstepMethod i _
    | failStep i => exact hstepMethod i _
    | recordCost => cases h
    | recordTokenUsage => cases h
    | addEvent event => exact haddEvent event
    | setCancelRequestedAt => exact hassign _ fun _ => .of_eq rfl rfl rfl rfl
    | _ => cases htarget

/-- No operation turns an integer spent cost into money. -/
theorem keeps_int (op : RunOperation) (now : Time) :
    (op.method now).Keeps fun run => ∃ n, run.spentCost = .int n := by
  have hrecord (cost : Money) : (Run.recordCost cost now).Keeps fun run => ∃ n, run.spentCost = .int n :=
    fun run ⟨n, hn⟩ => by rw [recordCost_on_int hn]; exact ⟨n, hn⟩
  cases hop : op.recordsCost with
  | false =>
    rintro run ⟨n, hn⟩
    exact ⟨n, (keeps_sameBudget hop now run run (.refl run)).spentCost.symm ▸ hn⟩
  | true =>
    cases op with
    | recordCost cost => exact hrecord cost
    | recordTokenUsage usage =>
      exact Method.keeps_ite (fun _ => hrecord _) fun _ => Method.keeps_pure _
    | _ => cases hop

end RunOperation

end AgentRuntime
