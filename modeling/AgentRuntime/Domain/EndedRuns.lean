import AgentRuntime.Domain.RunLog

/-!
# Ended runs

Only a state transition asks whether the run has ended. The other methods change an ended run as they
change any other: `record_apply_iff` says which calls leave its record alone, and `ended_run_frozen_iff`
that a run stays as it ended exactly while all its calls are of this kind.
-/

namespace AgentRuntime

open Interaction

/-- What of a run is to stay as it is once the run has ended. -/
structure RunRecord where
  state : RunState
  steps : List RunStep
  spentCost : SpentCost
  attempt : Int
  outputData : Option Dict
  leaseOwner : Option String
  leaseExpiresAt : Option Time

namespace Run

/-- The record of a run. -/
def record (self : Run) : RunRecord :=
  { state := self.state, steps := self.steps, spentCost := self.spentCost, attempt := self.attempt,
    outputData := self.outputData, leaseOwner := self.leaseOwner,
    leaseExpiresAt := self.leaseExpiresAt }

/-- The run refuses the cost, or the cost is nothing. -/
def KeepsSpent (self : Run) (cost : Money) : Prop :=
  ∀ spent, self.spentCost = .money spent → self.maxCost < spent + cost ∨ cost.microUnits = 0

/-- The step at position `i`, if there is one, is not in one of the states. -/
def StepNotIn (self : Run) (i : Nat) (states : List RunState) : Prop :=
  ∀ step, self.steps[i]? = some step → step.state ∉ states

/-- The call is refused, or there is nothing that it would change in the record of an ended run. -/
def KeepsRecord (self : Run) (call : RunCall) : Prop :=
  match call.op with
  | .renewLease leaseOwner leaseDurationSeconds leaseBase leaseSecond =>
    self.leaseOwner = some leaseOwner → ∀ leaseExpiresAt,
      leaseBase.replaceSecond (leaseSecond.second + leaseDurationSeconds) = .ok leaseExpiresAt →
        self.leaseExpiresAt = some leaseExpiresAt
  | .addStep sequence _ _ _ =>
    self.maxSteps ≤ self.steps.length ∨ (∃ step ∈ self.steps, step.sequence = sequence) ∨ sequence < 0
  | .startStep i => self.StepNotIn i [.queued]
  | .completeStep i _ => self.StepNotIn i [.running]
  | .failStep i _ => self.StepNotIn i [.queued, .running]
  | .recordCost cost => self.KeepsSpent cost
  | .recordTokenUsage usage => self.KeepsSpent ⟨usage.totalTokens * 10 / 1000⟩
  | _ => True

/-! ## Steps -/

/-- A step's method keeps the record of its run exactly if it keeps the step. -/
theorem record_stepMethod_iff (i : Nat) (m : Method PyError RunStep Unit) (self : Run) :
    ((stepMethod i m).on self).2.record = self.record ↔
      ∀ step, self.steps[i]? = some step → (m.on step).2 = step := by
  rw [stepMethod_on]
  cases hstep : self.steps[i]? with
  | none => simp
  | some step =>
    have hi : i < self.steps.length := (List.getElem?_eq_some_iff.1 hstep).1
    simp only [Option.some.injEq, forall_eq']
    constructor
    · intro h
      have hset : self.steps.set i (m.on step).2 = self.steps := congrArg RunRecord.steps h
      have hget := List.getElem?_set_self hi (a := (m.on step).2)
      rw [hset, hstep] at hget
      exact (Option.some.inj hget).symm
    · intro h
      have hset : self.steps.set i step = self.steps := by
        rw [← (List.getElem?_eq_some_iff.1 hstep).2, List.set_getElem_self]
      rw [h]
      simp only [record, hset]

end Run

namespace RunStep

/-- A step is changed by what it accepts. -/
theorem start_keeps_iff (now : Time) (self : RunStep) :
    ((start now).on self).2 = self ↔ self.state ∉ [.queued] := by
  by_cases h : self.state = .queued
  · have hstate : ((start now).on self).2.state = .running := by simp [start, h]
    simp only [h, List.mem_singleton, not_true_eq_false, iff_false]
    intro hsame
    rw [hsame, h] at hstate
    cases hstate
  · simp [start, h]

/-- Completing a step changes it exactly if it is running. -/
theorem complete_keeps_iff (outputData : Json) (now : Time) (self : RunStep) :
    ((complete outputData now).on self).2 = self ↔ self.state ∉ [.running] := by
  by_cases h : self.state = .running
  · have hstate : ((complete outputData now).on self).2.state = .succeeded := by simp [complete, h]
    simp only [h, List.mem_singleton, not_true_eq_false, iff_false]
    intro hsame
    rw [hsame, h] at hstate
    cases hstate
  · simp [complete, h]

/-- Failing a step changes it exactly if it is queued or running. -/
theorem fail_keeps_iff (error : String) (now : Time) (self : RunStep) :
    ((fail error now).on self).2 = self ↔ self.state ∉ [.queued, .running] := by
  by_cases h : self.state ∈ [RunState.queued, .running]
  · have hstate : ((fail error now).on self).2.state = .failed := by
      rcases (by simpa using h : self.state = .queued ∨ self.state = .running) with h | h <;>
        simp [fail, h]
    simp only [h, not_true_eq_false, iff_false]
    intro hsame
    rw [← hsame, hstate] at h
    exact absurd h (by decide)
  · have hne : self.state ≠ .queued ∧ self.state ≠ .running := by simpa using h
    simp [fail, hne]

end RunStep

namespace Run

/-! ## Calls -/

/-- Recording a cost keeps the record exactly if the cost is refused, or nothing. -/
theorem record_recordCost_iff (cost : Money) (now : Time) (self : Run) :
    ((recordCost cost now).on self).2.record = self.record ↔ self.KeepsSpent cost := by
  cases hspent : self.spentCost with
  | int n =>
    rw [RunOperation.recordCost_on_int hspent]
    simp [KeepsSpent, hspent]
  | money spent =>
    rw [RunOperation.recordCost_on_money hspent]
    split
    · next hmax =>
      refine iff_of_true rfl fun m hm => ?_
      rw [hspent, SpentCost.money.injEq] at hm
      exact .inl (hm ▸ hmax)
    · next hmax =>
      constructor
      · intro h
        have hsum : SpentCost.money (spent + cost) = self.spentCost := congrArg RunRecord.spentCost h
        rw [hspent, SpentCost.money.injEq] at hsum
        have hmicro : spent.microUnits + cost.microUnits = spent.microUnits :=
          congrArg Money.microUnits hsum
        intro _ _
        exact .inr (by omega)
      · intro h
        obtain hrefused | hzero := h spent hspent
        · exact absurd hrefused hmax
        · have hsum : spent + cost = spent := congrArg Money.mk (by rw [hzero]; rfl)
          simp only [record, hsum, hspent]

/-- A call keeps the record of an ended run exactly if it is refused or finds nothing to change. -/
theorem record_apply_iff {self : Run} (hended : self.state.isTerminal = true) (call : RunCall) :
    (call.apply self).record = self.record ↔ self.KeepsRecord call := by
  obtain ⟨op, now⟩ := call
  have htransition {newState : RunState} (htarget : op.target = some newState) :
      (RunCall.apply ⟨op, now⟩ self).record = self.record := by
    obtain ⟨_, hon⟩ := unchanged_of_not_valid htarget
      (RunState.canTransitionTo_of_isTerminal hended) now
    rw [show RunCall.apply ⟨op, now⟩ self = self from RunCall.apply_eq hon]
  cases op
  case renewLease leaseOwner leaseDurationSeconds leaseBase leaseSecond =>
    have hon := renewLease_on leaseOwner leaseDurationSeconds leaseBase leaseSecond now self
    simp only [RunCall.apply, RunCall.method, RunOperation.method, Method.on_bind, hon, KeepsRecord]
    by_cases howner : self.leaseOwner = some leaseOwner
    · rcases hlease : leaseBase.replaceSecond (leaseSecond.second + leaseDurationSeconds) with e | t
      · simp [howner]
      · simp only [howner, ne_eq, not_true_eq_false, if_false, Method.on_pure, forall_const,
          Except.ok.injEq, forall_eq']
        constructor
        · exact fun h => (congrArg RunRecord.leaseExpiresAt h).symm
        · intro h
          simp only [record, h, howner]
    · simp [howner]
  case addStep sequence kind inputData stepId =>
    have hon := addStep_on sequence kind inputData stepId now self
    simp only [RunCall.apply, RunCall.method, RunOperation.method, Method.on_bind, hon, KeepsRecord]
    split_ifs with hmax htaken hsequence
    · simp [hmax]
    · simp [htaken]
    · simp [hsequence]
    · simp only [Method.on_pure, hmax, htaken, hsequence, or_self, iff_false]
      intro h
      have hlength := congrArg (fun r => r.steps.length) h
      simp [record] at hlength
  case startStep i =>
    exact (record_stepMethod_iff i _ self).trans
      (forall₂_congr fun step _ => RunStep.start_keeps_iff now step)
  case completeStep i outputData =>
    exact (record_stepMethod_iff i _ self).trans
      (forall₂_congr fun step _ => RunStep.complete_keeps_iff outputData now step)
  case failStep i error =>
    exact (record_stepMethod_iff i _ self).trans
      (forall₂_congr fun step _ => RunStep.fail_keeps_iff error now step)
  case recordCost cost => exact record_recordCost_iff cost now self
  case recordTokenUsage usage =>
    by_cases hcost : 0 < usage.totalTokens * 10 / 1000
    · simp only [RunCall.apply, RunCall.method, RunOperation.method, recordTokenUsage, hcost, if_true]
      exact record_recordCost_iff _ now self
    · simp only [RunCall.apply, RunCall.method, RunOperation.method, recordTokenUsage, hcost, if_false,
        Method.on_pure, true_iff]
      exact fun spent _ => .inr (Nat.eq_zero_of_not_pos hcost)
  case addEvent event => exact ⟨fun _ => trivial, fun _ => rfl⟩
  case setCancelRequestedAt => exact ⟨fun _ => trivial, fun _ => rfl⟩
  all_goals exact ⟨fun _ => trivial, fun _ => htransition rfl⟩

/-- The record of the run is the same at any two moments. -/
abbrev Frozen (run : Run) (calls : List RunCall) : Prop :=
  Between RunCall.apply (fun run run' => run'.record = run.record) run calls

/-- An ended run stays as it ended exactly while every call is refused or finds nothing to change. The state
machine refuses transitions; steps, costs and leases do not look at the state. -/
theorem ended_run_frozen_iff {run : Run} (hended : run.state.isTerminal = true)
    (calls : List RunCall) : Frozen run calls ↔ Along RunCall.apply KeepsRecord run calls := by
  refine (along_iff_between (R := fun run run' : Run => run'.record = run.record) (fun _ => rfl)
    fun h h' => h'.trans h).trans ?_
  refine along_iff (I := fun run => run.state.isTerminal = true) hended
    (fun run call _ h => record_apply_iff h call) fun run call _ h hsame => ?_
  rw [show (call.apply run).state = run.state from congrArg RunRecord.state hsame]
  exact h

/-- A step is added to a run that has succeeded, and the run takes it. -/
theorem not_ended_run_frozen : ¬∀ (run : Run) (calls : List RunCall),
    run.state.isTerminal = true → Frozen run calls := by
  intro h
  let run : Run :=
    { id := ⟨1⟩, createdAt := 0, updatedAt := 0, tenantId := ⟨3⟩, agentVersionId := ⟨4⟩,
      idempotencyKey := "key", state := .succeeded }
  let call : RunCall := ⟨.addStep 0 .toolCall none ⟨9⟩, 1⟩
  have hrecord := h run [call] rfl [] [call] (List.prefix_refl _)
  have hlength := congrArg (fun r => r.steps.length) hrecord
  exact absurd hlength (by decide)

/-- A run that has succeeded, and is completed and cancelled again. -/
theorem ended_run_frozen_iff_sample :
    let run : Run :=
      { id := ⟨1⟩, createdAt := 0, updatedAt := 0, tenantId := ⟨3⟩, agentVersionId := ⟨4⟩,
        idempotencyKey := "key", state := .succeeded }
    let calls : List RunCall := [⟨.complete [], 5⟩, ⟨.cancel none, 7⟩]
    run.state.isTerminal = true ∧ (Frozen run calls ↔ Along RunCall.apply KeepsRecord run calls) :=
  ⟨rfl, ended_run_frozen_iff rfl _⟩

end Run

end AgentRuntime
