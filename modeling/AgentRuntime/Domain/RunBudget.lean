import AgentRuntime.Domain.RunLog
import Mathlib.Data.List.Nodup

/-!
# Budget and steps of a run

Over any sequence of added steps, recorded costs and state transitions, the spent cost is what it was
plus the accepted costs and stays within the budget, and the steps stay within their bound with
distinct numbers (`Budgeted`). A call that raises changes neither these nor the events, but for one
case: a start whose lease cannot be computed raises after it has logged the transition
(`budgetLaw_iff`).
-/

namespace AgentRuntime

open Interaction

namespace RunOperation

/-- The cost that the operation records. -/
def cost : RunOperation → Nat
  | recordCost cost => cost.microUnits
  | recordTokenUsage usage => usage.totalTokens * 10 / 1000
  | _ => 0

/-- The operation is about the budget or the steps. -/
def isBudget : RunOperation → Bool
  | addStep _ _ _ _ | recordCost _ | recordTokenUsage _ => true
  | _ => false

end RunOperation

namespace Run

/-- The cost that a call adds to the spent cost: none, if it raises. -/
def acceptedCost (self : Run) (call : RunCall) : Nat :=
  match (call.method.on self).1 with
  | .ok _ => call.op.cost
  | .error _ => 0

/-- The sum of the accepted costs. -/
def acceptedCosts : Run → List RunCall → Nat
  | _, [] => 0
  | self, call :: calls => self.acceptedCost call + acceptedCosts (call.apply self) calls

/-- The spent cost is `spent`, within the budget, and the steps have distinct numbers, within their
bound. -/
structure Budgeted (spent : Nat) (run : Run) : Prop where
  spentCost : run.spentCost = .money ⟨spent⟩
  spent_le : Money.mk spent ≤ run.maxCost
  steps_le : run.steps.length ≤ run.maxSteps
  nonneg : ∀ step ∈ run.steps, 0 ≤ step.sequence
  nodup : (run.steps.map RunStep.sequence).Nodup

/-- `get_step` finds exactly the step with the number. -/
theorem Budgeted.getStep_eq_some_iff {spent : Nat} {self : Run} (h : self.Budgeted spent) (n : Int)
    (step : RunStep) : self.getStep n = some step ↔ step ∈ self.steps ∧ step.sequence = n := by
  have hunique : ∀ a ∈ self.steps, ∀ b ∈ self.steps, (a.sequence == n) = true →
      (b.sequence == n) = true → a = b := by
    intro a ha b hb han hbn
    exact List.inj_on_of_nodup_map h.nodup ha hb ((eq_of_beq han).trans (eq_of_beq hbn).symm)
  rw [getStep, find?_eq_some_iff_of_unique hunique, beq_iff_eq]

/-! ## One call -/

/-- A cost is added to the spent cost, or refused. -/
theorem Budgeted.recordCost {spent : Nat} {self : Run} (h : self.Budgeted spent) (cost : Money)
    (now : Time) :
    (∃ e, (Run.recordCost cost now).on self = (.error e, self)) ∨
    ∃ self', (Run.recordCost cost now).on self = (.ok (), self') ∧
      self'.Budgeted (spent + cost.microUnits) := by
  rw [RunOperation.recordCost_on_money h.spentCost]
  split
  · exact .inl ⟨_, rfl⟩
  · next hmax =>
    refine .inr ⟨_, rfl, rfl, ?_, h.steps_le, h.nonneg, h.nodup⟩
    exact Nat.le_of_not_lt hmax

/-- A step is added to the steps, or refused. -/
theorem Budgeted.addStep {spent : Nat} {self : Run} (h : self.Budgeted spent) (sequence : Int)
    (kind : RunStepKind) (inputData : Option Dict) (stepId : UUID) (now : Time) :
    (∃ e, (Run.addStep sequence kind inputData stepId now).on self = (.error e, self)) ∨
    ∃ step self', (Run.addStep sequence kind inputData stepId now).on self = (.ok step, self') ∧
      self'.Budgeted spent := by
  rw [addStep_on]
  split_ifs with hmax htaken hsequence
  · exact .inl ⟨_, rfl⟩
  · exact .inl ⟨_, rfl⟩
  · exact .inl ⟨_, rfl⟩
  · refine .inr ⟨_, _, rfl, h.spentCost, h.spent_le, ?_, ?_, ?_⟩
    · simp only [List.length_append, List.length_singleton]
      omega
    · intro step hstep
      rcases List.mem_append.1 hstep with hstep | hstep
      · exact h.nonneg step hstep
      · rw [List.mem_singleton.1 hstep]
        exact Int.not_lt.1 hsequence
    · rw [List.map_append, List.nodup_append]
      refine ⟨h.nodup, List.nodup_singleton _, ?_⟩
      rintro n hn m hm rfl
      obtain ⟨step, hstep, rfl⟩ := List.mem_map.1 hn
      exact htaken ⟨step, hstep, List.mem_singleton.1 hm⟩

/-- What a call about the budget or the steps can do: it is refused and changes nothing, or the run
stays within its bounds with the cost added. -/
theorem Budgeted.call_cases {spent : Nat} {self : Run} (h : self.Budgeted spent) {call : RunCall}
    (hcall : call.op.isBudget = true) :
    (∃ e, call.method.on self = (.error e, self)) ∨
    ∃ self', call.method.on self = (.ok (), self') ∧ self'.Budgeted (spent + call.op.cost) := by
  obtain ⟨op, now⟩ := call
  cases op <;> try cases hcall
  case addStep sequence kind inputData stepId =>
    obtain ⟨e, hon⟩ | ⟨step, self', hon, hself'⟩ := h.addStep sequence kind inputData stepId now
    · exact .inl ⟨e, by simp [RunCall.method, RunOperation.method, hon, Except.map]⟩
    · exact .inr ⟨self', by simp [RunCall.method, RunOperation.method, hon, Except.map], hself'⟩
  case recordCost cost => exact h.recordCost cost now
  case recordTokenUsage usage =>
    by_cases hcost : 0 < usage.totalTokens * 10 / 1000
    · simp only [RunCall.method, RunOperation.method, recordTokenUsage, hcost, if_true]
      exact h.recordCost _ now
    · refine .inr ⟨self, by simp [RunCall.method, RunOperation.method, recordTokenUsage, hcost], ?_⟩
      rw [RunOperation.cost, Nat.eq_zero_of_not_pos hcost]
      exact h

/-- The calls of the sequences below: about the budget, about the steps, or a state transition. -/
abbrev IsBudgetOrTransition (call : RunCall) : Prop :=
  call.op.isBudget = true ∨ call.op.target.isSome = true

/-- A call keeps the run within its bounds, and adds the accepted cost to the spent one. -/
theorem Budgeted.apply {spent : Nat} {self : Run} (h : self.Budgeted spent) {call : RunCall}
    (hcall : IsBudgetOrTransition call) :
    (call.apply self).Budgeted (spent + self.acceptedCost call) := by
  rcases hcall with hbudget | htarget
  · obtain ⟨e, hon⟩ | ⟨self', hon, hself'⟩ := h.call_cases hbudget
    · rw [RunCall.apply_eq hon, acceptedCost, hon]
      exact h
    · rw [RunCall.apply_eq hon, acceptedCost, hon]
      exact hself'
  · obtain ⟨newState, htarget⟩ := Option.isSome_iff_exists.1 htarget
    have hcost : self.acceptedCost call = 0 := by
      have hzero : call.op.cost = 0 := by
        cases hop : call.op <;> rw [hop] at htarget <;> first | rfl | cases htarget
      unfold acceptedCost
      split
      · exact hzero
      · rfl
    rw [hcost]
    refine RunOperation.keeps_of_target htarget call.now (I := Budgeted spent) ?_ self h
    intro self _ _ _ _ _ _ _ _ _ hself
    exact ⟨hself.spentCost, hself.spent_le, hself.steps_le, hself.nonneg, hself.nodup⟩

/-! ## Calls that raise -/

/-- If the call raises, then it keeps the spent cost, the steps and the events. -/
def KeepsOnRaise (self : Run) (call : RunCall) : Prop :=
  call.Raises self → (call.apply self).spentCost = self.spentCost ∧
    (call.apply self).steps = self.steps ∧ (call.apply self).events = self.events

/-- If the call starts the run, and the run can be started, then the lease can be computed. -/
def StartsWithLease (self : Run) (call : RunCall) : Prop :=
  self.state.canTransitionTo .running = true → call.op.leaseComputed = true

/-- A start whose lease cannot be computed raises after the transition. -/
theorem start_on_of_no_lease {self : Run} (h : self.state.canTransitionTo .running = true)
    {leaseDurationSeconds : Int} {leaseSecond : Time}
    (hlease : ¬(0 ≤ leaseSecond.second + leaseDurationSeconds ∧
      leaseSecond.second + leaseDurationSeconds ≤ 59))
    (leaseOwner : String) (now leaseBase : Time) :
    (start leaseOwner leaseDurationSeconds now leaseBase leaseSecond).on self =
      (.error (.valueError "second must be in 0..59"), { self with
        state := .running, updatedAt := now, leaseOwner := leaseOwner,
        events := self.events ++ [self.changedEvent .running none] }) := by
  have hreplace : leaseBase.replaceSecond (leaseSecond.second + leaseDurationSeconds) =
    .error (.valueError "second must be in 0..59") := if_neg hlease
  simp only [start, Method.on_bind, transition_on_of_valid h, Method.on_modify, hreplace,
    Method.on_ofExcept]
  rfl

/-- A call that raises keeps budget, steps and events exactly if it is no start of a run that can be
started with a lease that cannot be computed. -/
theorem keepsOnRaise_iff {spent : Nat} {self : Run} (h : self.Budgeted spent) {call : RunCall}
    (hcall : IsBudgetOrTransition call) : self.KeepsOnRaise call ↔ self.StartsWithLease call := by
  have hunchanged {result : Except PyError Unit} (hon : call.method.on self = (result, self)) :
      self.KeepsOnRaise call := by
    intro _
    rw [RunCall.apply_eq hon]
    exact ⟨rfl, rfl, rfl⟩
  rcases hcall with hbudget | hsome
  · have hlease : call.op.leaseComputed = true := by
      cases hop : call.op <;> rw [hop] at hbudget <;> first | rfl | cases hbudget
    refine iff_of_true ?_ fun _ => hlease
    obtain ⟨e, hon⟩ | ⟨self', hon, -⟩ := h.call_cases hbudget
    · exact hunchanged hon
    · exact fun hraises => absurd hraises (RunCall.not_raises hon)
  · obtain ⟨newState, htarget⟩ := Option.isSome_iff_exists.1 hsome
    cases hlease : call.op.leaseComputed with
    | true =>
      refine iff_of_true ?_ fun _ => hlease
      obtain ⟨-, run', logged, hon, -⟩ | ⟨-, result, hon⟩ :=
        transition_cases h.spentCost hlease htarget call.now
      · exact fun hraises => absurd hraises (RunCall.not_raises hon)
      · exact hunchanged hon
    | false =>
      obtain ⟨op, now⟩ := call
      cases op <;> try cases hlease
      case start leaseOwner leaseDurationSeconds leaseBase leaseSecond =>
        cases hvalid : self.state.canTransitionTo .running with
        | true =>
          have hon := start_on_of_no_lease hvalid (of_decide_eq_false hlease) leaseOwner now leaseBase
          refine iff_of_false (fun hkeeps => ?_) fun hstarts => Bool.false_ne_true (hlease.symm.trans
            (hstarts hvalid))
          have hevents := (hkeeps ⟨_, congrArg Prod.fst hon⟩).2.2
          have happly : RunCall.apply ⟨.start leaseOwner leaseDurationSeconds leaseBase leaseSecond, now⟩
            self = _ := RunCall.apply_eq hon
          rw [happly] at hevents
          simp at hevents
        | false =>
          refine iff_of_true ?_ fun hvalid' => absurd (hvalid.symm.trans hvalid') Bool.false_ne_true
          have hrefused : self.state.canTransitionTo newState = false := by
            cases htarget
            exact hvalid
          obtain ⟨result, hon⟩ := unchanged_of_not_valid htarget hrefused now
          exact hunchanged hon

/-! ## Sequences of calls -/

/-- Budget and steps over a sequence of calls, from `run₀` with the spent cost `spent₀`. -/
structure BudgetLaw (run₀ : Run) (spent₀ : Nat) (calls : List RunCall) : Prop where
  states : ∀ calls₁, calls₁ <+: calls →
    (after RunCall.apply run₀ calls₁).Budgeted (spent₀ + run₀.acceptedCosts calls₁)
  getStep : ∀ calls₁, calls₁ <+: calls → ∀ n step,
    (after RunCall.apply run₀ calls₁).getStep n = some step ↔
      step ∈ (after RunCall.apply run₀ calls₁).steps ∧ step.sequence = n
  raises : Along RunCall.apply KeepsOnRaise run₀ calls

/-- The run stays within its bounds, and the accepted costs add up. -/
theorem Budgeted.after {spent : Nat} {run : Run} (h : run.Budgeted spent) {calls : List RunCall}
    (hcalls : ∀ call ∈ calls, IsBudgetOrTransition call) :
    (after RunCall.apply run calls).Budgeted (spent + run.acceptedCosts calls) := by
  induction calls generalizing spent run with
  | nil => exact h
  | cons call calls ih =>
    have hcall := h.apply (hcalls call List.mem_cons_self)
    rw [acceptedCosts, ← Nat.add_assoc]
    exact ih hcall fun call' hcall' => hcalls call' (List.mem_cons_of_mem _ hcall')

/-- A new run keeps to its budget and steps, and its calls that raise change nothing of these,
exactly while every start of the run that is due computes its lease. -/
theorem budgetLaw_iff {run₀ : Run} (hrun₀ : run₀.Valid) {spent₀ : Nat}
    (hspent : run₀.spentCost = .money ⟨spent₀⟩) (hle : Money.mk spent₀ ≤ run₀.maxCost)
    (hsteps : run₀.steps = []) {calls : List RunCall}
    (hcalls : ∀ call ∈ calls, IsBudgetOrTransition call) :
    BudgetLaw run₀ spent₀ calls ↔ Along RunCall.apply StartsWithLease run₀ calls := by
  have hstart : run₀.Budgeted spent₀ := by
    refine ⟨hspent, hle, ?_, ?_, ?_⟩ <;> rw [hsteps]
    · exact Int.le_of_lt hrun₀.2.1
    · intro _ hstep
      cases hstep
    · exact List.nodup_nil
  have hstates (calls₁ : List RunCall) (hinitial : calls₁ <+: calls) :=
    hstart.after fun call hcall => hcalls call (hinitial.subset hcall)
  have hraises : Along RunCall.apply KeepsOnRaise run₀ calls ↔
      Along RunCall.apply StartsWithLease run₀ calls :=
    along_iff (I := fun run => ∃ spent, run.Budgeted spent) ⟨spent₀, hstart⟩
      (fun run call hcall ⟨_, h⟩ => keepsOnRaise_iff h (hcalls call hcall))
      fun run call hcall ⟨_, h⟩ _ => ⟨_, h.apply (hcalls call hcall)⟩
  constructor
  · exact fun h => hraises.1 h.raises
  · intro h
    exact ⟨hstates, fun calls₁ hinitial => (hstates calls₁ hinitial).getStep_eq_some_iff, hraises.2 h⟩

/-- A start with the default lease of 300 seconds raises in `replace(second=...)`, and leaves a run that is
running with an event. -/
theorem not_budgetLaw : ¬∀ (run₀ : Run) (spent₀ : Nat) (calls : List RunCall), run₀.Valid →
    run₀.spentCost = .money ⟨spent₀⟩ → Money.mk spent₀ ≤ run₀.maxCost → run₀.steps = [] →
    (∀ call ∈ calls, IsBudgetOrTransition call) → BudgetLaw run₀ spent₀ calls := by
  intro h
  let run₀ : Run :=
    { id := ⟨1⟩, createdAt := 0, updatedAt := 0, tenantId := ⟨3⟩, agentVersionId := ⟨4⟩,
      idempotencyKey := "key" }
  let call : RunCall := ⟨.start "w" 300 0 0, 1⟩
  have hlaw := h run₀ 0 [call] ⟨by decide, by decide, by decide, by decide⟩ rfl (Nat.zero_le _) rfl
    (by decide)
  have hevents := (hlaw.raises.1 ⟨_, rfl⟩).2.2
  exact absurd (congrArg List.length hevents) (by decide)

/-- A new run with two steps of one number, costs within and over the budget, and a start. -/
theorem budgetLaw_iff_sample :
    let run₀ : Run :=
      { id := ⟨1⟩, createdAt := 0, updatedAt := 0, tenantId := ⟨3⟩, agentVersionId := ⟨4⟩,
        idempotencyKey := "key", maxCost := ⟨50⟩ }
    let calls : List RunCall := [⟨.addStep 0 .toolCall none ⟨9⟩, 1⟩, ⟨.addStep 0 .loop none ⟨8⟩, 2⟩,
      ⟨.recordCost ⟨40⟩, 3⟩, ⟨.recordCost ⟨11⟩, 4⟩, ⟨.start "w" 30 0 0, 5⟩]
    (run₀.Valid ∧ run₀.spentCost = .money ⟨0⟩ ∧ Money.mk 0 ≤ run₀.maxCost ∧ run₀.steps = [] ∧
      ∀ call ∈ calls, IsBudgetOrTransition call) ∧
    (BudgetLaw run₀ 0 calls ↔ Along RunCall.apply StartsWithLease run₀ calls) := by
  intro run₀ calls
  have hrun₀ : run₀.Valid := ⟨by decide, by decide, by decide, by decide⟩
  have hcalls : ∀ call ∈ calls, IsBudgetOrTransition call := by decide
  exact ⟨⟨hrun₀, rfl, Nat.zero_le _, rfl, hcalls⟩,
    budgetLaw_iff hrun₀ rfl (Nat.zero_le _) rfl hcalls⟩

end Run

end AgentRuntime
