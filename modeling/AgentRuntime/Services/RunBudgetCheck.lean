import AgentRuntime.Services.TenantBudget

/-!
# Checks against the budget of a run

`BudgetService.check_run_budget` (`app/application/services/budget_service.py`) predicts, without recording
anything, what `record_cost`, `add_step` and the time limit say about a run. The prediction is exact for a run
that has not spent more than its budget (`checkRunBudget_exact`).
-/

namespace AgentRuntime

open Interaction Service

/-- `max_cost - spent_cost`. -/
def SpentCost.subFrom (maxCost : Money) : SpentCost → Except PyError Money
  | .money m => maxCost.sub m
  | .int _ => .error (.typeError "unsupported operand type(s) for -: 'Money' and 'int'")

namespace Run

/-- `(datetime.now(UTC) - run.created_at).total_seconds()`. -/
def elapsedSeconds (self : Run) (now : Time) : Rat := ((now : Int) - (self.createdAt : Int) : Int) / 1000000

end Run

namespace BudgetService

/-- `(spent / max) * 100`. -/
def usagePercent (spentMicrounits maxMicrounits : Int) : Except PyError Rat :=
  if maxMicrounits = 0 then
    .error (.external "ZeroDivisionError")
  else
    .ok (spentMicrounits / maxMicrounits * 100)

/-- The check of the timeout, after those of the cost and the steps. -/
def checkTimeout (newTotal : Money) : Service Run BudgetCheckResult := do
  let run ← get
  let now ← now
  let elapsedSeconds := run.elapsedSeconds now
  if run.timeoutSeconds < elapsedSeconds then
    Proc.method (Run.addEvent
      (.timeoutExceeded run.id run.tenantId run.timeoutSeconds (truncate elapsedSeconds)))
    return { allowed := false, reason := "Run would exceed timeout limit" }
  else
    let remainingBudget ← Proc.ofExcept (run.maxCost.sub newTotal)
    return { allowed := true, remainingBudget,
             remainingSteps := (run.maxSteps - run.steps.length).toNat,
             remainingSeconds := run.timeoutSeconds - elapsedSeconds }

/-- The check of the steps, after that of the cost. -/
def checkStepLimit (newTotal : Money) : Service Run BudgetCheckResult := do
  let run ← get
  if run.maxSteps ≤ run.steps.length then
    Proc.method (Run.addEvent
      (.stepLimitExceeded run.id run.tenantId run.maxSteps run.steps.length))
    return { allowed := false, reason := "Run would exceed maximum step limit" }
  else
    checkTimeout newTotal

/-- The warning, when the usage has reached the threshold. -/
def warn (warningThresholdPercent : Rat) : Service Run Unit := do
  let run ← get
  let spent ← Proc.ofExcept run.spentCost.microUnits
  let usage ← Proc.ofExcept (usagePercent spent run.maxCost.microUnits)
  if warningThresholdPercent ≤ usage then
    Proc.method (Run.addEvent
      (.budgetWarning run.id run.tenantId run.maxCost.microUnits spent warningThresholdPercent))

/-- The checks of a loaded run. -/
def checkLoadedRun (warningThresholdPercent : Rat) (additionalCost : Money) :
    Service Run BudgetCheckResult := do
  let run ← get
  let newTotal ← Proc.ofExcept (run.spentCost.add additionalCost)
  if run.maxCost < newTotal then
    let spent ← Proc.ofExcept run.spentCost.microUnits
    Proc.method (Run.addEvent (.budgetExceeded run.id run.tenantId run.maxCost.microUnits spent
      additionalCost.microUnits))
    let remainingBudget ← Proc.ofExcept (run.spentCost.subFrom run.maxCost)
    return { allowed := false, reason := "Run would exceed maximum cost limit", remainingBudget }
  else
    warn warningThresholdPercent
    checkStepLimit newTotal

/-- Check if a run can proceed based on its budget constraints. -/
def checkRunBudget {σ : Type} (warningThresholdPercent : Rat) (runId : UUID) (additionalCost : Money) :
    Service σ BudgetCheckResult := do
  match ← runGet runId with
  | none => return { allowed := false, reason := "Run not found" }
  | some run => Proc.withObject run (checkLoadedRun warningThresholdPercent additionalCost)

/-! ## What the check returns -/

/-- The result of the check of a run that has spent an amount of money. -/
def runBudgetResult (run : Run) (spent additionalCost : Money) (now : Time) : BudgetCheckResult :=
  if run.maxCost < spent + additionalCost then
    { allowed := false, reason := "Run would exceed maximum cost limit",
      remainingBudget := ⟨run.maxCost.microUnits - spent.microUnits⟩ }
  else if run.maxSteps ≤ run.steps.length then
    { allowed := false, reason := "Run would exceed maximum step limit" }
  else if run.timeoutSeconds < run.elapsedSeconds now then
    { allowed := false, reason := "Run would exceed timeout limit" }
  else
    { allowed := true,
      remainingBudget := ⟨run.maxCost.microUnits - (spent + additionalCost).microUnits⟩,
      remainingSteps := (run.maxSteps - run.steps.length).toNat,
      remainingSeconds := run.timeoutSeconds - run.elapsedSeconds now }

/-- An amount can be subtracted from one that is not smaller. -/
theorem sub_of_le {a b : Money} (h : b ≤ a) : a.sub b = .ok ⟨a.microUnits - b.microUnits⟩ :=
  if_neg (Nat.not_lt.2 h)

section
variable {W : Type} (env : CallEnv W) (w : W)

/-- The last checks of a run whose cost is within the budget. -/
theorem checkStepLimit_exec (run : Run) {spent additionalCost : Money}
    (hcost : spent + additionalCost ≤ run.maxCost) :
    ∃ run', (((checkStepLimit (spent + additionalCost)).on run).exec env w).result =
      some (.ok (runBudgetResult run spent additionalCost (env .now w).1), run') := by
  have hnot : ¬run.maxCost < spent + additionalCost := Nat.not_lt.2 hcost
  unfold checkStepLimit runBudgetResult
  rw [if_neg hnot]
  by_cases hsteps : run.maxSteps ≤ run.steps.length
  · simp only [Proc.on_bind, Proc.on_get, Prog.ret_bind, Proc.thenOn_ok, hsteps, if_true,
      Proc.on_method, Run.addEvent, Method.on_modify, Proc.on_pure, Prog.exec_ret]
    exact ⟨_, rfl⟩
  · simp only [Proc.on_bind, Proc.on_get, Prog.ret_bind, Proc.thenOn_ok, Proc.on_ite, hsteps, if_false,
      checkTimeout, Proc.on_call, Prog.call_bind, Prog.exec_call]
    by_cases htime : (run.timeoutSeconds : Rat) < run.elapsedSeconds (env .now w).1
    · simp only [htime, if_true, Proc.on_method, Run.addEvent, Method.on_modify,
        Prog.ret_bind, Proc.thenOn_ok, Proc.on_pure, Prog.exec_ret]
      exact ⟨_, rfl⟩
    · simp only [htime, if_false, sub_of_le hcost, Proc.on_ofExcept, Prog.ret_bind,
        Proc.thenOn_ok, Proc.on_pure, Prog.exec_ret]
      exact ⟨_, rfl⟩

/-- The warning adds at most an event. -/
theorem warn_on {run : Run} (hvalid : run.Valid) {spent : Money} (hspent : run.spentCost = .money spent)
    (warningThresholdPercent : Rat) :
    ∃ events, (warn warningThresholdPercent).on run = .ret (.ok (), { run with events }) := by
  have hmax : (run.maxCost.microUnits : Int) ≠ 0 := Int.natCast_ne_zero.2 hvalid.2.2.1
  have hmicroUnits : run.spentCost.microUnits = .ok (spent.microUnits : Int) := by
    rw [hspent]
    rfl
  simp only [warn, Proc.on_bind, Proc.on_get, Prog.ret_bind, Proc.thenOn_ok, Proc.on_ofExcept, hmicroUnits,
    usagePercent, hmax, if_false, Proc.on_ite, Proc.on_method, Run.addEvent, Method.on_modify, Proc.on_pure]
  split
  · exact ⟨_, rfl⟩
  · exact ⟨_, rfl⟩

/-- The check of a stored run that has not spent more than its budget returns this result. -/
theorem checkRunBudget_exec {σ : Type} (s : σ) (warningThresholdPercent : Rat) {runId : UUID} {run : Run}
    {w₁ : W} (hget : env (.runGet runId) w = (.ok (some run), w₁)) (hvalid : run.Valid) {spent : Money}
    (hspent : run.spentCost = .money spent) (hle : spent ≤ run.maxCost) (additionalCost : Money) :
    (((checkRunBudget warningThresholdPercent runId additionalCost : Service σ _).on s).exec env w).result =
      some (.ok (runBudgetResult run spent additionalCost (env .now w₁).1), s) := by
  rw [checkRunBudget, Proc.on_bind, Proc.on_tryCall, Prog.call_bind, Prog.exec_call, hget, Prog.ret_bind]
  simp only [id, Proc.thenOn_ok, Proc.on_withObject, checkLoadedRun, Proc.on_bind, Proc.on_get,
    Prog.ret_bind, Proc.on_ofExcept, hspent, SpentCost.add]
  by_cases hcost : run.maxCost < spent + additionalCost
  · simp only [hcost, if_true, Proc.on_bind, Proc.on_ofExcept, SpentCost.microUnits, Prog.ret_bind,
      Proc.thenOn_ok, Proc.on_method, Run.addEvent, Method.on_modify, SpentCost.subFrom, sub_of_le hle,
      Proc.on_pure, Prog.exec_ret, runBudgetResult]
  · obtain ⟨events, hwarn⟩ := warn_on hvalid hspent warningThresholdPercent
    obtain ⟨run', hrest⟩ := checkStepLimit_exec env w₁ { run with events } (Nat.not_lt.1 hcost)
    simp only [hcost, if_false, Proc.on_bind, hwarn, Prog.ret_bind, Proc.thenOn_ok]
    rw [Prog.exec_bind, Prog.Exec.andThen, hrest]
    rfl

end

end BudgetService

/-! ## What the methods of the run would do -/

namespace Run

/-- The method raises. -/
def Raises {α : Type} (self : Run) (m : Method PyError Run α) : Prop := ∃ e, (m.on self).1 = .error e

/-- The arguments of `add_step`, and what the step's constructor draws. -/
structure NewStep where
  sequence : Int
  kind : RunStepKind
  inputData : Option Dict
  stepId : UUID
  now : Time

/-- Add the step. -/
def NewStep.add (step : NewStep) : Method PyError Run RunStep :=
  addStep step.sequence step.kind step.inputData step.stepId step.now

/-- Add steps one after the other. -/
def addSteps : List NewStep → Method PyError Run Unit
  | [] => return
  | step :: steps => do
    let _ ← step.add
    addSteps steps

/-- The numbers of the steps are not negative, and neither used by the run nor twice. -/
structure Fresh (run : Run) (steps : List NewStep) : Prop where
  nonneg : ∀ step ∈ steps, 0 ≤ step.sequence
  unused : ∀ step ∈ steps, ∀ old ∈ run.steps, old.sequence ≠ step.sequence
  nodup : (steps.map NewStep.sequence).Nodup

variable {self : Run} {spent : Money}

/-- Recording a cost raises exactly if the budget does not hold it. -/
theorem raises_recordCost_iff (hspent : self.spentCost = .money spent) (cost : Money) (now : Time) :
    self.Raises (recordCost cost now) ↔ self.maxCost < spent + cost := by
  rw [Raises, RunOperation.recordCost_on_money hspent]
  split
  · next hmax => exact iff_of_true ⟨_, rfl⟩ hmax
  · next hmax => exact iff_of_false (fun ⟨_, h⟩ => by cases h) hmax

/-- After one cost, another is refused exactly if the sum of both is. -/
theorem raises_recordCosts_iff (hspent : self.spentCost = .money spent) {first : Money}
    (hfirst : spent + first ≤ self.maxCost) (second : Money) (now now' : Time) :
    self.Raises (do recordCost first now; recordCost second now') ↔
      self.maxCost < spent + first + second := by
  have hnot : ¬self.maxCost < spent + first := Nat.not_lt.2 hfirst
  have hon := RunOperation.recordCost_on_money hspent first now
  rw [if_neg hnot] at hon
  rw [Raises, Method.on_bind, hon]
  exact raises_recordCost_iff rfl second now'

/-- A step with a fresh number is added unless there are enough. -/
theorem addStep_on_of_fresh {step : NewStep} {steps : List NewStep} (h : self.Fresh (step :: steps)) :
    (self.maxSteps ≤ self.steps.length → self.Raises step.add) ∧
    (self.steps.length < self.maxSteps → ∃ added self', step.add.on self = (.ok added, self') ∧
      self'.maxSteps = self.maxSteps ∧ self'.steps.length = self.steps.length + 1 ∧
        self'.Fresh steps) := by
  have hunused : ¬∃ old ∈ self.steps, old.sequence = step.sequence := by
    rintro ⟨old, hold, hsequence⟩
    exact h.unused step List.mem_cons_self old hold hsequence
  have hnonneg := h.nonneg step List.mem_cons_self
  constructor
  · intro hmax
    rw [Raises, NewStep.add, addStep_on, if_pos hmax]
    exact ⟨_, rfl⟩
  · intro hmax
    obtain ⟨hnew, hnodup⟩ := List.nodup_cons.1 h.nodup
    rw [NewStep.add, addStep_on, if_neg (by omega), if_neg hunused, if_neg (by omega)]
    refine ⟨_, _, rfl, rfl, by simp, fun other hother => ?_, fun other hother old hold => ?_, hnodup⟩
    · exact h.nonneg other (List.mem_cons_of_mem _ hother)
    · rcases List.mem_append.1 hold with hold | hold
      · exact h.unused other (List.mem_cons_of_mem _ hother) old hold
      · rw [List.mem_singleton.1 hold]
        exact fun hsame => hnew (List.mem_map.2 ⟨other, hother, hsame.symm⟩)

/-- Adding a step raises exactly if the run has as many as it may have. -/
theorem raises_add_iff {step : NewStep} (h : self.Fresh [step]) :
    self.Raises step.add ↔ self.maxSteps ≤ self.steps.length := by
  obtain ⟨hfull, hroom⟩ := addStep_on_of_fresh h
  refine ⟨fun ⟨e, he⟩ => Int.not_lt.1 fun hmax => ?_, hfull⟩
  obtain ⟨added, self', hon, -⟩ := hroom hmax
  rw [hon] at he
  cases he

/-- Steps with fresh numbers are added exactly if there is room for all of them. -/
theorem not_raises_addSteps_iff {steps : List NewStep} (h : self.Fresh steps) (hne : steps ≠ []) :
    ¬self.Raises (addSteps steps) ↔ self.steps.length + steps.length ≤ self.maxSteps := by
  induction steps generalizing self with
  | nil => exact absurd rfl hne
  | cons step steps ih =>
    obtain ⟨hfull, hroom⟩ := addStep_on_of_fresh h
    rw [List.length_cons]
    by_cases hmax : self.maxSteps ≤ self.steps.length
    · obtain ⟨e, he⟩ := hfull hmax
      refine iff_of_false (not_not.2 ⟨e, ?_⟩) (by omega)
      rw [addSteps, Method.on_bind]
      rcases hon : step.add.on self with ⟨result, self'⟩
      rw [hon] at he
      obtain rfl : result = .error e := he
      rfl
    · obtain ⟨added, self', hon, hmaxSteps, hlength, hfresh⟩ := hroom (Int.not_le.1 hmax)
      have hraises : self.Raises (addSteps (step :: steps)) ↔ self'.Raises (addSteps steps) := by
        rw [Raises, addSteps, Method.on_bind, hon, Raises]
      rw [hraises]
      cases steps with
      | nil =>
        refine iff_of_true (fun ⟨_, he⟩ => by cases he) ?_
        simp only [List.length_nil]
        omega
      | cons next rest =>
        rw [ih hfresh (List.cons_ne_nil _ _), hmaxSteps, hlength]
        omega

end Run

/-! ## The preview -/

/-- The check denies, for this reason. -/
def BudgetCheckResult.DeniesFor (result : BudgetCheckResult) (reason : String) : Prop :=
  result.allowed = false ∧ result.reason = some reason

namespace BudgetService

section
variable {run : Run} {spent additionalCost : Money} {now : Time}

/-- The first of the three limits that is passed is the reason. -/
theorem deniesFor_iff (reason : String) :
    (runBudgetResult run spent additionalCost now).DeniesFor reason ↔
      if run.maxCost < spent + additionalCost then reason = "Run would exceed maximum cost limit"
      else if run.maxSteps ≤ run.steps.length then reason = "Run would exceed maximum step limit"
      else run.timeoutSeconds < run.elapsedSeconds now ∧ reason = "Run would exceed timeout limit" := by
  unfold BudgetCheckResult.DeniesFor runBudgetResult
  split_ifs with hcost hsteps htime
  · simp [eq_comm]
  · simp [eq_comm]
  · simp [htime, eq_comm]
  · simp [htime]

/-- The check denies for the cost exactly if the budget does not hold it. -/
theorem deniesFor_cost_iff :
    (runBudgetResult run spent additionalCost now).DeniesFor "Run would exceed maximum cost limit" ↔
      run.maxCost < spent + additionalCost := by
  rw [deniesFor_iff]
  split_ifs with hcost hsteps
  · exact iff_of_true rfl hcost
  · exact iff_of_false (by decide) hcost
  · exact iff_of_false (fun h => absurd h.2 (by decide)) hcost

/-- It denies for the steps exactly if the cost fits and no step is left. -/
theorem deniesFor_steps_iff :
    (runBudgetResult run spent additionalCost now).DeniesFor "Run would exceed maximum step limit" ↔
      ¬run.maxCost < spent + additionalCost ∧ run.maxSteps ≤ run.steps.length := by
  rw [deniesFor_iff]
  split_ifs with hcost hsteps
  · exact iff_of_false (by decide) fun h => h.1 hcost
  · exact iff_of_true rfl ⟨hcost, hsteps⟩
  · exact iff_of_false (fun h => absurd h.2 (by decide)) fun h => hsteps h.2

/-- It denies for the time exactly if cost and steps fit and the timeout is over. -/
theorem deniesFor_timeout_iff :
    (runBudgetResult run spent additionalCost now).DeniesFor "Run would exceed timeout limit" ↔
      ¬run.maxCost < spent + additionalCost ∧ ¬run.maxSteps ≤ run.steps.length ∧
        run.timeoutSeconds < run.elapsedSeconds now := by
  rw [deniesFor_iff]
  split_ifs with hcost hsteps
  · exact iff_of_false (by decide) fun h => h.1 hcost
  · exact iff_of_false (by decide) fun h => h.2.1 hsteps
  · rw [and_iff_left rfl, and_iff_right hcost, and_iff_right hsteps]

end

/-- What the check says about a run: it denies for the cost, the steps or the time, in this order, exactly
if recording the cost or adding a step would raise, or the time is over; and where it allows, it reports the
greatest further cost and number of steps that would be accepted. -/
structure ExactPreview (run : Run) (additionalCost : Money) (now : Time) (result : BudgetCheckResult) :
    Prop where
  cost : ∀ now', result.DeniesFor "Run would exceed maximum cost limit" ↔
    run.Raises (Run.recordCost additionalCost now')
  steps : ¬result.DeniesFor "Run would exceed maximum cost limit" → ∀ step, run.Fresh [step] →
    (result.DeniesFor "Run would exceed maximum step limit" ↔ run.Raises step.add)
  time : ¬result.DeniesFor "Run would exceed maximum cost limit" →
    ¬result.DeniesFor "Run would exceed maximum step limit" →
      (result.DeniesFor "Run would exceed timeout limit" ↔ run.timeoutSeconds < run.elapsedSeconds now)
  denied : result.allowed = false →
    result.DeniesFor "Run would exceed maximum cost limit" ∨
      result.DeniesFor "Run would exceed maximum step limit" ∨
        result.DeniesFor "Run would exceed timeout limit"
  remainingBudget : result.allowed = true → ∀ further now' now'',
    (¬run.Raises (do Run.recordCost additionalCost now'; Run.recordCost further now'') ↔
      further ≤ result.remainingBudget)
  remainingSteps : result.allowed = true → ∀ newSteps, run.Fresh newSteps →
    (¬run.Raises (Run.addSteps newSteps) ↔ newSteps.length ≤ result.remainingSteps)

/-- The check of a stored run that has not spent more than its budget returns an exact preview: it denies
what the run would refuse, for the first reason in the order of cost, steps and time, and allows what it
would take. -/
theorem checkRunBudget_exact {W : Type} (env : CallEnv W) (w : W) (warningThresholdPercent : Rat)
    {runId : UUID} {run : Run} {w₁ : W} (hget : env (.runGet runId) w = (.ok (some run), w₁))
    (hvalid : run.Valid) {spent : Money} (hspent : run.spentCost = .money spent)
    (hle : spent ≤ run.maxCost) (additionalCost : Money) :
    ∃ result, (((checkRunBudget warningThresholdPercent runId additionalCost :
        Service Unit _).on ()).exec env w).result = some (.ok result, ()) ∧
      ExactPreview run additionalCost (env .now w₁).1 result := by
  refine ⟨_, checkRunBudget_exec env w () warningThresholdPercent hget hvalid hspent hle additionalCost, ?_⟩
  refine ⟨fun now' => ?_, fun hcost step hfresh => ?_, fun hcost hsteps => ?_, fun hdenied => ?_,
    fun hallowed further now' now'' => ?_, fun hallowed newSteps hfresh => ?_⟩
  · rw [deniesFor_cost_iff, Run.raises_recordCost_iff hspent]
  · rw [deniesFor_cost_iff] at hcost
    rw [deniesFor_steps_iff, and_iff_right hcost, Run.raises_add_iff hfresh]
  · rw [deniesFor_cost_iff] at hcost
    rw [deniesFor_steps_iff, and_iff_right hcost] at hsteps
    rw [deniesFor_timeout_iff, and_iff_right hcost, and_iff_right hsteps]
  · rw [deniesFor_cost_iff, deniesFor_steps_iff, deniesFor_timeout_iff]
    unfold runBudgetResult at hdenied
    split_ifs at hdenied with hcost hsteps htime
    · exact .inl hcost
    · exact .inr (.inl ⟨hcost, hsteps⟩)
    · exact .inr (.inr ⟨hcost, hsteps, htime⟩)
  · unfold runBudgetResult at hallowed ⊢
    split_ifs at hallowed ⊢ with hcost hsteps htime
    rw [Run.raises_recordCosts_iff hspent (Nat.not_lt.1 hcost)]
    change ¬run.maxCost.microUnits < spent.microUnits + additionalCost.microUnits + further.microUnits ↔
      further.microUnits ≤ run.maxCost.microUnits - (spent.microUnits + additionalCost.microUnits)
    have hwithin : spent.microUnits + additionalCost.microUnits ≤ run.maxCost.microUnits :=
      Nat.not_lt.1 hcost
    omega
  · unfold runBudgetResult at hallowed ⊢
    split_ifs at hallowed ⊢ with hcost hsteps htime
    cases newSteps with
    | nil => exact iff_of_true (fun ⟨_, he⟩ => by cases he) (Nat.zero_le _)
    | cons step rest =>
      rw [Run.not_raises_addSteps_iff hfresh (List.cons_ne_nil _ _)]
      dsimp only
      omega

/-- A run that has spent half of its budget. -/
theorem checkRunBudget_exact_sample :
    let run : Run := { Run.sample .running [] with maxCost := ⟨50⟩, spentCost := .money ⟨25⟩ }
    let env : CallEnv Unit := fun
      | .runGet _, w => (.ok (some run), w)
      | o, w => (o.quiet, w)
    ∃ result, (((checkRunBudget 80 ⟨1⟩ ⟨20⟩ : Service Unit _).on ()).exec env ()).result =
        some (.ok result, ()) ∧ ExactPreview run ⟨20⟩ (env .now ()).1 result := by
  intro run env
  exact checkRunBudget_exact env () 80 rfl ⟨by decide, by decide, by decide, by decide⟩ rfl
    (show (25 : Nat) ≤ 50 by decide) ⟨20⟩

end BudgetService

end AgentRuntime
