import AgentRuntime.Interaction.BigStep
import AgentRuntime.Workers.ApprovalPause

/-!
# What becomes of a tool result

A tool step should end as the result of its tool does: SUCCEEDED with the output, or FAILED with the
reason, in a run that goes on (`FollowsResult`). No step does. No caller of `ToolExecutionResult` gives a
value for `awaiting_approval`, so every result has the default of the field, which is the class method of
that name and true: `_execute_tool_call` raises `ToolApprovalRequired` for each of them, the run waits for
an approval that nobody was asked for, and the step has failed (`executeStepAt_endsOn`).
-/

namespace AgentRuntime

open Interaction Service

/-- What the checks of `execute_tool` come to. -/
inductive ToolChecks where
  | noGrant
  | rateLimited (decision : PolicyDecision) (rateLimit : RateLimitInfo)
  | admitted (decision : PolicyDecision)

/-- The decision asks for an approval. -/
def ToolChecks.requiresApproval : ToolChecks → Bool
  | noGrant => false
  | rateLimited decision _ => decision.requiresApproval
  | admitted decision => decision.requiresApproval

namespace ToolExecutionService

/-- The first half of `execute_tool`: the grant, its policy and the rate limit. -/
def toolChecks (cel : Cel) (agentVersionId : UUID) (toolName action : String)
    (resource : Option String) (context : Option Dict) : Service Run ToolChecks := do
  match ← grantByTool agentVersionId toolName with
  | none => return .noGrant
  | some grant =>
    let now ← now
    let decision := grant.evaluate cel action resource context now
    match decision.rateLimit with
    | some rateLimit =>
      let run ← get
      if ← checkLimit (rateLimitKey toolName action run.tenantId) rateLimit.limit rateLimit.scope then
        return .admitted decision
      else
        return .rateLimited decision rateLimit
    | none => return .admitted decision

/-- The second half of `execute_tool`. -/
def afterChecks (toolName action : String) (inputData : Json) (resource : Option String) :
    ToolChecks → Service Run ToolExecutionResult
  | .noGrant => return .denied "No grant found for tool"
  | .rateLimited _ rateLimit => return .rateLimited rateLimit
  | .admitted decision => executeDecided decision toolName action inputData resource

/-- A tool is checked, and then executed as the checks demand. -/
theorem executeTool_eq (cel : Cel) (agentVersionId : UUID) (toolName action : String)
    (inputData : Json) (resource : Option String) (context : Option Dict) :
    executeTool cel agentVersionId toolName action inputData resource context =
      toolChecks cel agentVersionId toolName action resource context >>=
        afterChecks toolName action inputData resource := by
  unfold executeTool toolChecks
  rw [bind_assoc]
  refine congrArg (_ >>= ·) (funext fun grant? => ?_)
  cases grant? with
  | none => rfl
  | some grant =>
    dsimp only
    rw [bind_assoc]
    refine congrArg (_ >>= ·) (funext fun now => ?_)
    unfold executeChecked
    cases (grant.evaluate cel action resource context now).rateLimit with
    | none => rfl
    | some rateLimit =>
      dsimp only
      rw [bind_assoc]
      refine congrArg (_ >>= ·) (funext fun run => ?_)
      rw [bind_assoc]
      refine congrArg (_ >>= ·) (funext fun admits => ?_)
      cases admits <;> rfl

/-- What a caller is given: a result whose `awaiting_approval` is the default. -/
structure Defaulted (result : ToolExecutionResult) : Prop where
  awaitingApproval : result.awaitingApproval = .boundMethod
  approvalId : result.approvalId = none

/-- Its handler leaves the run, and its result has the defaults of the fields that the handler does
not give. -/
theorem executeHandler_guar (decision : PolicyDecision) (toolName action : String)
    (inputData : Json) (run : Run) :
    ((executeHandler decision toolName action inputData).on run).Guar (fun _ _ => True)
      (fun _ => True) fun r => ∀ result, r.1 = .ok result → r.2 = run ∧ Defaulted result := by
  unfold executeHandler executeToolHandler
  rw [bind_assoc]
  refine Proc.guar_call_bind trivial fun _ _ => ?_
  rw [pure_bind]
  cases decision.rateLimit with
  | none =>
    rintro result ⟨⟩
    exact ⟨rfl, rfl, rfl⟩
  | some rateLimit =>
    refine Proc.guar_get_bind (Proc.guar_tryCall_bind trivial (fun _ _ _ _ => ?_) fun _ _ _ _ _ => nofun)
    rintro result ⟨⟩
    exact ⟨rfl, rfl, rfl⟩

/-- A call that asks for no approval leaves the run alone; one that does returns nothing. -/
theorem executeDecided_guar (decision : PolicyDecision) (toolName action : String)
    (inputData : Json) (resource : Option String) (run : Run) :
    ((executeDecided decision toolName action inputData resource).on run).Guar (fun _ _ => True)
      (fun _ => True) fun r => ∀ result, r.1 = .ok result → r.2 = run ∧ Defaulted result := by
  unfold executeDecided
  cases decision.requiresApproval with
  | true =>
    refine Proc.guar_get_bind ?_
    rw [Proc.on_bind]
    refine Proc.guar_bind (Prog.guar_trivial _) (fun request run' _ => ?_) fun _ _ _ _ => nofun
    refine Proc.guar_call_bind trivial fun now _ => ?_
    rw [Proc.on_bind]
    exact Proc.guar_bind (Prog.guar_trivial _) (fun _ _ _ _ => nofun) fun _ _ _ _ => nofun
  | false => exact executeHandler_guar decision toolName action inputData run

/-- So does the execution after the checks. -/
theorem afterChecks_guar (toolName action : String) (inputData : Json) (resource : Option String)
    (checks : ToolChecks) (run : Run) :
    ((afterChecks toolName action inputData resource checks).on run).Guar (fun _ _ => True)
      (fun _ => True) fun r => ∀ result, r.1 = .ok result → r.2 = run ∧ Defaulted result := by
  cases checks with
  | noGrant =>
    rintro result ⟨⟩
    exact ⟨rfl, rfl, rfl⟩
  | rateLimited decision rateLimit =>
    rintro result ⟨⟩
    exact ⟨rfl, rfl, rfl⟩
  | admitted decision => exact executeDecided_guar decision toolName action inputData resource run

/-- The checks leave the run alone. -/
theorem keeps_toolChecks (I : Run → Prop) (cel : Cel) (agentVersionId : UUID)
    (toolName action : String) (resource : Option String) (context : Option Dict) :
    AlwaysKeeps I (toolChecks cel agentVersionId toolName action resource context) := by
  refine Proc.keeps_bind (Proc.keeps_tryCall trivial) fun grant? => ?_
  cases grant? with
  | none => exact Proc.keeps_pure _
  | some grant =>
    refine Proc.keeps_bind (Proc.keeps_call trivial) fun now => ?_
    dsimp only
    cases (grant.evaluate cel action resource context now).rateLimit with
    | none => exact Proc.keeps_pure _
    | some rateLimit =>
      exact Proc.keeps_get_bind fun run _ => Proc.keeps_bind (Proc.keeps_tryCall trivial) fun admits =>
        Proc.keeps_ite (fun _ => Proc.keeps_pure _) fun _ => Proc.keeps_pure _

end ToolExecutionService

namespace RunExecutor

/-- `_execute_tool_call` without its last lines: what the tool service checks and returns. -/
def toolResult (self : RunExecutor) (step : RunStep) :
    Service Run (ToolChecks × ToolExecutionResult) := do
  let run ← get
  let data := step.inputData.getD []
  let toolName := (data.get? "tool_name").getD .null
  if toolName.truthy then
    let toolName ← textOf toolName
    let action ← textOf ((data.get? "action").getD (.str "execute"))
    let input := (data.get? "input").getD (.dict [])
    let resource ← resourceOf data
    let checks ← ToolExecutionService.toolChecks self.cel run.agentVersionId toolName action resource
      (some [("run_id", .str run.id.str), ("step_sequence", .int step.sequence),
        ("tenant_id", .str run.tenantId.str)])
    let result ← ToolExecutionService.afterChecks toolName action input resource checks
    return (checks, result)
  else
    throw (.valueError "Tool name required for tool_call step")

/-- A tool call is executed, and its output is read. -/
theorem executeToolCall_eq (self : RunExecutor) (step : RunStep) :
    self.executeToolCall step = self.toolResult step >>= fun r => outputOf r.2 := by
  unfold executeToolCall toolResult
  rw [bind_assoc]
  refine congrArg (_ >>= ·) (funext fun run => ?_)
  cases htruthy : (((step.inputData.getD []).get? "tool_name").getD .null).truthy with
  | true =>
    simp only [htruthy, if_true, ToolExecutionService.executeTool_eq, bind_assoc, pure_bind]
  | false =>
    simp only [htruthy, Bool.false_eq_true, if_false]
    rfl

/-- Where the tool service returns, it has left the run alone, and its result is a default one. -/
theorem toolResult_guar (self : RunExecutor) (step : RunStep) (run : Run) :
    ((self.toolResult step).on run).Guar (fun _ _ => True) (fun _ => True)
      fun r => ∀ a, r.1 = .ok a → r.2 = run ∧ ToolExecutionService.Defaulted a.2 := by
  refine Proc.guar_get_bind ?_
  rw [Proc.on_ite]
  split
  · refine Proc.guar_bind_of_keeps (keeps_textOf _) (fun toolName => ?_) fun _ _ => nofun
    refine Proc.guar_bind_of_keeps (keeps_textOf _) (fun action => ?_) fun _ _ => nofun
    refine Proc.guar_bind_of_keeps (keeps_resourceOf _) (fun resource => ?_) fun _ _ => nofun
    refine Proc.guar_bind_of_keeps (ToolExecutionService.keeps_toolChecks _ _ _ _ _ _ _)
      (fun checks => ?_) fun _ _ => nofun
    rw [Proc.on_bind]
    refine Proc.guar_bind (ToolExecutionService.afterChecks_guar _ _ _ _ checks run) ?_
      fun _ _ _ _ => nofun
    rintro result run' h _ ⟨⟩
    exact h result rfl
  · exact fun _ => nofun

/-- The part of `_execute_step` up to the result of the tool. -/
def startedTool (self : RunExecutor) (i : Nat) (step : RunStep) :
    Service Run (ToolChecks × ToolExecutionResult) := do
  stepMethodAt i RunStep.start
  updateStepAt i
  self.toolResult step

/-! ## A run of the step -/

section
variable {W : Type} {env : CallEnv W} {w w' : W} {run run' : Run} {i : Nat} {step : RunStep}

/-- A method of a step ends with the step that it leaves in its place. -/
theorem endsOn_stepMethodAt {m : Time → Method PyError RunStep Unit} {x : Except PyError Unit}
    {step' : RunStep} (hstep : run.steps[i]? = some step)
    (hm : (m (env Call.now w).1).on step = (x, step')) :
    Proc.EndsOn env (stepMethodAt i m) run w x { run with steps := run.steps.set i step' }
      (env Call.now w).2 := by
  refine (Proc.endsOn_call Call.now).bind (Proc.endsOn_method ?_)
  simp only [Run.stepMethod_on, hstep, hm]

/-- Storing a step ends, and leaves the run. -/
theorem exists_endsOn_updateStepAt (env : CallEnv W) (run : Run) (w : W) (i : Nat) :
    ∃ x w', Proc.EndsOn env (updateStepAt i) run w x run w' := by
  cases hstep : run.steps[i]? with
  | none =>
    refine ⟨.ok (), w, Proc.endsOn_get.bind ?_⟩
    simp only [hstep]
    exact Proc.endsOn_pure ()
  | some step =>
    refine ⟨(env (Call.updateStep run.id step) w).1, (env (Call.updateStep run.id step) w).2,
      Proc.endsOn_get.bind ?_⟩
    simp only [hstep]
    exact ⟨rfl, rfl⟩

/-- The last statements of `_execute_step` write the step and the run, or raise. -/
theorem exists_endsOn_updates (env : CallEnv W) (run : Run) (w : W) (i : Nat) :
    ∃ x w', Proc.EndsOn env (do
      updateStepAt i
      let run ← get
      let _ ← runUpdate run) run w x run w' := by
  obtain ⟨x, w₁, hstep⟩ := exists_endsOn_updateStepAt env run w i
  cases x with
  | error e => exact ⟨_, _, hstep.bind_error⟩
  | ok _ =>
    have hcall : Proc.EndsOn env (runUpdate run : Service Run Run) run w₁
        (env (Call.runUpdate run) w₁).1 run (env (Call.runUpdate run) w₁).2 := ⟨rfl, rfl⟩
    cases hanswer : (env (Call.runUpdate run) w₁).1 with
    | error e =>
      rw [hanswer] at hcall
      exact ⟨_, _, hstep.bind (Proc.endsOn_get.bind hcall.bind_error)⟩
    | ok stored =>
      rw [hanswer] at hcall
      exact ⟨_, _, hstep.bind (Proc.endsOn_get.bind (hcall.bind (Proc.endsOn_pure ())))⟩

/-- A step that was started is running. -/
theorem start_eq_ok {now : Time} {step' : RunStep}
    (h : (RunStep.start now).on step = (.ok (), step')) :
    step' = { step with state := .running, updatedAt := now } := by
  by_cases hqueued : step.state = .queued
  · simpa [RunStep.start, hqueued, eq_comm] using h
  · simp [RunStep.start, hqueued] at h

/-- A running step that fails has its error. -/
theorem fail_on_of_running (hstate : step.state = .running) (error : String) (now : Time) :
    (RunStep.fail error now).on step =
      (.ok (), { step with state := .failed, error := error, updatedAt := now }) := by
  simp [RunStep.fail, hstate]

/-- Where the tool service returns, the step is running, in a run that is otherwise as it was. -/
theorem startedTool_ok (self : RunExecutor) (hstep : run.steps[i]? = some step)
    {a : ToolChecks × ToolExecutionResult}
    (h : Proc.EndsOn env (self.startedTool i step) run w (.ok a) run' w') :
    ∃ now w₁ w₂, run' = { run with
        steps := run.steps.set i { step with state := .running, updatedAt := now } } ∧
      Proc.EndsOn env (stepMethodAt i RunStep.start) run w (.ok ()) run' w₁ ∧
      Proc.EndsOn env (updateStepAt i) run' w₁ (.ok ()) run' w₂ ∧
      Proc.EndsOn env (self.toolResult step) run' w₂ (.ok a) run' w' ∧
      ToolExecutionService.Defaulted a.2 := by
  obtain ⟨⟨⟩, run₁, w₁, hstart, hrest⟩ := h.of_bind
  obtain ⟨⟨⟩, run₂, w₂, hupdate, htool⟩ := hrest.of_bind
  obtain rfl : run₂ = run₁ := hupdate.of_guar (keeps_updateStepAt (I := (· = run₁)) i run₁ rfl)
  obtain ⟨rfl, hdefaulted⟩ := htool.of_guar (self.toolResult_guar step run₂) a rfl
  obtain ⟨now, hnow⟩ := hstart.of_guar (guar_stepMethodAt hstep RunStep.start)
  have hresult : (RunStep.start now).on step = (.ok (), ((RunStep.start now).on step).2) :=
    Prod.ext (congrArg Prod.fst hnow).symm rfl
  rw [start_eq_ok hresult] at hnow
  exact ⟨now, w₁, w₂, congrArg Prod.snd hnow, hstart, hupdate, htool, hdefaulted⟩

/-- A step whose tool returns a result fails, and its run waits for an approval. -/
theorem executeStepAt_endsOn (self : RunExecutor) (hrunning : run.state = .running)
    (hstep : run.steps[i]? = some step) (hkind : step.kind = .toolCall)
    {a : ToolChecks × ToolExecutionResult}
    (h : Proc.EndsOn env (self.startedTool i step) run w (.ok a) run' w') :
    ∃ x run'' w'', Proc.EndsOn env (self.executeStepAt i step) run w x run'' w'' ∧
      run''.state = .awaitingApproval ∧ ∃ step', run''.steps[i]? = some step' ∧
        step'.state = .failed ∧ step'.error = some s!"Approval required: {optionUUIDStr none}" := by
  obtain ⟨now, w₁, w₂, hrun', hstart, hupdate, htool, hdefaulted⟩ := self.startedTool_ok hstep h
  have hstate : run'.state = .running := by
    rw [hrun']
    exact hrunning
  have hrunningStep : run'.steps[i]? = some { step with state := .running, updatedAt := now } := by
    rw [hrun']
    exact getElem?_set_of_getElem? hstep _
  -- the result reports an approval that was not asked for
  have hraises : Proc.EndsOn env (self.executeStepKind step) run' w₂
      (.error (.toolApprovalRequired none)) run' w' := by
    have houtput : outputOf a.2 = throw (.toolApprovalRequired none) := by
      rw [outputOf, hdefaulted.awaitingApproval, hdefaulted.approvalId]
      rfl
    rw [executeStepKind, hkind]
    simp only [executeToolCall_eq]
    refine htool.bind ?_
    rw [houtput]
    exact Proc.endsOn_throw _
  -- so the run is paused and the step fails
  have hhandled : ∃ run₂ w₂', Proc.EndsOn env (onStepError i (.toolApprovalRequired none)) run' w'
      (.ok ()) run₂ w₂' ∧ run₂.state = .awaitingApproval ∧ ∃ step', run₂.steps[i]? = some step' ∧
        step'.state = .failed ∧ step'.error = some s!"Approval required: {optionUUIDStr none}" := by
    have hvalid : run'.state.canTransitionTo .awaitingApproval = true := by
      rw [hstate]
      rfl
    have hpauses : (Run.requestApproval (env Call.now w').1).on run' = _ :=
      Run.transition_on_of_valid hvalid
    have hfails (error : String) (now' : Time) :
        (RunStep.fail error now').on { step with state := .running, updatedAt := now } = _ :=
      fail_on_of_running rfl error now'
    exact ⟨_, _, (Proc.endsOn_call Call.now).bind ((Proc.endsOn_method hpauses).bind
      (endsOn_stepMethodAt hrunningStep (hfails _ _))), rfl, _,
      getElem?_set_of_getElem? hrunningStep _, rfl, rfl⟩
  obtain ⟨run₂, w₂', hhandled, hawaiting, hfailed⟩ := hhandled
  obtain ⟨x, w'', hupdates⟩ := exists_endsOn_updates env run₂ w₂' i
  refine ⟨x, run₂, w'', hstart.bind (hupdate.bind ?_), hawaiting, hfailed⟩
  exact (Proc.EndsOn.tryCatch_error hraises.bind_error hhandled).bind hupdates

/-! ## The outcome of a tool step -/

/-- There is a grant, its decision is allowed, the rate limit admits the call and the handler succeeds. -/
def Served (checks : ToolChecks) (result : ToolExecutionResult) : Prop :=
  (∃ decision, checks = .admitted decision ∧ decision.allowed = true) ∧ result.success = true

/-- The run goes on, and its step has ended as the result of the tool did. -/
structure FollowsResult (i : Nat) (checks : ToolChecks) (result : ToolExecutionResult) (run : Run) :
    Prop where
  running : run.state = .running
  succeeded : Served checks result → ∃ step, run.steps[i]? = some step ∧ step.state = .succeeded ∧
    step.outputData = result.output.map Json.dict
  failed : ¬Served checks result → ∃ step, run.steps[i]? = some step ∧ step.state = .failed ∧
    step.error = some result.reason
  noApproval : ∀ step, run.steps[i]? = some step → ∀ approvalId,
    step.error ≠ some s!"Approval required: {optionUUIDStr approvalId}"

/-- `_execute_step` gets a result from the tool service and leaves the run as the result has it. -/
def ToolOutcome (self : RunExecutor) (env : CallEnv W) (w : W) (run : Run) (i : Nat) (step : RunStep) :
    Prop :=
  ∃ checks result run₁ w₁,
    Proc.EndsOn env (self.startedTool i step) run w (.ok (checks, result)) run₁ w₁ ∧
    ∃ x run' w', Proc.EndsOn env self.executeStep run w x run' w' ∧ FollowsResult i checks result run'

/-- The execution of a run's next step is that of the step. -/
theorem executeStep_endsOn (self : RunExecutor) (hnext : getNextPendingStep run = some i)
    (hstep : run.steps[i]? = some step) {x : Except PyError Unit}
    (h : Proc.EndsOn env (self.executeStepAt i step) run w x run' w') :
    Proc.EndsOn env self.executeStep run w x run' w' := by
  refine Proc.endsOn_get.bind ?_
  simp only [hnext, hstep]
  exact h

/-- No tool step of a running run has the outcome of its tool. The `awaiting_approval` of any result is a
method, which counts as true, so the step fails for want of an approval that is `None`. -/
theorem not_toolOutcome (self : RunExecutor) (env : CallEnv W) (w : W)
    (hrunning : run.state = .running) (hnext : getNextPendingStep run = some i)
    (hstep : run.steps[i]? = some step) (hkind : step.kind = .toolCall) :
    ¬ToolOutcome self env w run i step := by
  rintro ⟨checks, result, run₁, w₁, hresult, x, run', w', hends, hfollows⟩
  obtain ⟨x', run'', w'', hends', hawaiting, -⟩ :=
    self.executeStepAt_endsOn hrunning hstep hkind hresult
  obtain ⟨-, rfl, -⟩ := hends.unique (self.executeStep_endsOn hnext hstep hends')
  cases hfollows.running.symm.trans hawaiting

end

/-- A policy that allows every tool. -/
def allowEnv : CallEnv Unit
  | .grantByTool _ toolName, w => (.ok (some (ToolGrant.sample toolName {})), w)
  | o, w => (o.quiet, w)

/-- A call of a tool. -/
def toolStep : RunStep := RunStep.sample .toolCall (some [("tool_name", .str "t")])

/-- A running run whose next step is the call. -/
def toolRun : Run := Run.sample .running [toolStep]

/-- A tool call that its policy allows does not have the outcome of its tool. -/
theorem not_toolOutcome_sample :
    toolRun.state = .running ∧ getNextPendingStep toolRun = some 0 ∧
    toolRun.steps[0]? = some toolStep ∧ toolStep.kind = .toolCall ∧
    ¬ToolOutcome ⟨"worker", fun _ _ => none⟩ allowEnv () toolRun 0 toolStep :=
  ⟨rfl, rfl, rfl, rfl, not_toolOutcome _ allowEnv () rfl rfl rfl rfl⟩

/-- The tool is allowed and returns its output, and the step has failed for want of an approval. -/
theorem tool_step_not_succeeded :
    ¬∀ (W : Type) (self : RunExecutor) (env : CallEnv W) (w : W) (run : Run) (i : Nat)
        (step : RunStep) (checks : ToolChecks) (result : ToolExecutionResult) (run₁ : Run) (w₁ : W)
        (x : Except PyError Unit) (run' : Run) (w' : W),
      run.state = .running → getNextPendingStep run = some i → run.steps[i]? = some step →
      step.kind = .toolCall →
      Proc.EndsOn env (self.startedTool i step) run w (.ok (checks, result)) run₁ w₁ →
      checks.requiresApproval = false → Proc.EndsOn env self.executeStep run w x run' w' →
        FollowsResult i checks result run' := by
  intro h
  have hserved : ∃ checks result run₁ w₁, Proc.EndsOn allowEnv
      (startedTool ⟨"worker", fun _ _ => none⟩ 0 toolStep) toolRun () (.ok (checks, result)) run₁ w₁ ∧
      checks.requiresApproval = false :=
    ⟨_, _, _, _, ⟨rfl, rfl⟩, rfl⟩
  obtain ⟨checks, result, run₁, w₁, hresult, happroval⟩ := hserved
  obtain ⟨x, run', w', hends, hawaiting, -⟩ := executeStepAt_endsOn _ rfl rfl rfl hresult
  have hfollows := h Unit _ allowEnv () toolRun 0 toolStep checks result run₁ w₁ x run' w' rfl rfl rfl
    rfl hresult happroval (executeStep_endsOn _ rfl rfl hends)
  cases hfollows.running.symm.trans hawaiting

end RunExecutor

end AgentRuntime
