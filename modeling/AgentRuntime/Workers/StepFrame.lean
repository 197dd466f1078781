import AgentRuntime.Domain.RunOperation
import AgentRuntime.Workers.RunExecutor

/-!
# What executing a step changes

A step is executed on the run in memory, and only two kinds of methods are called on it: those of
its steps, and `request_approval`. So whatever these keep, the execution of a step keeps, whichever
kind the step has and whatever the calls answer (`RunExecutor.keeps_executeStepKind`,
`RunExecutor.keeps_executeStepAt`).
-/

namespace AgentRuntime

open Interaction Service

/-- Whatever is answered, the coroutine keeps `I` of its run. -/
abbrev AlwaysKeeps (I : Run → Prop) {α : Type} (m : Service Run α) : Prop :=
  m.Keeps (fun _ _ => True) (fun _ => True) I

/-- Creating an approval request does not touch the run. -/
theorem ApprovalCoordinator.keeps_requestApproval (I : Run → Prop) (runId : UUID)
    (stepSequence : Int) (toolName action : String) (resource : Option String) (inputData : Json)
    (policyReason requestedBy : String) (ttlSeconds : Nat) (approvalType : ApprovalType) :
    AlwaysKeeps I (requestApproval runId stepSequence toolName action resource inputData
      policyReason requestedBy ttlSeconds approvalType) :=
  Proc.keeps_bind (Proc.keeps_call trivial) fun _ => Proc.keeps_bind (Proc.keeps_call trivial)
    fun _ => Proc.keeps_bind (Proc.keeps_ofExcept _) fun _ =>
      Proc.keeps_bind (Proc.keeps_tryCall trivial) fun _ =>
        Proc.keeps_bind (Proc.keeps_tryCall trivial) fun _ => Proc.keeps_pure _

section
variable {I : Run → Prop}

namespace ToolExecutionService

/-- The execution of a tool under a decision changes the run only by asking for an approval. -/
theorem keeps_executeDecided (hrequest : ∀ now, (Run.requestApproval now).Keeps I)
    (decision : PolicyDecision) (toolName action : String) (inputData : Json)
    (resource : Option String) :
    AlwaysKeeps I (executeDecided decision toolName action inputData resource) := by
  refine Proc.keeps_ite (fun _ => ?_) (fun _ => ?_)
  · exact Proc.keeps_get_bind fun _ _ =>
      Proc.keeps_bind (ApprovalCoordinator.keeps_requestApproval _ _ _ _ _ _ _ _ _ _ _) fun _ =>
        Proc.keeps_bind (Proc.keeps_call trivial) fun now =>
          Proc.keeps_bind (Proc.keeps_method (hrequest now)) fun _ => Proc.keeps_ofExcept _
  · refine Proc.keeps_bind (Proc.keeps_bind (Proc.keeps_call trivial) fun _ => Proc.keeps_pure _)
      fun _ => ?_
    cases decision.rateLimit with
    | some rateLimit =>
      exact Proc.keeps_get_bind fun _ _ => Proc.keeps_bind (Proc.keeps_tryCall trivial) fun _ =>
        Proc.keeps_pure _
    | none => exact Proc.keeps_pure _

/-- So does its execution after the limits were checked. -/
theorem keeps_executeChecked (hrequest : ∀ now, (Run.requestApproval now).Keeps I)
    (decision : PolicyDecision) (toolName action : String) (inputData : Json)
    (resource : Option String) :
    AlwaysKeeps I (executeChecked decision toolName action inputData resource) := by
  have hdecided := keeps_executeDecided hrequest decision toolName action inputData resource
  unfold executeChecked
  cases decision.rateLimit with
  | some rateLimit =>
    exact Proc.keeps_get_bind fun _ _ => Proc.keeps_bind (Proc.keeps_tryCall trivial) fun _ =>
      Proc.keeps_ite (fun _ => hdecided) fun _ => Proc.keeps_pure _
  | none => exact hdecided

/-- Executing a tool changes the run at most by asking for approval. -/
theorem keeps_executeTool (hrequest : ∀ now, (Run.requestApproval now).Keeps I) (cel : Cel)
    (agentVersionId : UUID) (toolName action : String) (inputData : Json)
    (resource : Option String) (context : Option Dict) :
    AlwaysKeeps I (executeTool cel agentVersionId toolName action inputData resource context) := by
  refine Proc.keeps_bind (Proc.keeps_tryCall trivial) fun grant? => ?_
  cases grant? with
  | none => exact Proc.keeps_pure _
  | some grant =>
    exact Proc.keeps_bind (Proc.keeps_call trivial) fun now =>
      keeps_executeChecked hrequest _ _ _ _ _

end ToolExecutionService

namespace RunExecutor

/-- Reading a text changes nothing. -/
theorem keeps_textOf (value : Json) : AlwaysKeeps I (textOf value) := by
  cases value <;> first | exact Proc.keeps_pure _ | exact Proc.keeps_throw _

/-- Reading the resource changes nothing. -/
theorem keeps_resourceOf (data : Dict) : AlwaysKeeps I (resourceOf data) := by
  unfold resourceOf
  split
  · exact Proc.keeps_pure _
  · exact Proc.keeps_pure _
  · exact Proc.keeps_bind (keeps_textOf _) fun _ => Proc.keeps_pure _

/-- Neither does reading the output. -/
theorem keeps_outputOf (result : ToolExecutionResult) : AlwaysKeeps I (outputOf result) :=
  Proc.keeps_ite (fun _ => Proc.keeps_throw _) fun _ =>
    Proc.keeps_ite (fun _ => Proc.keeps_pure _) fun _ => Proc.keeps_throw _

/-- A tool call changes the run only by asking for an approval. -/
theorem keeps_executeToolCall (hrequest : ∀ now, (Run.requestApproval now).Keeps I)
    (self : RunExecutor) (step : RunStep) : AlwaysKeeps I (self.executeToolCall step) := by
  refine Proc.keeps_get_bind fun run _ => Proc.keeps_ite (fun _ => ?_) fun _ => Proc.keeps_throw _
  exact Proc.keeps_bind (keeps_textOf _) fun toolName =>
    Proc.keeps_bind (keeps_textOf _) fun action => Proc.keeps_bind (keeps_resourceOf _) fun _ =>
      Proc.keeps_bind (ToolExecutionService.keeps_executeTool hrequest _ _ _ _ _ _ _) fun result =>
        keeps_outputOf result

/-- So does a step that is an approval. -/
theorem keeps_handleApprovalStep (hrequest : ∀ now, (Run.requestApproval now).Keeps I)
    (step : RunStep) : AlwaysKeeps I (handleApprovalStep step) := by
  refine Proc.keeps_ite (fun _ => ?_) fun _ => Proc.keeps_throw _
  refine Proc.keeps_bind (keeps_textOf _) fun text => ?_
  cases UUID.ofStr? text with
  | none => exact Proc.keeps_throw _
  | some approvalId =>
    refine Proc.keeps_bind (Proc.keeps_tryCall trivial) fun request? => ?_
    cases request? with
    | none => exact Proc.keeps_throw _
    | some request =>
      have hpause : AlwaysKeeps I (do
          let now ← now
          Proc.method (Run.requestApproval now)
          throw (.toolApprovalRequired approvalId) : Service Run Json) :=
        Proc.keeps_bind (Proc.keeps_call trivial) fun now =>
          Proc.keeps_bind (Proc.keeps_method (hrequest now)) fun _ => Proc.keeps_throw _
      cases hstate : request.state <;> simp only [hstate]
      · exact hpause
      · exact Proc.keeps_pure _
      · exact Proc.keeps_throw _
      · exact Proc.keeps_throw _
      · exact hpause

/-- Executing a step of any kind changes the run at most by asking for approval. -/
theorem keeps_executeStepKind (hrequest : ∀ now, (Run.requestApproval now).Keeps I)
    (self : RunExecutor) (step : RunStep) : AlwaysKeeps I (self.executeStepKind step) := by
  unfold executeStepKind
  split
  · exact keeps_executeToolCall hrequest self step
  · exact keeps_handleApprovalStep hrequest step
  · exact Proc.keeps_bind (Proc.keeps_call trivial) fun _ => Proc.keeps_pure _

/-- Storing a step changes nothing. -/
theorem keeps_updateStepAt (i : Nat) : AlwaysKeeps I (updateStepAt i) := by
  refine Proc.keeps_get_bind fun run _ => ?_
  cases run.steps[i]? with
  | none => exact Proc.keeps_pure _
  | some step => exact Proc.keeps_tryCall trivial

/-- A step's method, called by the executor on the step at a position of the run. -/
theorem guar_stepMethodAt {A : (o : Call) → o.Ans → Prop} {run : Run} {i : Nat} {step : RunStep}
    (hstep : run.steps[i]? = some step) (m : Time → Method PyError RunStep Unit) :
    ((stepMethodAt i m).on run).Guar A (fun _ => True) fun r =>
      ∃ now, r = (((m now).on step).1, { run with
        steps := run.steps.set i ((m now).on step).2 }) := by
  simp only [stepMethodAt, Proc.on_bind, Proc.on_call, Prog.call_bind, Prog.ret_bind, Proc.thenOn_ok,
    Proc.on_method, Run.stepMethod_on, hstep]
  exact ⟨trivial, fun now _ => ⟨now, rfl⟩⟩

/-- A step's position still holds a step after the step there is replaced. -/
theorem getElem?_set_of_getElem? {steps : List RunStep} {i : Nat} {step : RunStep}
    (hstep : steps[i]? = some step) (step' : RunStep) : (steps.set i step')[i]? = some step' :=
  List.getElem?_set_self (List.getElem?_eq_some_iff.1 hstep).1

/-- The pending step is at the position found for it. -/
theorem getElem?_of_getNextPendingStep {run : Run} {i : Nat} (h : getNextPendingStep run = some i) :
    ∃ step, run.steps[i]? = some step ∧ (step.state = .queued ∨ step.state = .running) := by
  obtain ⟨hi, hstate, -⟩ := List.findIdx?_eq_some_iff_getElem.1 h
  exact ⟨run.steps[i], List.getElem?_eq_getElem hi, by simpa using hstate⟩

/-- A method of a step changes the step alone. -/
theorem keeps_stepMethodAt (hstep : ∀ i m, (Run.stepMethod i m).Keeps I) (i : Nat)
    (m : Time → Method PyError RunStep Unit) : AlwaysKeeps I (stepMethodAt i m) :=
  Proc.keeps_bind (Proc.keeps_call trivial) fun _ => Proc.keeps_method (hstep i _)

/-- The handling of a step's error changes the step, or asks for an approval. -/
theorem keeps_onStepError (hrequest : ∀ now, (Run.requestApproval now).Keeps I)
    (hstep : ∀ i m, (Run.stepMethod i m).Keeps I) (i : Nat) (e : PyError) :
    AlwaysKeeps I (onStepError i e) := by
  unfold onStepError
  split
  · exact Proc.keeps_bind (Proc.keeps_call trivial) fun now =>
      Proc.keeps_bind (Proc.keeps_method (hrequest now)) fun _ => keeps_stepMethodAt hstep i _
  · exact keeps_stepMethodAt hstep i _
  · exact Proc.keeps_bind (keeps_stepMethodAt hstep i _) fun _ => Proc.keeps_throw _

/-- The whole execution of a step keeps what its methods and `request_approval` keep. -/
theorem keeps_executeStepAt (hrequest : ∀ now, (Run.requestApproval now).Keeps I)
    (hstep : ∀ i m, (Run.stepMethod i m).Keeps I) (self : RunExecutor) (i : Nat) (step : RunStep) :
    AlwaysKeeps I (self.executeStepAt i step) := by
  refine Proc.keeps_bind (keeps_stepMethodAt hstep i _) fun _ =>
    Proc.keeps_bind (keeps_updateStepAt i) fun _ => Proc.keeps_bind ?_ fun _ =>
      Proc.keeps_bind (keeps_updateStepAt i) fun _ => ?_
  · exact Proc.keeps_tryCatch (Proc.keeps_bind (keeps_executeStepKind hrequest self step) fun _ =>
      keeps_stepMethodAt hstep i _) fun e => keeps_onStepError hrequest hstep i e
  · exact Proc.keeps_get_bind fun _ _ => Proc.keeps_bind (Proc.keeps_tryCall trivial) fun _ =>
      Proc.keeps_pure _

/-- So the execution of a step keeps what asking for an approval and methods of steps keep. -/
theorem keeps_executeStep (hrequest : ∀ now, (Run.requestApproval now).Keeps I)
    (hstep : ∀ i m, (Run.stepMethod i m).Keeps I) (self : RunExecutor) :
    AlwaysKeeps I self.executeStep := by
  refine Proc.keeps_get_bind fun run _ => ?_
  cases getNextPendingStep run with
  | none => exact Proc.keeps_pure _
  | some i =>
    simp only
    cases run.steps[i]? with
    | none => exact Proc.keeps_pure _
    | some step => exact keeps_executeStepAt hrequest hstep self i step

end RunExecutor

end

end AgentRuntime
