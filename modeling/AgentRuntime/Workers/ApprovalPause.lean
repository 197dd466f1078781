import AgentRuntime.Workers.StepFrame

/-!
# Pausing a step for an approval

When the policy asks for an approval, `execute_tool` moves the run to AWAITING_APPROVAL and then
raises a `TypeError`, because the name of its result's constructor is taken by a field. Whatever
happens, a call of `_execute_step` that returns has completed or failed the step
(`RunExecutor.executeStepAt_guar`), so it never leaves a step that can be executed after the
approval.
-/

namespace AgentRuntime

open Interaction Service

namespace RunExecutor

/-! ## What a returning call leaves -/

/-- The step at position `i` is over. -/
def Finished (i : Nat) (run : Run) : Prop :=
  ∃ step, run.steps[i]? = some step ∧ (step.state = .succeeded ∨ step.state = .failed)

/-- There is a step at position `i`. -/
def HasStep (i : Nat) (run : Run) : Prop := ∃ step, run.steps[i]? = some step

/-- Asking for an approval leaves the steps. -/
theorem keeps_hasStep_requestApproval (i : Nat) (now : Time) :
    (Run.requestApproval now).Keeps (HasStep i) :=
  Run.keeps_transition none now fun _ _ h => h

/-- A method of a step leaves how many there are. -/
theorem keeps_hasStep_stepMethod (i j : Nat) (m : Method PyError RunStep Unit) :
    (Run.stepMethod j m).Keeps (HasStep i) := by
  refine Run.keeps_stepMethod j m fun run step' h => ?_
  obtain ⟨step, hstep⟩ := h
  have hi : i < (run.steps.set j step').length := by
    rw [List.length_set]; exact (List.getElem?_eq_some_iff.1 hstep).1
  exact ⟨_, List.getElem?_eq_getElem hi⟩

/-- A step method that leaves a finished step when it returns finishes the step it is called on. -/
theorem guar_finishAt {i : Nat} {m : Time → Method PyError RunStep Unit}
    (hm : ∀ now step, ((m now).on step).1 = .ok () →
      ((m now).on step).2.state = .succeeded ∨ ((m now).on step).2.state = .failed)
    {run : Run} (h : HasStep i run) :
    ((stepMethodAt i m).on run).Guar (fun _ _ => True) (fun _ => True)
      fun r => r.1 = .ok () → Finished i r.2 := by
  obtain ⟨step, hstep⟩ := h
  refine (guar_stepMethodAt hstep m).mono (fun _ => id) ?_
  rintro _ ⟨now, rfl⟩ hok
  exact ⟨_, getElem?_set_of_getElem? hstep _, hm now step hok⟩

/-- A step that was completed has succeeded. -/
theorem complete_finishes (output : Json) (now : Time) (step : RunStep)
    (hok : ((RunStep.complete output now).on step).1 = .ok ()) :
    ((RunStep.complete output now).on step).2.state = .succeeded ∨
      ((RunStep.complete output now).on step).2.state = .failed := by
  by_cases h : step.state = .running
  · simp [RunStep.complete, h]
  · simp [RunStep.complete, h] at hok

/-- A step that has failed is finished as well. -/
theorem fail_finishes (error : String) (now : Time) (step : RunStep)
    (hok : ((RunStep.fail error now).on step).1 = .ok ()) :
    ((RunStep.fail error now).on step).2.state = .succeeded ∨
      ((RunStep.fail error now).on step).2.state = .failed := by
  by_cases h : step.state ≠ .queued ∧ step.state ≠ .running
  · simp [RunStep.fail, h] at hok
  · simp [RunStep.fail, h]

/-- An `except` clause that does not raise has failed the step. -/
theorem guar_onStepError (i : Nat) (e : PyError) {run : Run} (h : HasStep i run) :
    ((onStepError i e).on run).Guar (fun _ _ => True) (fun _ => True)
      fun r => r.1 = .ok () → Finished i r.2 := by
  unfold onStepError
  split
  · have hrequest (now : Time) : AlwaysKeeps (HasStep i) (Proc.method (Run.requestApproval now)) :=
      Proc.keeps_method (keeps_hasStep_requestApproval i now)
    refine Proc.guar_call_bind trivial fun now _ => ?_
    rw [Proc.on_bind]
    exact Proc.guar_bind (hrequest now run h) (fun _ _ h' => guar_finishAt (fail_finishes _) h')
      fun _ _ _ => by simp
  · exact guar_finishAt (fail_finishes _) h
  · rw [Proc.on_bind]
    refine (Prog.guar_trivial _).bind ?_
    rintro ⟨_ | _, _⟩ - <;> simp

/-- A call of `_execute_step` that returns has finished the step it executed. -/
theorem executeStepAt_guar (self : RunExecutor) {i : Nat} {run : Run} (h : HasStep i run)
    (step : RunStep) :
    ((self.executeStepAt i step).on run).Guar (fun _ _ => True) (fun _ => True)
      fun r => r.1 = .ok () → Finished i r.2 := by
  have hstart : AlwaysKeeps (HasStep i) (stepMethodAt i RunStep.start) :=
    keeps_stepMethodAt (keeps_hasStep_stepMethod i) i _
  have hkind : AlwaysKeeps (HasStep i) (self.executeStepKind step) :=
    keeps_executeStepKind (keeps_hasStep_requestApproval i) self step
  rw [executeStepAt, Proc.on_bind]
  refine Proc.guar_bind (hstart run h) ?_ fun _ _ _ => by simp
  intro _ run₁ h₁
  rw [Proc.on_bind]
  refine Proc.guar_bind (keeps_updateStepAt i run₁ h₁) ?_ fun _ _ _ => by simp
  intro _ run₂ h₂
  -- the body finishes the step, or leaves it to an `except` clause
  have hbody : ((do
      let output ← self.executeStepKind step
      stepMethodAt i (RunStep.complete output) : Service Run Unit).on run₂).Guar (fun _ _ => True)
      (fun _ => True) fun r => HasStep i r.2 ∧ (r.1 = .ok () → Finished i r.2) := by
    rw [Proc.on_bind]
    refine Proc.guar_bind (hkind run₂ h₂) ?_ fun _ _ h' => ⟨h', by simp⟩
    intro output run₃ h₃
    exact (keeps_stepMethodAt (keeps_hasStep_stepMethod i) i _ run₃ h₃).and
      (guar_finishAt (complete_finishes output) h₃)
  rw [Proc.on_bind]
  refine Proc.guar_bind (Proc.guar_tryCatch (R := fun r => r.1 = .ok () → Finished i r.2) hbody
    (fun _ _ hr => hr.2) fun e run' hr => guar_onStepError i e hr.1) ?_ fun _ _ _ => by simp
  intro _ run₃ h₃
  rw [Proc.on_bind]
  refine Proc.guar_bind (keeps_updateStepAt (I := (· = run₃)) i run₃ rfl) ?_ fun _ _ _ => by simp
  rintro _ _ rfl
  exact Proc.guar_get_bind (Proc.guar_tryCall_bind trivial (fun _ _ _ _ _ => h₃ rfl) (by simp))

/-! ## The pause -/

/-- A call of `_execute_step` pauses the run for the step at position `i`: it returns, the run waits
for an approval and the step can still be executed, exactly one pending approval request was added,
and no tool was run. -/
structure PausesAt {W : Type} (e : Prog.Exec Call W (Except PyError Unit × Run)) (i : Nat) :
    Prop where
  returns : ∃ run', e.result = some (.ok (), run') ∧ run'.state = .awaitingApproval ∧
    ∃ step, run'.steps[i]? = some step ∧ (step.state = .queued ∨ step.state = .running)
  oneRequest : (e.calls.filter Call.isPendingApprovalAdd).length = 1
  noTool : ∀ o ∈ e.calls, o.isToolHandler = false

/-- No call of `_execute_step` pauses the run for its step. Where the tool asks for an approval, what
`execute_step` returns after adding the request is the slot `awaiting_approval` of its result class, which
raises, and the step is failed. -/
theorem executeStep_not_pausesAt {W : Type} (self : RunExecutor) (env : CallEnv W) (w : W)
    (run : Run) {i : Nat} (hnext : getNextPendingStep run = some i) :
    ¬PausesAt ((self.executeStep.on run).exec env w) i := by
  rintro ⟨⟨run', hresult, -, step, hstep, hstate⟩, -, -⟩
  obtain ⟨pending, hpending, -⟩ := getElem?_of_getNextPendingStep hnext
  have hguar : (self.executeStep.on run).Guar (fun _ _ => True) (fun _ => True)
      fun r => r.1 = .ok () → Finished i r.2 := by
    refine Proc.guar_get_bind ?_
    simp only [hnext, hpending]
    exact self.executeStepAt_guar ⟨pending, hpending⟩ pending
  obtain ⟨finished, hfinished, hover⟩ :=
    (hguar.exec env (fun _ _ => trivial) w).2 _ hresult rfl
  obtain rfl : step = finished := by simpa [hstep] using hfinished
  rcases hstate with hstate | hstate <;> rcases hover with hover | hover <;>
    rw [hstate] at hover <;> cases hover

/-- A policy that asks for approval before the tool `t` is used. -/
def approvalEnv : CallEnv Unit
  | .grantByTool _ toolName, w =>
    (.ok (some (ToolGrant.sample toolName { requiresApproval := true })), w)
  | o, w => (o.quiet, w)

/-- A tool call, under a policy that asks for an approval, does not pause the run at its step. -/
theorem executeStep_not_pausesAt_sample :
    ¬PausesAt ((executeStep ⟨"worker", fun _ _ => none⟩).on
      (Run.sample .running [RunStep.sample .toolCall (some [("tool_name", .str "t")])]) |>.exec
        approvalEnv ()) 0 :=
  executeStep_not_pausesAt _ approvalEnv () _ rfl

/-- The policy asks for approval and every call succeeds: the request is added and the run waits for
it, but the call raises and the step has failed. -/
theorem executeStep_raises_after_request :
    let run := Run.sample .running [RunStep.sample .toolCall (some [("tool_name", .str "t")])]
    let e := (executeStep ⟨"worker", fun _ _ => none⟩).on run |>.exec approvalEnv ()
    getNextPendingStep run = some 0 ∧
      (∀ cel action resource context now, ((ToolGrant.sample "t" { requiresApproval := true }).evaluate
        cel action resource context now).requiresApproval = true) ∧
      e.result.map (fun r => (r.1, r.2.state, r.2.steps.map RunStep.state)) =
        some (.error (.typeError "'member_descriptor' object is not callable"), .awaitingApproval,
          [.failed]) ∧
      (e.calls.filter Call.isPendingApprovalAdd).length = 1 ∧ ¬PausesAt e 0 := by
  have hresult : ((executeStep ⟨"worker", fun _ _ => none⟩).on (Run.sample .running
      [RunStep.sample .toolCall (some [("tool_name", .str "t")])]) |>.exec approvalEnv ()).result.map
        (fun r => (r.1, r.2.state, r.2.steps.map RunStep.state)) =
      some (.error (.typeError "'member_descriptor' object is not callable"), .awaitingApproval,
        [.failed]) := by
    decide +kernel
  refine ⟨by decide, fun _ _ _ _ _ => rfl, hresult, by decide +kernel, ?_⟩
  rintro ⟨⟨run', hpaused, -⟩, -, -⟩
  rw [hpaused] at hresult
  cases hresult

end RunExecutor

end AgentRuntime
