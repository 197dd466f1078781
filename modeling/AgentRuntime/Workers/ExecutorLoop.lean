import AgentRuntime.Workers.StepFrame

/-!
# How the main loop ends

The main loop of `execute_run` goes on while `run.can_execute()`, which looks at the state of the
run and not at its steps, and no step that is executed ends the run. From a running run the loop
therefore ends by an exception or by one of its `return`s, and the code after it, which completes
the run, is not reached (`RunExecutor.executeLoop_guar`); when every step succeeds and nothing
disturbs the run, it does not end at all (`RunExecutor.mainLoop_diverges`).
-/

namespace AgentRuntime

open Interaction Service

namespace CancellationService

/-- Looking for a cancellation does not touch the local object. -/
theorem keeps_isCancelled (I : Run → Prop) (runId : UUID) : AlwaysKeeps I (isCancelled runId) := by
  refine Proc.keeps_bind (Proc.keeps_call trivial) fun flag =>
    Proc.keeps_ite (fun _ => Proc.keeps_pure _) fun _ =>
      Proc.keeps_bind (Proc.keeps_tryCall trivial) fun run? => ?_
  cases run? <;> exact Proc.keeps_pure _

/-- Acknowledging a cancellation works on the stored run, not on the local one. -/
theorem keeps_acknowledgeCancellation (I : Run → Prop) (runId : UUID) (workerId : String) :
    AlwaysKeeps I (acknowledgeCancellation runId workerId) := by
  refine Proc.keeps_bind (Proc.keeps_tryCall trivial) fun run? => ?_
  cases run? with
  | none => exact Proc.keeps_pure _
  | some run => exact Proc.keeps_withObject (J := fun _ => True) trivial fun _ _ => Prog.guar_trivial _

/-- Completing a cancellation works on the stored run, not on the local one. -/
theorem keeps_completeCancellation (I : Run → Prop) (runId : UUID) (workerId : String)
    (stepsCancelled : Nat) (cleanupPerformed : Bool) :
    AlwaysKeeps I (completeCancellation runId workerId stepsCancelled cleanupPerformed) := by
  refine Proc.keeps_bind (Proc.keeps_tryCall trivial) fun run? => ?_
  cases run? with
  | none => exact Proc.keeps_pure _
  | some run => exact Proc.keeps_withObject (J := fun _ => True) trivial fun _ _ => Prog.guar_trivial _

end CancellationService

/-! ## The states of a run that is being executed -/

namespace Run

/-- The run is running or waits for an approval. -/
def Active (self : Run) : Prop := self.state = .running ∨ self.state = .awaitingApproval

/-- Asking for approval keeps a run active, also when it is refused. -/
theorem keeps_active_requestApproval (now : Time) : (requestApproval now).Keeps Active := by
  rintro self (h | h)
  · rw [requestApproval, transition_on_of_valid (by rw [h]; rfl)]
    exact .inr rfl
  · rw [requestApproval, transition_on, h]
    exact .inr h

/-- A method of a step leaves the state of the run. -/
theorem keeps_active_stepMethod (i : Nat) (m : Method PyError RunStep Unit) :
    (stepMethod i m).Keeps Active :=
  keeps_stepMethod i m fun _ _ h => h

end Run

namespace RunExecutor

variable (self : RunExecutor)

/-- Handling a cancellation changes nothing of the run that the loop works on. -/
theorem keeps_handleCancellation (I : Run → Prop) : AlwaysKeeps I self.handleCancellation :=
  Proc.keeps_get_bind fun _ _ =>
    Proc.keeps_bind (CancellationService.keeps_acknowledgeCancellation I _ _) fun _ =>
      Proc.keeps_bind (CancellationService.keeps_completeCancellation I _ _ _ _) fun _ =>
        Proc.keeps_pure _

/-- Stopping the loop at a cancellation, or going on with `rest`: what `rest` guarantees of the run,
and of an exception or a `return` with the run as it is, the whole guarantees. -/
theorem guar_unlessCancelled {Q : Except PyError LoopExit × Run → Prop} {run : Run} (runId : UUID)
    {rest : Service Run LoopExit} (hreturned : Q (.ok .returned, run))
    (herror : ∀ e, Q (.error e, run))
    (hrest : (rest.on run).Guar (fun _ _ => True) (fun _ => True) Q) :
    ((do
      if ← CancellationService.isCancelled runId then
        self.handleCancellation
        return .returned
      else
        rest : Service Run LoopExit).on run).Guar (fun _ _ => True) (fun _ => True) Q := by
  rw [Proc.on_bind]
  refine Proc.guar_bind (CancellationService.keeps_isCancelled (· = run) runId run rfl) ?_ ?_
  · rintro cancelled _ rfl
    rw [Proc.on_ite]
    split
    · rw [Proc.on_bind]
      refine Proc.guar_bind (self.keeps_handleCancellation (· = _) _ rfl) ?_ ?_
      · rintro _ _ rfl; exact hreturned
      · rintro e _ rfl; exact herror e
    · exact hrest
  · rintro e _ rfl; exact herror e

/-- From a running run, the main loop does not end by its condition, and the run stays active:
while it runs the condition holds, and a run that waits for an approval leaves the loop by
`return`. -/
theorem mainLoop_guar (fuel : Nat) {run : Run} (h : run.state = .running) :
    ((self.mainLoop fuel).on run).Guar (fun _ _ => True) (fun _ => True)
      fun r => r.1 ≠ .ok .exhausted ∧ r.2.Active := by
  induction fuel generalizing run with
  | zero => trivial
  | succ fuel ih =>
    have hcan : run.canExecute = true := by simp [Run.canExecute, h]
    rw [mainLoop, Proc.on_bind, Proc.on_get, Prog.ret_bind, Proc.thenOn_ok, Proc.on_ite, if_pos hcan]
    refine self.guar_unlessCancelled run.id ⟨by simp, .inl h⟩ (fun _ => ⟨by simp, .inl h⟩) ?_
    rw [Proc.on_bind]
    refine Proc.guar_bind (keeps_executeStep Run.keeps_active_requestApproval
      Run.keeps_active_stepMethod self run (.inl h)) ?_ fun e _ hactive => ⟨by simp, hactive⟩
    intro _ run' hactive
    rw [Proc.on_bind, Proc.on_get, Prog.ret_bind, Proc.thenOn_ok, Proc.on_ite]
    split
    · exact ⟨by simp, hactive⟩
    · next hawaiting =>
      have hrunning : run'.state = .running := hactive.resolve_right hawaiting
      exact self.guar_unlessCancelled run'.id ⟨by simp, hactive⟩ (fun _ => ⟨by simp, hactive⟩)
        (ih hrunning)

/-- From a running run, the rest of `execute_run` leaves the run active: the code that completes it
is not reached. -/
theorem executeLoop_guar (fuel : Nat) {run : Run} (h : run.state = .running) :
    ((self.executeLoop fuel).on run).Guar (fun _ _ => True) (fun _ => True) fun r => r.2.Active := by
  rw [executeLoop, Proc.on_bind]
  refine Proc.guar_bind (self.mainLoop_guar fuel h) ?_ fun _ _ hr => hr.2
  rintro (_ | _) run' ⟨hexit, hactive⟩
  · exact hactive
  · exact absurd rfl hexit

/-! ## A loop that nothing disturbs -/

/-- Nobody cancels the run, and every repository call succeeds. -/
def Undisturbed : (o : Call) → o.Ans → Prop
  | .checkFlag _, r => r = false
  | .runGet _, r => ∃ run?, r = .ok run? ∧ ∀ run ∈ run?, run.cancelRequestedAt = none
  | .runUpdate _, r => ∃ run, r = .ok run
  | .updateStep _ _, r => r = .ok ()
  | _, _ => True

/-- Where nobody disturbs the run, no cancellation is found. -/
theorem isCancelled_guar_of_undisturbed (runId : UUID) (run : Run) :
    ((CancellationService.isCancelled runId : Service Run Bool).on run).Guar Undisturbed (fun _ => True)
      fun r => r = (.ok false, run) := by
  simp only [CancellationService.isCancelled, Proc.on_bind, Proc.on_call, Prog.call_bind,
    Prog.ret_bind, Proc.thenOn_ok, Prog.guar_call, true_and]
  rintro _ rfl
  simp only [Bool.false_eq_true, if_false, Proc.on_bind, Proc.on_tryCall,
    Prog.call_bind, Prog.ret_bind, Prog.guar_call, true_and]
  rintro _ ⟨run?, rfl, hrun⟩
  cases run? with
  | none => simp
  | some stored => simp [hrun stored rfl]

/-- A loop whose steps succeed and leave the run running, and that nothing disturbs, returns for no
fuel: it never ends. -/
theorem mainLoop_diverges {I : Run → Prop}
    (hstep : ∀ run, I run → run.state = .running → (self.executeStep.on run).Guar Undisturbed
      (fun _ => True) fun r => r.1 = .ok () ∧ r.2.state = .running ∧ I r.2)
    (fuel : Nat) {run : Run} (hI : I run) (h : run.state = .running) :
    ((self.mainLoop fuel).on run).Guar Undisturbed (fun _ => True) fun _ => False := by
  induction fuel generalizing run with
  | zero => trivial
  | succ fuel ih =>
    have hcan : run.canExecute = true := by simp [Run.canExecute, h]
    rw [mainLoop, Proc.on_bind, Proc.on_get, Prog.ret_bind, Proc.thenOn_ok, Proc.on_ite, if_pos hcan,
      Proc.on_bind]
    refine Proc.guar_bind (isCancelled_guar_of_undisturbed run.id run) ?_ (by rintro _ _ ⟨⟩)
    rintro _ _ ⟨⟩
    rw [Proc.on_ite, if_neg (by decide), Proc.on_bind]
    refine Proc.guar_bind (hstep run hI h) ?_ (by rintro _ _ ⟨⟨⟩, _⟩)
    rintro _ run' ⟨-, h', hI'⟩
    rw [Proc.on_bind, Proc.on_get, Prog.ret_bind, Proc.thenOn_ok, Proc.on_ite,
      if_neg (by rw [h']; decide), Proc.on_bind]
    refine Proc.guar_bind (isCancelled_guar_of_undisturbed run'.id run') ?_ (by rintro _ _ ⟨⟩)
    rintro _ _ ⟨⟩
    rw [Proc.on_ite, if_neg (by decide)]
    exact ih hI' h'

/-- A step that neither calls a tool nor asks for approval, and that no other worker has started. -/
def Placeholder (step : RunStep) : Prop :=
  step.kind ≠ .toolCall ∧ step.kind ≠ .approvalRequest ∧ step.state ≠ .running

/-- A queued step is started where it stands. -/
theorem guar_startAt {A : (o : Call) → o.Ans → Prop} {run : Run} {i : Nat} {step : RunStep}
    (hstep : run.steps[i]? = some step) (hqueued : step.state = .queued) :
    ((stepMethodAt i RunStep.start).on run).Guar A (fun _ => True) fun r =>
      ∃ now, r = (.ok (), { run with
        steps := run.steps.set i { step with state := .running, updatedAt := now } }) := by
  refine (guar_stepMethodAt hstep _).mono (fun _ => id) ?_
  rintro _ ⟨now, rfl⟩
  exact ⟨now, by simp [RunStep.start, hqueued]⟩

/-- A running step is completed where it stands. -/
theorem guar_completeAt {A : (o : Call) → o.Ans → Prop} {run : Run} {i : Nat} {step : RunStep}
    (hstep : run.steps[i]? = some step) (hrunning : step.state = .running) (output : Json) :
    ((stepMethodAt i (RunStep.complete output)).on run).Guar A (fun _ => True) fun r =>
      ∃ now, r = (.ok (), { run with
        steps := run.steps.set i
          { step with state := .succeeded, outputData := some output, updatedAt := now } }) := by
  refine (guar_stepMethodAt hstep _).mono (fun _ => id) ?_
  rintro _ ⟨now, rfl⟩
  exact ⟨now, by simp [RunStep.complete, hrunning]⟩

/-- There a step can be stored. -/
theorem guar_updateStepAt_of_undisturbed (i : Nat) (run : Run) :
    ((updateStepAt i).on run).Guar Undisturbed (fun _ => True) fun r => r = (.ok (), run) := by
  simp only [updateStepAt, Proc.on_bind, Proc.on_get, Prog.ret_bind, Proc.thenOn_ok]
  cases run.steps[i]? with
  | none => rfl
  | some step => exact ⟨trivial, by rintro _ rfl; rfl⟩

/-- The body of a placeholder step completes the step where it stands. -/
theorem guar_completeOtherStepAt {A : (o : Call) → o.Ans → Prop} {run : Run} {i : Nat}
    {step : RunStep} (hstep : run.steps[i]? = some step) (hrunning : step.state = .running) :
    ((do
      let output ← executeOtherStep
      stepMethodAt i (RunStep.complete output) : Service Run Unit).on run).Guar A (fun _ => True)
      fun r => ∃ now, r = (.ok (), { run with
        steps := run.steps.set i { step with
          state := .succeeded, outputData := some (.str "step result"), updatedAt := now } }) := by
  have hother : (executeOtherStep.on run).Guar A (fun _ => True)
      fun r => r = (.ok (.str "step result"), run) := by
    simp [executeOtherStep]
  rw [Proc.on_bind]
  refine Proc.guar_bind hother ?_ (by rintro _ _ ⟨⟩)
  rintro _ _ ⟨⟩
  exact guar_completeAt hstep hrunning _

/-- Undisturbed, the next step of a run of placeholder steps succeeds. -/
theorem executeStep_guar_of_placeholder {run : Run} (hI : ∀ step ∈ run.steps, Placeholder step)
    (h : run.state = .running) :
    (self.executeStep.on run).Guar Undisturbed (fun _ => True)
      fun r => r.1 = .ok () ∧ r.2.state = .running ∧ ∀ step ∈ r.2.steps, Placeholder step := by
  rw [executeStep, Proc.on_bind, Proc.on_get, Prog.ret_bind, Proc.thenOn_ok]
  rcases hnext : getNextPendingStep run with _ | i
  · exact ⟨rfl, h, hI⟩
  · obtain ⟨step, hstep, hstate⟩ := getElem?_of_getNextPendingStep hnext
    have hplaceholder := hI step (List.mem_of_getElem? hstep)
    have hqueued := hstate.resolve_right hplaceholder.2.2
    have hkind : self.executeStepKind step = executeOtherStep := by
      obtain ⟨htool, happroval, -⟩ := hplaceholder
      unfold executeStepKind
      split <;> first | exact absurd ‹_› htool | exact absurd ‹_› happroval | rfl
    have hplaced (step' : RunStep) (hstep' : Placeholder step') :
        ∀ s ∈ run.steps.set i step', Placeholder s := fun s hs =>
      (List.mem_or_eq_of_mem_set hs).elim (hI s) (· ▸ hstep')
    simp only [hstep]
    rw [executeStepAt, Proc.on_bind]
    refine Proc.guar_bind (guar_startAt hstep hqueued) ?_ (by rintro _ _ ⟨_, ⟨⟩⟩)
    rintro _ run₁ ⟨started, heq₁⟩
    have hrun₁ : run₁ = _ := congrArg Prod.snd heq₁
    have hrunning : run₁.steps[i]? = some { step with state := .running, updatedAt := started } := by
      rw [hrun₁]; exact getElem?_set_of_getElem? hstep _
    rw [Proc.on_bind]
    refine Proc.guar_bind (guar_updateStepAt_of_undisturbed i run₁) ?_ (by rintro _ _ ⟨⟩)
    rintro _ _ ⟨⟩
    rw [Proc.on_bind, hkind]
    refine Proc.guar_bind (Proc.guar_tryCatch_of_ok (guar_completeOtherStepAt hrunning rfl)
      (by rintro _ _ ⟨_, ⟨⟩⟩) _) ?_ (by rintro _ _ ⟨_, ⟨⟩⟩)
    rintro _ run₂ ⟨completed, heq₂⟩
    have hrun₂ : run₂ = _ := congrArg Prod.snd heq₂
    rw [Proc.on_bind]
    refine Proc.guar_bind (guar_updateStepAt_of_undisturbed i run₂) ?_ (by rintro _ _ ⟨⟩)
    rintro _ _ ⟨⟩
    refine ⟨trivial, ?_⟩
    rintro _ ⟨updated, rfl⟩
    refine ⟨rfl, by rw [hrun₂, hrun₁]; exact h, ?_⟩
    have hdone : Placeholder { step with
        state := .succeeded, outputData := some (.str "step result"), updatedAt := completed } :=
      ⟨hplaceholder.1, hplaceholder.2.1, by simp⟩
    rw [hrun₂, hrun₁]
    simpa using hplaced _ hdone

/-! ## Success of the loop -/

/-- The steps that a run of the executor starts, in order: those that it stores as running. -/
def startedSteps (calls : List Call) : List UUID :=
  calls.filterMap fun
    | .updateStep _ step => if step.state = .running then some step.id else none
    | _ => none

/-- From the main loop on, `execute_run` returns after finitely many iterations, has started each
queued step once and in list order, and leaves the run SUCCEEDED. -/
def LoopSucceeds {W : Type} (env : CallEnv W) (run : Run) (w : W) : Prop :=
  ∃ fuel run',
    (((self.executeLoop fuel).on run).exec env w).result = some (.ok (), run') ∧
    run'.state = .succeeded ∧
    startedSteps (((self.executeLoop fuel).on run).exec env w).calls =
      (run.steps.filter fun step => step.state = .queued).map RunStep.id

/-- A running run that enters the main loop is never completed by it: there is no branch for a run with no
step left, so the loop sleeps and goes round for as long as nothing else ends it. -/
theorem not_loopSucceeds {W : Type} (env : CallEnv W) (w : W) {run : Run}
    (h : run.state = .running) : ¬self.LoopSucceeds env run w := by
  rintro ⟨fuel, run', hresult, hsucceeded, -⟩
  have hactive := ((self.executeLoop_guar fuel h).exec env (fun _ _ => trivial) w).2 _ hresult
  rcases hactive with hactive | hactive <;> rw [hsucceeded] at hactive <;> cases hactive

/-- A run with one call of a model is not completed. -/
theorem not_loopSucceeds_sample :
    ¬LoopSucceeds ⟨"worker", fun _ _ => none⟩ quietEnv
      (Run.sample .running [RunStep.sample .modelCall none]) () :=
  not_loopSucceeds _ quietEnv () rfl

/-- One queued step that succeeds, no cancellation, no approval, no failing call: the step is
executed, the loop returns for no fuel, and the run is not completed. -/
theorem loop_of_one_successful_step_diverges :
    let self : RunExecutor := ⟨"worker", fun _ _ => none⟩
    let run := Run.sample .running [RunStep.sample .modelCall none]
    (∀ o : Call, Undisturbed o (quietEnv o ()).1) ∧
      ((self.executeStep.on run).exec quietEnv ()).result.map (fun r => r.2.steps.map RunStep.state) =
        some [.succeeded] ∧
      (∀ fuel, (((self.mainLoop fuel).on run).exec quietEnv ()).result = none) ∧
      ¬self.LoopSucceeds quietEnv run () := by
  intro self run
  have hquiet (o : Call) : Undisturbed o (quietEnv o ()).1 := by
    cases o <;> simp [Undisturbed, quietEnv, Call.quiet]
  have hplaceholder : ∀ step ∈ run.steps, Placeholder step := by
    simp [run, Run.sample, RunStep.sample, Placeholder]
  refine ⟨hquiet, by decide, fun fuel => ?_, ?_⟩
  · have hguar := self.mainLoop_diverges (fun _ => self.executeStep_guar_of_placeholder) fuel
      hplaceholder (rfl : run.state = .running)
    exact Option.eq_none_iff_forall_ne_some.2 fun r hr =>
      (hguar.exec quietEnv (fun o _ => hquiet o) ()).2 r hr
  · rintro ⟨fuel, run', hresult, hsucceeded, -⟩
    have hactive := ((self.executeLoop_guar fuel (rfl : run.state = .running)).exec quietEnv
      (fun _ _ => trivial) ()).2 _ hresult
    rcases hactive with hactive | hactive <;> rw [hsucceeded] at hactive <;> cases hactive

end RunExecutor

end AgentRuntime
