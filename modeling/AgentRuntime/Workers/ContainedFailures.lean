import AgentRuntime.Domain.RunLog
import AgentRuntime.Interaction.BigStep
import AgentRuntime.Workers.RunExecutor

/-!
# What `execute_run` contains

`execute_run` answers an exception of its `try` block by failing the run (`failRun`). It loads the memory
context of the run before that block, and this reads an attribute that no run has: for a run that is found
the call raises, and leaves the run in the state in which it was stored (`executeLoaded_endsOn`). So the
call contains its failures only if there is no run to execute (`contained_iff`).

The handler itself raises where the run cannot fail any more, or not yet, and where its repository call
raises (`failRun_returns_iff`).
-/

namespace AgentRuntime

open Interaction Service

namespace RunExecutor

/-- What `execute_run` does with the run it has found. -/
def executeLoaded (self : RunExecutor) (fuel : Nat) : Service Run Unit := do
  let memoryContext ← loadMemoryContext
  setMemoryContext memoryContext
  tryCatch (self.startAndLoop fuel) failRun

/-- `execute_run` loads the run, and goes on with it if there is one. -/
theorem executeRun_eq (self : RunExecutor) (fuel : Nat) (runId : UUID) :
    self.executeRun fuel runId = (do
      match ← runGet runId with
      | none => return
      | some run => Proc.withObject run (self.executeLoaded fuel)) := rfl

variable {W : Type}

/-- The call on the run raises before its `try` block, and leaves the run as it is. -/
theorem executeLoaded_endsOn (self : RunExecutor) (fuel : Nat) (env : CallEnv W) (run : Run) (w : W) :
    Proc.EndsOn env (self.executeLoaded fuel) run w (.error (noSlotError "agent_version")) run w := by
  have hattribute : Proc.EndsOn env agentVersion run w (.error (noSlotError "agent_version")) run w :=
    Proc.endsOn_throw _
  have hload : Proc.EndsOn env loadMemoryContext run w (.error (noSlotError "agent_version")) run w :=
    Proc.endsOn_get.bind hattribute.bind_error
  exact hload.bind_error

/-- A run that nobody executes any more may be in these states. -/
def Settled (run : Run) : Prop := run.state.isTerminal = true ∨ run.state = .awaitingApproval

/-- The call returns, and leaves a run that it has found in a state where nobody has to execute it. -/
structure Contained (executor : RunExecutor) (fuel : Nat) (env : CallEnv W) (w : W) (runId : UUID) :
    Prop where
  returns : ∃ w', Proc.EndsOn env (executor.executeRun fuel runId) () w (.ok ()) () w'
  settled : ∀ run, (env (Call.runGet runId) w).1 = .ok (some run) →
    ∀ x run' w',
      Proc.EndsOn env (executor.executeLoaded fuel) run (env (Call.runGet runId) w).2 x run' w' →
      Settled run'

/-- The call contains its failures exactly if there is no run to execute: a run that is loaded raises at its
agent version, before the `try` whose handlers would fail it. -/
theorem contained_iff (self : RunExecutor) (fuel : Nat) (env : CallEnv W) (w : W) (runId : UUID) :
    Contained self fuel env w runId ↔ (env (Call.runGet runId) w).1 = .ok none := by
  have hends : Proc.EndsOn env (self.executeRun fuel runId) () w
      (afterGet (env (Call.runGet runId) w).1).1 () (env (Call.runGet runId) w).2 := by
    unfold Proc.EndsOn
    rw [executeRun_on]
    exact ⟨rfl, rfl⟩
  constructor
  · rintro ⟨⟨w', hreturns⟩, -⟩
    obtain ⟨hresult, -, -⟩ := hends.unique hreturns
    rcases hfound : (env (Call.runGet runId) w).1 with e | _ | run
    · rw [hfound] at hresult
      cases hresult
    · rfl
    · rw [hfound] at hresult
      cases hresult
  · intro hnone
    rw [hnone] at hends
    refine ⟨⟨_, hends⟩, fun run hrun => ?_⟩
    cases hnone.symm.trans hrun

/-- A repository that finds one run. -/
def foundEnv (run : Run) : CallEnv Unit
  | .runGet _, w => (.ok (some run), w)
  | o, w => (o.quiet, w)

/-- Every call succeeds, and the stored run is neither executed nor failed: the exception leaves
`execute_run`. -/
theorem not_contained :
    ¬∀ (W : Type) (self : RunExecutor) (fuel : Nat) (env : CallEnv W) (w : W) (runId : UUID) (run : Run),
      (env (Call.runGet runId) w).1 = .ok (some run) → Contained self fuel env w runId := by
  intro h
  have hcontained := h Unit ⟨"worker", fun _ _ => none⟩ 0 (foundEnv (Run.sample .queued [])) () ⟨1⟩
    (Run.sample .queued []) rfl
  have hends := executeLoaded_endsOn ⟨"worker", fun _ _ => none⟩ 0 (foundEnv (Run.sample .queued []))
    (Run.sample .queued []) ()
  rcases hcontained.settled (Run.sample .queued []) rfl _ _ _ hends with hterminal | hawaiting
  · cases hterminal
  · cases hawaiting

/-! ## The handler -/

/-- The handler returns exactly if the run can fail and is stored. -/
theorem failRun_returns_iff (env : CallEnv W) (e : PyError) (run : Run) (w : W) :
    (∃ run' w', Proc.EndsOn env (failRun e) run w (.ok ()) run' w') ↔
      run.state.canTransitionTo .failed = true ∧
      ∃ stored, (env (Call.runUpdate ((Run.fail e.str none (env Call.now w).1).on run).2)
        (env Call.now w).2).1 = .ok stored := by
  have hnow : Proc.EndsOn env (now : Service Run Time) run w (.ok (env Call.now w).1) run
      (env Call.now w).2 := Proc.endsOn_call Call.now
  generalize env Call.now w = clock at hnow
  cases hvalid : run.state.canTransitionTo .failed with
  | false =>
    obtain ⟨e', hfails⟩ : ∃ e', (Run.fail e.str none clock.1).on run = (.error e', run) :=
      Run.transition_bind_on_of_not_valid hvalid ..
    have hraises : Proc.EndsOn env (failRun e) run w (.error e') run clock.2 :=
      hnow.bind (Proc.endsOn_method hfails).bind_error
    refine iff_of_false ?_ (fun h => Bool.false_ne_true h.1)
    rintro ⟨run', w', hreturns⟩
    cases (hraises.unique hreturns).1
  | true =>
    have hfails : (Run.fail e.str none clock.1).on run =
        (.ok (), ((Run.fail e.str none clock.1).on run).2) := by
      rw [Run.fail_on_of_valid hvalid]
    generalize ((Run.fail e.str none clock.1).on run).2 = failed at hfails
    have hupdate : Proc.EndsOn env (runUpdate failed : Service Run Run) failed clock.2
        (env (Call.runUpdate failed) clock.2).1 failed (env (Call.runUpdate failed) clock.2).2 :=
      ⟨rfl, rfl⟩
    have hbefore {x : Except PyError Unit} {run' : Run} {w' : W} (hrest : Proc.EndsOn env (do
        let run ← get
        let _ ← runUpdate run : Service Run Unit) failed clock.2 x run' w') :
        Proc.EndsOn env (failRun e) run w x run' w' :=
      hnow.bind ((Proc.endsOn_method hfails).bind hrest)
    rw [eq_self_iff_true, true_and]
    cases hanswer : (env (Call.runUpdate failed) clock.2).1 with
    | error e' =>
      rw [hanswer] at hupdate
      refine iff_of_false ?_ (by rintro ⟨stored, ⟨⟩⟩)
      rintro ⟨run', w', hreturns⟩
      cases ((hbefore (Proc.endsOn_get.bind hupdate.bind_error)).unique hreturns).1
    | ok stored =>
      rw [hanswer] at hupdate
      have hreturns := hbefore (Proc.endsOn_get.bind (hupdate.bind (Proc.endsOn_pure ())))
      exact iff_of_true ⟨_, _, hreturns⟩ ⟨stored, rfl⟩

end RunExecutor

end AgentRuntime
