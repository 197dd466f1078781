import AgentRuntime.Domain.RunLog
import AgentRuntime.Runtime.Call

/-!
# Terminal events

The operations that end a run log a closing event behind the `RunStateChanged` of the transition, and build
it from the run as the transition has left it. The closing event of a timeout is to carry the state that the
run was in, and that is gone by then: it carries TIMED_OUT. So the closing events of a sequence of
operations describe the run exactly while nothing times it out (`endings_described_iff`).
-/

namespace AgentRuntime

open Interaction

namespace Run

/-- The event closes the transition that was logged right before it, from `before` to `run`. -/
def Closes (before run : Run) : DomainEvent → DomainEvent → Prop
  | .runStateChanged _ _ oldState newState reason, ending =>
    oldState = before.state ∧ newState = run.state ∧ ending.endState? = some newState ∧
      match ending with
      | .runCompleted _ _ outputData totalCost stepsCount =>
        run.outputData = some outputData ∧ run.spentCost.microUnits = .ok totalCost ∧
          run.steps.length = stepsCount
      | .runFailed _ _ error _ => reason = some error
      | .runCancelled _ _ reason' => reason' = reason
      | .runTimedOut _ _ lastState => lastState = oldState
      | _ => True
  | _, _ => False

/-- Each closing event among the events that were logged on the way from `before` to `run` directly follows
the transition that it closes. -/
def EndingsClose (before run : Run) (logged : List DomainEvent) : Prop :=
  ∀ i ending, logged[i]? = some ending → ending.endState?.isSome = true →
    ∃ j change, i = j + 1 ∧ logged[j]? = some change ∧ before.Closes run change ending

/-- What was logged on the way from `before` to `run` is in order. -/
def InOrder (before run : Run) : Prop :=
  ∃ logged, run.events = before.events ++ logged ∧ before.EndingsClose run logged

/-- What each call adds to the log is in order. -/
def EndingsDescribed (run : Run) (calls : List RunCall) : Prop :=
  Along RunCall.apply (fun run call => run.InOrder (call.apply run)) run calls

/-! ## The events of one call -/

section
variable {before run : Run} {logged : List DomainEvent} {change ending : DomainEvent}

/-- Where nothing logged is a closing event, there is none that would have to follow its transition. -/
theorem endingsClose_of_quiet (h : ∀ event ∈ logged, event.endState? = none) :
    before.EndingsClose run logged := by
  intro i ending hi hending
  rw [h ending (List.mem_of_getElem? hi)] at hending
  cases hending

/-- A transition and a closing event. -/
theorem endingsClose_pair (hchange : change.endState? = none) (hending : ending.endState?.isSome = true) :
    before.EndingsClose run [change, ending] ↔ before.Closes run change ending := by
  constructor
  · intro h
    obtain ⟨j, change', hj, hchange', hcloses⟩ := h 1 ending rfl hending
    obtain rfl : j = 0 := by omega
    obtain rfl := Option.some.inj hchange'
    exact hcloses
  · intro h i ending' hi hending'
    cases i with
    | zero =>
      obtain rfl := Option.some.inj hi
      rw [hchange] at hending'
      cases hending'
    | succ i =>
      cases i with
      | zero =>
        obtain rfl := Option.some.inj hi
        exact ⟨0, change, rfl, rfl, h⟩
      | succ i => cases hi

/-- Since `before`, no closing event was logged. -/
def QuietSince (before run : Run) : Prop :=
  ∃ logged, run.events = before.events ++ logged ∧ ∀ event ∈ logged, event.endState? = none

/-- Nothing has been logged at first. -/
theorem QuietSince.refl (run : Run) : run.QuietSince run := ⟨[], by simp, by simp⟩

/-- A change that logs nothing keeps the quiet. -/
theorem QuietSince.of_eq {run' : Run} (h : before.QuietSince run) (hevents : run'.events = run.events) :
    before.QuietSince run' := by
  obtain ⟨logged, hlogged, hquiet⟩ := h
  exact ⟨logged, hevents.trans hlogged, hquiet⟩

/-- So does an event that is no ending. -/
theorem QuietSince.concat {run' : Run} {event : DomainEvent} (h : before.QuietSince run)
    (hevents : run'.events = run.events ++ [event]) (hevent : event.endState? = none) :
    before.QuietSince run' := by
  obtain ⟨logged, hlogged, hquiet⟩ := h
  refine ⟨logged ++ [event], by rw [hevents, hlogged, List.append_assoc], fun event' hevent' => ?_⟩
  rcases List.mem_append.1 hevent' with hmem | hmem
  · exact hquiet event' hmem
  · rwa [List.mem_singleton.1 hmem]

/-- A bare transition is quiet, even one that is refused. -/
theorem keeps_quietSince_transition (newState : RunState) (reason : Option String) (now : Time) :
    (transition newState reason now).Keeps before.QuietSince := by
  intro run h
  rw [transition_on]
  split
  · exact h
  · split
    · exact h
    · exact h.concat rfl rfl

/-- A method that logs such an event keeps the quiet. -/
theorem keeps_quietSince_addEvent {event : DomainEvent} (hevent : event.endState? = none) :
    (addEvent event).Keeps before.QuietSince := fun _ h => h.concat rfl hevent

/-- Assignments are quiet. -/
theorem keeps_quietSince_modify {f : Run → Run} (hf : ∀ run, (f run).events = run.events) :
    (modify f : Method PyError Run PUnit).Keeps before.QuietSince := fun run h => h.of_eq (hf run)

/-- A method of a step logs nothing. -/
theorem keeps_quietSince_stepMethod (i : Nat) (m : Method PyError RunStep Unit) :
    (stepMethod i m).Keeps before.QuietSince :=
  keeps_stepMethod i m fun _ _ h => h.of_eq rfl

/-- Recording a cost logs no ending. -/
theorem keeps_quietSince_recordCost (cost : Money) (now : Time) :
    (recordCost cost now).Keeps before.QuietSince := by
  refine Method.keeps_get_bind fun _ _ => Method.keeps_bind (Method.keeps_ofExcept _) fun _ => ?_
  refine Method.keeps_ite (fun _ => Method.keeps_throw _) fun _ => ?_
  refine Method.keeps_bind (keeps_quietSince_modify fun _ => rfl) fun _ => ?_
  exact keeps_quietSince_modify fun _ => rfl

end

end Run

namespace RunOperation

/-- The operation ends the run, or tries to. -/
def ends : RunOperation → Bool
  | complete _ | fail _ _ | cancel _ | timeout => true
  | _ => false

/-- An event that is added by itself is not a closing event. -/
def AddsNoEnding : RunOperation → Prop
  | addEvent event => event.endState? = none
  | _ => True

/-- An operation that does not end the run is quiet. -/
theorem keeps_quietSince {op : RunOperation} (hends : op.ends = false) (hadds : op.AddsNoEnding)
    (now : Time) (before : Run) : (op.method now).Keeps before.QuietSince := by
  cases op with
  | start =>
    refine Method.keeps_bind (Run.keeps_quietSince_transition _ _ _) fun _ => ?_
    refine Method.keeps_bind (Run.keeps_quietSince_modify fun _ => rfl) fun _ => ?_
    refine Method.keeps_bind (Method.keeps_ofExcept _) fun _ => ?_
    exact Run.keeps_quietSince_modify fun _ => rfl
  | scheduleRetry =>
    refine Method.keeps_bind (Run.keeps_quietSince_transition _ _ _) fun _ => ?_
    exact Run.keeps_quietSince_modify fun _ => rfl
  | renewLease leaseOwner leaseDurationSeconds leaseBase leaseSecond =>
    refine Method.keeps_bind (Run.keeps_renewLease _ _ _ _ _ ?_ ?_) fun _ => Method.keeps_pure _
    · exact fun _ _ h => h.of_eq rfl
    · exact fun _ _ h => h.of_eq rfl
  | addStep sequence kind inputData stepId =>
    refine Method.keeps_bind (Run.keeps_addStep _ _ _ _ _ ?_ ?_) fun _ => Method.keeps_pure _
    · exact fun _ _ h => h.of_eq rfl
    · exact fun _ => Run.keeps_quietSince_addEvent rfl
  | recordTokenUsage =>
    exact Method.keeps_ite (fun _ => Run.keeps_quietSince_recordCost _ _) fun _ => Method.keeps_pure _
  | recordCost cost => exact Run.keeps_quietSince_recordCost cost now
  | startStep i => exact Run.keeps_quietSince_stepMethod i _
  | completeStep i => exact Run.keeps_quietSince_stepMethod i _
  | failStep i => exact Run.keeps_quietSince_stepMethod i _
  | addEvent event => exact Run.keeps_quietSince_addEvent hadds
  | setCancelRequestedAt => exact Run.keeps_quietSince_modify fun _ => rfl
  | requestApproval => exact Run.keeps_quietSince_transition _ _ _
  | resumeFromApproval => exact Run.keeps_quietSince_transition _ _ _
  | requeue => exact Run.keeps_quietSince_transition _ _ _
  | _ => cases hends

end RunOperation

namespace Run

/-! ## One call -/

section
variable {run : Run} {now : Time}

/-- A run that is quiet since then is in order. -/
theorem QuietSince.inOrder {run' : Run} (h : run.QuietSince run') : run.InOrder run' := by
  obtain ⟨logged, hlogged, hquiet⟩ := h
  exact ⟨logged, hlogged, endingsClose_of_quiet hquiet⟩

/-- After a transition and a closing event, the log is in order exactly if the event closes the
transition. -/
theorem inOrder_iff_closes {run' : Run} {newState : RunState} {reason : Option String}
    {ending : DomainEvent} (hevents : run'.events = run.events ++ [run.changedEvent newState reason, ending])
    (hending : ending.endState?.isSome = true) :
    run.InOrder run' ↔ run.Closes run' (run.changedEvent newState reason) ending := by
  rw [← endingsClose_pair rfl hending]
  constructor
  · rintro ⟨logged, hlogged, hclose⟩
    rwa [List.append_cancel_left (hlogged.symm.trans hevents)] at hclose
  · exact fun h => ⟨_, hevents, h⟩

/-- An operation that is refused is in order. -/
theorem inOrder_of_not_valid (op : RunOperation) {newState : RunState} (htarget : op.target = some newState)
    (hvalid : run.state.canTransitionTo newState = false) : run.InOrder ((op.method now).on run).2 := by
  obtain ⟨_, hon⟩ := unchanged_of_not_valid htarget hvalid now
  rw [hon]
  exact (QuietSince.refl run).inOrder

/-- The closing event of a completed run has its output, its spent cost and its number of steps. A run whose
spent cost is an integer gets no closing event. -/
theorem complete_inOrder (outputData : Dict) : run.InOrder ((complete outputData now).on run).2 := by
  cases hvalid : run.state.canTransitionTo .succeeded with
  | false => exact inOrder_of_not_valid (.complete outputData) rfl hvalid
  | true =>
    cases hspent : run.spentCost.microUnits with
    | ok totalCost =>
      rw [complete_on_of_valid hvalid hspent outputData]
      refine (inOrder_iff_closes rfl rfl).2 ?_
      exact ⟨rfl, rfl, rfl, rfl, hspent, rfl⟩
    | error e =>
      have hon : (complete outputData now).on run = (.error e, { run with
          state := .succeeded, updatedAt := now, outputData := outputData,
          events := run.events ++ [run.changedEvent .succeeded none] }) := by
        simp only [complete, Method.on_bind, transition_on_of_valid hvalid, Method.on_modify,
          Method.on_get, hspent, Method.on_ofExcept]
        rfl
      rw [hon]
      exact ((QuietSince.refl run).concat rfl rfl).inOrder

/-- The closing event of a failed run has the error, which is the reason of the transition. -/
theorem fail_inOrder (error : String) (failedStep : Option Int) :
    run.InOrder ((fail error failedStep now).on run).2 := by
  cases hvalid : run.state.canTransitionTo .failed with
  | false => exact inOrder_of_not_valid (.fail error failedStep) rfl hvalid
  | true =>
    rw [fail_on_of_valid hvalid error failedStep]
    refine (inOrder_iff_closes rfl rfl).2 ?_
    exact ⟨rfl, rfl, rfl, rfl⟩

/-- The closing event of a cancelled run has the reason. -/
theorem cancel_inOrder (reason : Option String) : run.InOrder ((cancel reason now).on run).2 := by
  cases hvalid : run.state.canTransitionTo .cancelled with
  | false => exact inOrder_of_not_valid (.cancel reason) rfl hvalid
  | true =>
    rw [cancel_on_of_valid hvalid]
    refine (inOrder_iff_closes rfl rfl).2 ?_
    exact ⟨rfl, rfl, rfl, rfl⟩

/-- The closing event of a timeout has the state after the transition. -/
theorem timeout_inOrder_iff : run.InOrder ((timeout now).on run).2 ↔ run.state.isTerminal = true := by
  cases hvalid : run.state.canTransitionTo .timedOut with
  | false =>
    exact iff_of_true (inOrder_of_not_valid .timeout rfl hvalid)
      (RunState.isTerminal_of_not_cancellable (.inr hvalid))
  | true =>
    have hlive := isTerminal_of_valid hvalid
    rw [timeout_on_of_valid hvalid, inOrder_iff_closes rfl rfl]
    refine iff_of_false ?_ (by simp [hlive])
    rintro ⟨-, -, -, hlast⟩
    rw [← hlast] at hlive
    cases hlive

/-- A call leaves the log in order exactly if it does not time the run out. -/
theorem inOrder_apply_iff {call : RunCall} (hadds : call.op.AddsNoEnding) :
    run.InOrder (call.apply run) ↔ (call.op = .timeout → run.state.isTerminal = true) := by
  obtain ⟨op, now⟩ := call
  cases hends : op.ends with
  | false =>
    refine iff_of_true (op.keeps_quietSince hends hadds now run run (.refl run)).inOrder ?_
    rintro rfl
    cases hends
  | true =>
    cases op with
    | complete outputData => exact iff_of_true (complete_inOrder outputData) (by simp)
    | fail error failedStep => exact iff_of_true (fail_inOrder error failedStep) (by simp)
    | cancel reason => exact iff_of_true (cancel_inOrder reason) (by simp)
    | timeout => exact timeout_inOrder_iff.trans (by simp)
    | _ => cases hends

end

/-! ## Sequences of calls -/

/-- The closing events of a sequence of operations describe the run exactly if none of them times it out.
`timeout` reads the state for its event after it has changed it. -/
theorem endings_described_iff (run : Run) (calls : List RunCall)
    (hadds : ∀ call ∈ calls, call.op.AddsNoEnding) :
    run.EndingsDescribed calls ↔
      Along RunCall.apply (fun run call => call.op = .timeout → run.state.isTerminal = true) run calls :=
  along_iff (I := fun _ => True) trivial (fun _ call hcall _ => inOrder_apply_iff (hadds call hcall))
    fun _ _ _ _ _ => trivial

/-- A run with a recorded cost and a step that is completed, and then times out in vain. -/
theorem endings_described_iff_sample :
    let run : Run := .sample .queued []
    let calls : List RunCall := [⟨.start "w" 30 0 0, 1⟩, ⟨.addStep 0 .toolCall none ⟨9⟩, 2⟩,
      ⟨.recordCost ⟨5⟩, 3⟩, ⟨.complete [], 4⟩, ⟨.timeout, 5⟩]
    (∀ call ∈ calls, call.op.AddsNoEnding) ∧ run.EndingsDescribed calls := by
  intro run calls
  have hadds : ∀ call ∈ calls, call.op.AddsNoEnding := by simp [calls, RunOperation.AddsNoEnding]
  refine ⟨hadds, (endings_described_iff run calls hadds).2 ?_⟩
  have hended : (after RunCall.apply run (calls.take 4)).state.isTerminal = true := by decide
  exact ⟨by simp, by simp, by simp, by simp, fun _ => hended, trivial⟩

/-- A running run times out; its closing event says that it was TIMED_OUT when it did. -/
theorem not_endings_described : ¬∀ (run : Run) (calls : List RunCall),
    (∀ call ∈ calls, call.op.AddsNoEnding) → run.EndingsDescribed calls := by
  intro h
  have hdescribed := h (.sample .running []) [⟨.timeout, 1⟩] (by simp [RunOperation.AddsNoEnding])
  exact absurd (timeout_inOrder_iff.1 hdescribed.1) (by decide)

end Run

end AgentRuntime
