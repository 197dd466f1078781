import AgentRuntime.Domain.RunOperation
import AgentRuntime.Interaction.History

/-!
# The event log of a run

A state transition of the aggregate either takes an edge of the state machine, and logs it, or it
leaves the run as it was (`transition_cases`). After any sequence of them the log is a chain of edges
from the initial state to the current one, with one closing event if the run came to an end on the
way (`logLaw_of_transitions`).
-/

namespace AgentRuntime

open Interaction

/-! ## Calls -/

/-- An operation, and the time it reads from the clock. -/
structure RunCall where
  op : RunOperation
  now : Time

namespace RunCall

/-- The method that is called. -/
def method (call : RunCall) : Method PyError Run Unit := call.op.method call.now

/-- What the call makes of a run, whether it returns or raises. -/
def apply (call : RunCall) (run : Run) : Run := (call.method.on run).2

/-- The call raises on this run. -/
def Raises (call : RunCall) (run : Run) : Prop := ∃ e, (call.method.on run).1 = .error e

/-- A call leaves what its method leaves, whether that returns or raises. -/
theorem apply_eq {call : RunCall} {run run' : Run} {result : Except PyError Unit}
    (h : call.method.on run = (result, run')) : call.apply run = run' := by
  rw [apply, h]

/-- A call whose method returns does not raise. -/
theorem not_raises {call : RunCall} {run run' : Run} (h : call.method.on run = (.ok (), run')) :
    ¬call.Raises run := by
  rintro ⟨e, he⟩
  rw [h] at he
  cases he

end RunCall

namespace RunOperation

/-- If the operation starts the run, the second of the expiry time can be set. -/
def leaseComputed : RunOperation → Bool
  | start _ leaseDurationSeconds _ leaseSecond =>
    0 ≤ leaseSecond.second + leaseDurationSeconds ∧ leaseSecond.second + leaseDurationSeconds ≤ 59
  | _ => true

end RunOperation

/-! ## Events -/

namespace DomainEvent

/-- The edge of the state machine that a `RunStateChanged` event logs. -/
def stateChange? : DomainEvent → Option (RunState × RunState)
  | runStateChanged _ _ oldState newState _ => some (oldState, newState)
  | _ => none

/-- The state in which a run ends, by its closing event. -/
def endState? : DomainEvent → Option RunState
  | runCompleted _ _ _ _ _ => some .succeeded
  | runFailed _ _ _ _ => some .failed
  | runCancelled _ _ _ => some .cancelled
  | runTimedOut _ _ _ => some .timedOut
  | _ => none

end DomainEvent

/-- The edges that events log. -/
def stateChanges (events : List DomainEvent) : List (RunState × RunState) :=
  events.filterMap DomainEvent.stateChange?

/-- The end states that events announce. -/
def endStates (events : List DomainEvent) : List RunState := events.filterMap DomainEvent.endState?

/-- The state changes of a log that goes on are the earlier and the later ones. -/
@[simp] theorem stateChanges_append (events events' : List DomainEvent) :
    stateChanges (events ++ events') = stateChanges events ++ stateChanges events' :=
  List.filterMap_append

/-- So are the states of its endings. -/
@[simp] theorem endStates_append (events events' : List DomainEvent) :
    endStates (events ++ events') = endStates events ++ endStates events' :=
  List.filterMap_append

/-- Only an ended run can be neither cancelled nor timed out. -/
theorem RunState.isTerminal_of_not_cancellable {state : RunState}
    (h : state.canTransitionTo .cancelled = false ∨ state.canTransitionTo .timedOut = false) :
    state.isTerminal = true := by
  cases state <;> first | rfl | (rcases h with h | h <;> cases h)

namespace Run

/-! ## One transition -/

/-- `run'` is `run` after a transition to `newState`; `logged` are the events it emits. -/
structure Transitioned (run : Run) (newState : RunState) (logged : List DomainEvent) (run' : Run) :
    Prop where
  state : run'.state = newState
  attempt : run'.attempt = run.attempt + if newState = .retryScheduled then 1 else 0
  maxSteps : run'.maxSteps = run.maxSteps
  maxCost : run'.maxCost = run.maxCost
  spentCost : run'.spentCost = run.spentCost
  steps : run'.steps = run.steps
  events : run'.events = run.events ++ logged
  changes : stateChanges logged = [(run.state, newState)]
  ending : endStates logged = if newState.isTerminal then [newState] else []

/-- The operation has logged the transition to `newState`, and returned. -/
def Transits (method : Method PyError Run Unit) (run : Run) (newState : RunState) : Prop :=
  ∃ run' logged, method.on run = (.ok (), run') ∧ run.Transitioned newState logged run'

/-- The event of a transition. -/
def changedEvent (self : Run) (newState : RunState) (reason : Option String) : DomainEvent :=
  .runStateChanged self.tenantId self.agentVersionId self.state newState reason

section
variable {self : Run} {newState : RunState} {reason : Option String} {now : Time}

/-- A run that can take an edge has not ended. -/
theorem isTerminal_of_valid (h : self.state.canTransitionTo newState = true) :
    self.state.isTerminal = false := by
  by_contra hterminal
  rw [RunState.canTransitionTo_of_isTerminal (by simpa using hterminal)] at h
  cases h

/-- A run that can be started is running afterwards, with the lease of its worker and one event. -/
theorem start_on_of_valid (h : self.state.canTransitionTo .running = true)
    {leaseDurationSeconds : Int} {leaseBase leaseSecond leaseExpiresAt : Time}
    (hlease : leaseBase.replaceSecond (leaseSecond.second + leaseDurationSeconds) =
      .ok leaseExpiresAt) (leaseOwner : String) :
    (start leaseOwner leaseDurationSeconds now leaseBase leaseSecond).on self = (.ok (), { self with
      state := .running, updatedAt := now, leaseOwner := leaseOwner, leaseExpiresAt := leaseExpiresAt,
      events := self.events ++ [self.changedEvent .running none] }) := by
  simp only [start, Method.on_bind, transition_on_of_valid h, Method.on_modify, hlease,
    Method.on_ofExcept]
  rfl

/-- A run that can be retried counts one attempt more, and has one event for it. -/
theorem scheduleRetry_on_of_valid (h : self.state.canTransitionTo .retryScheduled = true) :
    (scheduleRetry now).on self = (.ok (), { self with
      state := .retryScheduled, updatedAt := now, attempt := self.attempt + 1,
      events := self.events ++ [self.changedEvent .retryScheduled none] }) := by
  simp only [scheduleRetry, Method.on_bind, transition_on_of_valid h, Method.on_modify]
  rfl

/-- A run that can be completed has its output, and one event with its cost. -/
theorem complete_on_of_valid (h : self.state.canTransitionTo .succeeded = true) {totalCost : Int}
    (hspent : self.spentCost.microUnits = .ok totalCost) (outputData : Dict) :
    (complete outputData now).on self = (.ok (), { self with
      state := .succeeded, updatedAt := now, outputData := outputData,
      events := self.events ++ [self.changedEvent .succeeded none,
        .runCompleted self.tenantId self.agentVersionId outputData totalCost self.steps.length] }) := by
  simp only [complete, Method.on_bind, transition_on_of_valid h, Method.on_modify, Method.on_get,
    hspent, Method.on_ofExcept, addEvent, List.append_assoc]
  rfl

/-- A run that can fail has one event with the error. -/
theorem fail_on_of_valid (h : self.state.canTransitionTo .failed = true) (error : String)
    (failedStep : Option Int) :
    (fail error failedStep now).on self = (.ok (), { self with
      state := .failed, updatedAt := now,
      events := self.events ++ [self.changedEvent .failed (some error),
        .runFailed self.tenantId self.agentVersionId error failedStep] }) := by
  simp only [fail, Method.on_bind, transition_on_of_valid h, Method.on_modify, Method.on_get,
    addEvent, List.append_assoc]
  rfl

/-- A run that can be cancelled has the time of the request, and one event. -/
theorem cancel_on_of_valid (h : self.state.canTransitionTo .cancelled = true) :
    (cancel reason now).on self = (.ok (), { self with
      state := .cancelled, updatedAt := now, cancelRequestedAt := now,
      events := self.events ++ [self.changedEvent .cancelled reason,
        .runCancelled self.tenantId self.agentVersionId reason] }) := by
  have htransition : (transition .cancelled reason now).on { self with cancelRequestedAt := some now } =
    _ := transition_on_of_valid h
  simp only [cancel, Method.on_bind, Method.on_get, isTerminal_of_valid h, Bool.false_eq_true,
    if_false, Method.on_modify, htransition, addEvent, List.append_assoc]
  rfl

/-- A run that can time out has one event. -/
theorem timeout_on_of_valid (h : self.state.canTransitionTo .timedOut = true) :
    (timeout now).on self = (.ok (), { self with
      state := .timedOut, updatedAt := now,
      events := self.events ++ [self.changedEvent .timedOut none,
        .runTimedOut self.tenantId self.agentVersionId .timedOut] }) := by
  simp only [timeout, Method.on_bind, Method.on_get, isTerminal_of_valid h, Bool.false_eq_true,
    if_false, transition_on_of_valid h, addEvent, Method.on_modify, List.append_assoc]
  rfl

/-- An edge that is not valid is refused. -/
theorem transition_on_of_not_valid (h : self.state.canTransitionTo newState = false)
    (reason : Option String) (now : Time) :
    ∃ e, (transition newState reason now).on self = (.error e, self) := by
  rw [transition_on, if_pos h]
  split <;> exact ⟨_, rfl⟩

/-- What follows a refused transition is not reached. -/
theorem transition_bind_on_of_not_valid {α : Type} (h : self.state.canTransitionTo newState = false)
    (reason : Option String) (now : Time) (f : Unit → Method PyError Run α) :
    ∃ e, (transition newState reason now >>= f).on self = (.error e, self) := by
  obtain ⟨e, he⟩ := transition_on_of_not_valid h reason now
  exact ⟨e, by rw [Method.on_bind, he]⟩

end

section
variable {op : RunOperation} {newState : RunState} {run : Run} {now : Time}

/-- A transition that is valid, and whose lease can be computed, takes place. -/
theorem transits_of_valid {m : Money} (hspent : run.spentCost = .money m)
    (hlease : op.leaseComputed = true) (htarget : op.target = some newState)
    (hvalid : run.state.canTransitionTo newState = true) : Transits (op.method now) run newState := by
  have hsame : run.attempt = run.attempt + 0 := (Int.add_zero _).symm
  cases op <;> cases htarget
  case start leaseOwner leaseDurationSeconds leaseBase leaseSecond =>
    have hsecond := of_decide_eq_true hlease
    exact ⟨_, _, start_on_of_valid hvalid (if_pos hsecond) leaseOwner, rfl, hsame, rfl, rfl, rfl, rfl,
      rfl, rfl, rfl⟩
  case scheduleRetry =>
    exact ⟨_, _, scheduleRetry_on_of_valid hvalid, rfl, rfl, rfl, rfl, rfl, rfl, rfl, rfl, rfl⟩
  case complete outputData =>
    have htotal : run.spentCost.microUnits = .ok m.microUnits := by rw [hspent]; rfl
    exact ⟨_, _, complete_on_of_valid hvalid htotal outputData, rfl, hsame, rfl, rfl, rfl, rfl, rfl,
      rfl, rfl⟩
  case fail error failedStep =>
    exact ⟨_, _, fail_on_of_valid hvalid error failedStep, rfl, hsame, rfl, rfl, rfl, rfl, rfl, rfl,
      rfl⟩
  case cancel reason =>
    exact ⟨_, _, cancel_on_of_valid hvalid, rfl, hsame, rfl, rfl, rfl, rfl, rfl, rfl, rfl⟩
  case timeout =>
    exact ⟨_, _, timeout_on_of_valid hvalid, rfl, hsame, rfl, rfl, rfl, rfl, rfl, rfl, rfl⟩
  -- the other three are the bare transition
  all_goals
    exact ⟨_, _, transition_on_of_valid hvalid, rfl, hsame, rfl, rfl, rfl, rfl, rfl, rfl, rfl⟩

/-- A transition that is not valid leaves the run as it is. -/
theorem unchanged_of_not_valid (htarget : op.target = some newState)
    (hvalid : run.state.canTransitionTo newState = false) (now : Time) :
    ∃ result, (op.method now).on run = (result, run) := by
  have hrefused {α : Type} (reason : Option String) (f : Unit → Method PyError Run α) :
      ∃ result, (transition newState reason now >>= f).on run = (result, run) := by
    obtain ⟨e, he⟩ := transition_bind_on_of_not_valid hvalid reason now f
    exact ⟨_, he⟩
  have hrefused' : ∃ result, (transition newState none now).on run = (result, run) := by
    obtain ⟨e, he⟩ := transition_on_of_not_valid hvalid none now
    exact ⟨_, he⟩
  cases op <;> cases htarget
  case requestApproval => exact hrefused'
  case resumeFromApproval => exact hrefused'
  case requeue => exact hrefused'
  case cancel =>
    have hterminal := RunState.isTerminal_of_not_cancellable (.inl hvalid)
    exact ⟨.ok (), by simp [RunOperation.method, cancel, hterminal]⟩
  case timeout =>
    have hterminal := RunState.isTerminal_of_not_cancellable (.inr hvalid)
    exact ⟨.ok (), by simp [RunOperation.method, timeout, hterminal]⟩
  all_goals exact hrefused _ _

/-- What a state transition can do, if its lease can be computed: take a valid edge and log it, or
leave the run alone. -/
theorem transition_cases {m : Money} (hspent : run.spentCost = .money m)
    (hlease : op.leaseComputed = true) (htarget : op.target = some newState) (now : Time) :
    (run.state.canTransitionTo newState = true ∧ Transits (op.method now) run newState) ∨
    (run.state.canTransitionTo newState = false ∧
      ∃ result, (op.method now).on run = (result, run)) := by
  cases hvalid : run.state.canTransitionTo newState with
  | true => exact .inl ⟨rfl, transits_of_valid hspent hlease htarget hvalid⟩
  | false => exact .inr ⟨rfl, unchanged_of_not_valid htarget hvalid now⟩

end

/-! ## Sequences of transitions -/

/-- What the events added to those of `run₀` say about the way to `run`. -/
structure EventLog (run₀ : Run) (added : List DomainEvent) (run : Run) : Prop where
  events : run.events = run₀.events ++ added
  chain : Leads (fun oldState newState => oldState.canTransitionTo newState = true) run₀.state
    (stateChanges added) run.state
  ending : endStates added =
    if run₀.state.isTerminal = false ∧ run.state.isTerminal = true then [run.state] else []
  attempt : run.attempt = run₀.attempt +
    (stateChanges added).countP fun edge => edge.2 = .retryScheduled

namespace EventLog

/-- No calls log nothing. -/
theorem refl (run : Run) : run.EventLog [] run := by
  refine ⟨(List.append_nil _).symm, rfl, ?_, (Int.add_zero _).symm⟩
  rw [if_neg (by rintro ⟨h, h'⟩; rw [h] at h'; cases h')]
  rfl

/-- A run that has not ended did not start in a terminal state. -/
theorem live {run₀ run : Run} {added : List DomainEvent} (h : run₀.EventLog added run)
    (hlive : run.state.isTerminal = false) : run₀.state.isTerminal = false := by
  by_contra hterminal
  have hfinal : run.state = run₀.state := h.chain.eq_of_final fun newState hedge => by
    rw [RunState.canTransitionTo_of_isTerminal (by simpa using hterminal)] at hedge
    cases hedge
  rw [hfinal] at hlive
  exact hterminal hlive

/-- A transition is logged. -/
theorem concat {run₀ run run' : Run} {newState : RunState} {added logged : List DomainEvent}
    (h : run₀.EventLog added run) (hvalid : run.state.canTransitionTo newState = true)
    (hrun' : run.Transitioned newState logged run') : run₀.EventLog (added ++ logged) run' := by
  have hlive : run.state.isTerminal = false := isTerminal_of_valid hvalid
  refine ⟨?_, ?_, ?_, ?_⟩
  · rw [hrun'.events, h.events, List.append_assoc]
  · rw [stateChanges_append, hrun'.changes, hrun'.state]
    exact h.chain.concat hvalid
  · have hnone : endStates added = [] := by
      rw [h.ending, if_neg]
      rintro ⟨-, hterminal⟩
      rw [hlive] at hterminal
      cases hterminal
    rw [endStates_append, hnone, hrun'.ending, hrun'.state, h.live hlive]
    simp
  · rw [stateChanges_append, hrun'.changes, List.countP_append, hrun'.attempt, h.attempt]
    simp only [List.countP_singleton, decide_eq_true_eq]
    split <;> simp [Int.add_assoc]

end EventLog

/-- The log of a sequence of calls, from `run₀`: it is a chain of edges, a terminal state is never
left, and a call that raises changes nothing. -/
structure LogLaw (run₀ : Run) (calls : List RunCall) : Prop where
  log : ∃ added, run₀.EventLog added (after RunCall.apply run₀ calls)
  terminal : Between RunCall.apply
    (fun run run' => run.state.isTerminal = true → run'.state = run.state) run₀ calls
  raises : Along RunCall.apply (fun run call => call.Raises run → call.apply run = run) run₀ calls

/-- The calls that a sequence of transitions consists of; the lease of a start can be computed. -/
abbrev IsTransition (call : RunCall) : Prop :=
  call.op.target.isSome = true ∧ call.op.leaseComputed = true

/-- A transition call moves the run along a valid edge, or leaves it alone. -/
theorem call_cases {call : RunCall} {run : Run} {m : Money} (hspent : run.spentCost = .money m)
    (hcall : IsTransition call) :
    (∃ newState logged, run.state.canTransitionTo newState = true ∧ ¬call.Raises run ∧
      run.Transitioned newState logged (call.apply run)) ∨ call.apply run = run := by
  obtain ⟨htarget, hlease⟩ := hcall
  obtain ⟨newState, htarget⟩ := Option.isSome_iff_exists.1 htarget
  obtain ⟨hvalid, run', logged, hon, hrun'⟩ | ⟨-, result, hon⟩ :=
    transition_cases hspent hlease htarget call.now
  · refine .inl ⟨newState, logged, hvalid, RunCall.not_raises hon, ?_⟩
    rw [RunCall.apply_eq hon]
    exact hrun'
  · exact .inr (RunCall.apply_eq hon)

/-- The log of any sequence of transitions, accepted or refused: one change of state for each that was
accepted, from the state that the one before has reached, and at most one ending. -/
theorem logLaw_of_transitions (run₀ : Run) {m : Money} (hspent : run₀.spentCost = .money m)
    (calls : List RunCall) (hcalls : ∀ call ∈ calls, IsTransition call) : LogLaw run₀ calls := by
  have hkeeps (run : Run) (call : RunCall) (hcall : call ∈ calls) (h : run.spentCost = .money m) :
      (call.apply run).spentCost = .money m := by
    obtain ⟨_, _, -, -, hrun'⟩ | hsame := call_cases h (hcalls call hcall)
    · rw [hrun'.spentCost, h]
    · rw [hsame, h]
  have hlog : (after RunCall.apply run₀ calls).spentCost = .money m ∧
      ∃ added, run₀.EventLog added (after RunCall.apply run₀ calls) := by
    refine after_induction (I := fun run => run.spentCost = .money m ∧ ∃ added, run₀.EventLog added run)
      ⟨hspent, [], .refl run₀⟩ ?_
    rintro run call hcall ⟨h, added, hadded⟩
    refine ⟨hkeeps run call hcall h, ?_⟩
    obtain ⟨newState, logged, hvalid, -, hrun'⟩ | hsame := call_cases h (hcalls call hcall)
    · exact ⟨_, hadded.concat hvalid hrun'⟩
    · exact ⟨added, by rwa [hsame]⟩
  refine ⟨hlog.2, ?_, ?_⟩
  · refine (along_iff_between (fun _ _ => rfl) fun h h' hterminal => ?_).2 ?_
    · have hstate := h hterminal
      rw [h' (by rwa [hstate]), hstate]
    · refine along_of_invariant hspent fun run call hcall h =>
      ⟨fun hterminal => ?_, hkeeps run call hcall h⟩
      obtain ⟨_, _, hvalid, -, -⟩ | hsame := call_cases h (hcalls call hcall)
      · rw [isTerminal_of_valid hvalid] at hterminal
        cases hterminal
      · rw [hsame]
  · refine along_of_invariant hspent fun run call hcall h =>
      ⟨fun hraises => ?_, hkeeps run call hcall h⟩
    obtain ⟨_, _, -, hreturns, -⟩ | hsame := call_cases h (hcalls call hcall)
    · exact absurd hraises hreturns
    · exact hsame

/-- A run that is retried once, completed, and then cancelled in vain. -/
theorem logLaw_of_transitions_sample :
    let run : Run :=
      { id := ⟨1⟩, createdAt := 0, updatedAt := 0, tenantId := ⟨3⟩, agentVersionId := ⟨4⟩,
        idempotencyKey := "key" }
    let calls : List RunCall := [⟨.start "w" 30 0 0, 1⟩, ⟨.scheduleRetry, 2⟩, ⟨.requeue, 3⟩,
      ⟨.start "w" 30 4 4, 4⟩, ⟨.complete [], 5⟩, ⟨.requeue, 6⟩, ⟨.cancel none, 7⟩]
    (∀ call ∈ calls, IsTransition call) ∧ run.LogLaw calls := by
  intro run calls
  have hcalls : ∀ call ∈ calls, IsTransition call := by decide
  exact ⟨hcalls, logLaw_of_transitions run rfl calls hcalls⟩

end Run

end AgentRuntime
