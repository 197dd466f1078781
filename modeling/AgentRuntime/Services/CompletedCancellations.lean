import AgentRuntime.Domain.RunLog
import AgentRuntime.Services.RunServices

/-!
# Completed cancellations

`complete_cancellation` cancels the run that it loads, and announces it: by an event of the run that it
stores, and by a signal. But `Run.cancel` does nothing to a run that has ended, and returns as it does
otherwise. So a run that has succeeded, failed or timed out is announced as cancelled and stored as it was
(`truthful_iff`), whatever the repository and the signals answer and whatever other workers do.
-/

namespace AgentRuntime

open Interaction

namespace Run

/-- What `cancel` makes of a run. -/
def cancelled (self : Run) (reason : Option String) (now : Time) : Run :=
  if self.state.isTerminal then self
  else { self with
    state := .cancelled, updatedAt := now, cancelRequestedAt := now,
    events := self.events ++ [self.changedEvent .cancelled reason,
      .runCancelled self.tenantId self.agentVersionId reason] }

/-- A run that has not ended can be cancelled, and one that has ended is left alone. -/
theorem cancel_on (reason : Option String) (now : Time) (self : Run) :
    (cancel reason now).on self = (.ok (), self.cancelled reason now) := by
  cases hterminal : self.state.isTerminal with
  | true => simp [cancel, cancelled, hterminal]
  | false =>
    have hvalid : self.state.canTransitionTo .cancelled = true := by
      by_contra hvalid
      rw [RunState.isTerminal_of_not_cancellable (.inl (by simpa using hvalid))] at hterminal
      cases hterminal
    rw [cancel_on_of_valid hvalid, cancelled, hterminal, if_neg Bool.false_ne_true]

/-- What was logged before stays. -/
theorem events_cancelled (self : Run) (reason : Option String) (now : Time) :
    ∃ logged, (self.cancelled reason now).events = self.events ++ logged := by
  unfold cancelled
  split
  · exact ⟨[], (List.append_nil _).symm⟩
  · exact ⟨_, rfl⟩

end Run

/-- The event says that the cancellation of a run was completed. -/
def DomainEvent.isCancellationCompleted : DomainEvent → Bool
  | cancellationCompleted _ _ _ _ _ _ => true
  | _ => false

/-- The call signals that the cancellation of a run was completed. -/
def Call.isPublishCompletion : Call → Bool
  | publishCompletion _ _ _ _ _ => true
  | _ => false

namespace CancellationService

variable {W : Type} (env : CallEnv W) (s : W) (runId : UUID) (workerId : String) (stepsCancelled : Nat)
  (cleanupPerformed : Bool)

/-- The calls that `complete_cancellation` makes. -/
def completionCalls : List Call :=
  (((completeCancellation runId workerId stepsCancelled cleanupPerformed : Service Unit Bool).on ()).exec
    env s).calls

/-- Since it was loaded, the run that is stored was said to be cancelled. -/
def Announces (loaded stored : Run) : Prop :=
  ∃ logged, stored.events = loaded.events ++ logged ∧
    ∃ event ∈ logged, event.isCancellationCompleted = true

/-- A completion of the cancellation of `loaded` announces only what it stores. -/
structure Truthful (loaded : Run) (calls : List Call) : Prop where
  event : ∀ stored, .runUpdate stored ∈ calls → Announces loaded stored → stored.state = .cancelled
  signal : (∃ o ∈ calls, o.isPublishCompletion = true) →
    ∃ stored, .runUpdate stored ∈ calls ∧ stored.state = .cancelled
  ended : loaded.state = .succeeded ∨ loaded.state = .failed ∨ loaded.state = .timedOut →
    (∀ stored, .runUpdate stored ∈ calls → ¬Announces loaded stored) ∧
      ∀ o ∈ calls, o.isPublishCompletion = false

section
variable {env s runId workerId stepsCancelled cleanupPerformed} {loaded : Run}

/-- What is stored, and that it is stored before anything is signalled. -/
theorem completionCalls_eq (workerId : String) (stepsCancelled : Nat) (cleanupPerformed : Bool)
    (hget : (env (.runGet runId) s).1 = .ok (some loaded)) :
    ∃ stored rest, completionCalls env s runId workerId stepsCancelled cleanupPerformed =
        .runGet runId :: .now :: .now :: .runUpdate stored :: rest ∧
      Announces loaded stored ∧
      stored.state = (if loaded.state.isTerminal then loaded.state else .cancelled) ∧
      ∀ run, .runUpdate run ∉ rest := by
  simp only [completionCalls, completeCancellation, Service.runGet, Service.now, Service.runUpdate,
    Proc.on_bind, Proc.on_tryCall, Prog.call_bind, Prog.exec_call, hget]
  simp only [id, Prog.ret_bind, Proc.thenOn_ok, Proc.on_withObject, Proc.on_bind, Proc.on_call,
    Prog.call_bind, Prog.exec_call, Proc.on_method, Run.cancel_on, Proc.on_get, Run.addEvent,
    Method.on_modify, Proc.on_tryCall]
  refine ⟨_, _, rfl, ?_, ?_, ?_⟩
  · obtain ⟨logged, hlogged⟩ := loaded.events_cancelled (some "Cancellation completed")
      (env .now (env (.runGet runId) s).2).1
    exact ⟨logged ++ [_], by rw [hlogged, List.append_assoc], _,
      List.mem_append_right _ (List.mem_singleton_self _), rfl⟩
  · unfold Run.cancelled
    split <;> rfl
  · intro run hrun
    generalize (env (.runUpdate _) _).1 = answer at hrun
    cases answer <;> simp at hrun

/-- The completion announces only what it stores, exactly if the run it loads did not end in another way. -/
theorem truthful_iff_of_loaded (hget : (env (.runGet runId) s).1 = .ok (some loaded)) :
    Truthful loaded (completionCalls env s runId workerId stepsCancelled cleanupPerformed) ↔
      ¬(loaded.state = .succeeded ∨ loaded.state = .failed ∨ loaded.state = .timedOut) := by
  obtain ⟨stored, rest, hcalls, hannounces, hstate, hrest⟩ :=
    completionCalls_eq workerId stepsCancelled cleanupPerformed hget
  have honly (run : Run) : .runUpdate run ∈
      completionCalls env s runId workerId stepsCancelled cleanupPerformed ↔ run = stored := by
    simp [hcalls, hrest]
  constructor
  · intro h hended
    exact (h.ended hended).1 stored ((honly stored).2 rfl) hannounces
  · intro hended
    have hcancelled : stored.state = .cancelled := by
      rw [hstate]
      cases hloaded : loaded.state <;> simp_all [RunState.isTerminal]
    refine ⟨fun run hrun _ => ?_, fun _ => ⟨stored, (honly stored).2 rfl, hcancelled⟩, fun h => ?_⟩
    · rw [(honly run).1 hrun, hcancelled]
    · exact absurd h hended

end

/-- Whatever the repository and the signals answer, a completion announces only what it stores, exactly if
the repository does not answer with a run that has succeeded, failed or timed out. -/
theorem truthful_iff :
    (∀ loaded, (env (.runGet runId) s).1 = .ok (some loaded) →
      Truthful loaded (completionCalls env s runId workerId stepsCancelled cleanupPerformed)) ↔
    ∀ loaded, (env (.runGet runId) s).1 = .ok (some loaded) →
      ¬(loaded.state = .succeeded ∨ loaded.state = .failed ∨ loaded.state = .timedOut) :=
  forall₂_congr fun _ hget => truthful_iff_of_loaded hget

/-- A run that has succeeded is stored as it was, and announced as cancelled: `cancel` does nothing on an
ended run, and its caller does not look. -/
theorem not_truthful : ¬∀ (env : CallEnv Unit) (s : Unit) (runId : UUID) (workerId : String)
      (stepsCancelled : Nat) (cleanupPerformed : Bool) (loaded : Run),
    (env (.runGet runId) s).1 = .ok (some loaded) →
      Truthful loaded (completionCalls env s runId workerId stepsCancelled cleanupPerformed) := by
  intro h
  let env : CallEnv Unit := fun o w =>
    match o with
    | .runGet _ => (.ok (some (.sample .succeeded [])), w)
    | o => (o.quiet, w)
  have htruthful := h env () ⟨1⟩ "worker" 0 true (.sample .succeeded []) rfl
  exact (truthful_iff_of_loaded rfl).1 htruthful (.inl rfl)

end CancellationService

end AgentRuntime
