import Mathlib.Tactic.Common

/-!
# Run states

The states of a run and of a run step (`RunState`), the transitions a run may take, and the kinds
of steps (`RunStepKind`), from `app/domain/value_objects/state.py`.
-/

namespace AgentRuntime

/-- Valid states for a run lifecycle. -/
inductive RunState where
  | queued
  | running
  | awaitingApproval
  | retryScheduled
  | succeeded
  | failed
  | cancelled
  | timedOut
  deriving DecidableEq, Repr

namespace RunState

/-- The text of the state. -/
def value : RunState → String
  | queued => "queued"
  | running => "running"
  | awaitingApproval => "awaiting_approval"
  | retryScheduled => "retry_scheduled"
  | succeeded => "succeeded"
  | failed => "failed"
  | cancelled => "cancelled"
  | timedOut => "timed_out"

/-- Terminal states. -/
def isTerminal : RunState → Bool
  | succeeded | failed | cancelled | timedOut => true
  | _ => false

/-- The table of `can_transition_to`. -/
def validTransitions : RunState → List RunState
  | queued => [running, cancelled, timedOut]
  | running => [awaitingApproval, succeeded, failed, cancelled, timedOut, retryScheduled]
  | awaitingApproval => [running, failed, cancelled, timedOut]
  | retryScheduled => [queued, running, cancelled, timedOut]
  | succeeded => []
  | failed => []
  | cancelled => []
  | timedOut => []

/-- Whether the transition to `newState` is valid. -/
def canTransitionTo (self newState : RunState) : Bool := self.validTransitions.contains newState

/-- No transition leaves a terminal state. -/
theorem canTransitionTo_of_isTerminal {self newState : RunState} (h : self.isTerminal = true) :
    self.canTransitionTo newState = false := by
  cases self <;> first | rfl | cases h

end RunState

/-- Types of run steps. -/
inductive RunStepKind where
  | modelCall
  | toolCall
  | memoryRead
  | memoryWrite
  | approvalRequest
  | conditional
  | loop
  deriving DecidableEq, Repr

/-- The text of the kind. -/
def RunStepKind.value : RunStepKind → String
  | modelCall => "model_call"
  | toolCall => "tool_call"
  | memoryRead => "memory_read"
  | memoryWrite => "memory_write"
  | approvalRequest => "approval_request"
  | conditional => "conditional"
  | loop => "loop"

end AgentRuntime
