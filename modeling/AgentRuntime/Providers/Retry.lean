import AgentRuntime.Interaction.Attempts
import AgentRuntime.Providers.ProviderErrors
import Mathlib.Algebra.Order.Interval.Set.Instances
import Mathlib.Algebra.Order.Ring.Rat
import Mathlib.Tactic.NormNum

/-!
# Retrying

The two retry loops: `RetryHandler.execute_with_retry` (`app/infrastructure/providers/retry.py`) and
`BaseProvider.complete` (`app/infrastructure/providers/base.py`). The wrapped call, the random numbers and
the sleeping are calls of a program; what the loops log is left out, and with it the `RetryContext`, of
which only `is_last_attempt` decides anything.
-/

namespace AgentRuntime

open Interaction

/-- Retry policy configuration. A policy that the constructor refuses cannot be built. -/
structure RetryPolicy where
  maxRetries : Nat := 2
  initialBackoffMs : Nat := 1000
  maxBackoffMs : Nat := 10000
  backoffMultiplier : Rat := 2
  jitter : Bool := true
  initialBackoffMs_pos : 0 < initialBackoffMs := by decide
  maxBackoffMs_pos : 0 < maxBackoffMs := by decide
  backoffMultiplier_gt : 1 < backoffMultiplier := by decide

/-- `RetryPolicy(…)`. -/
def RetryPolicy.ofValues (maxRetries initialBackoffMs maxBackoffMs : Int) (backoffMultiplier : Rat)
    (jitter : Bool) : Except PyError RetryPolicy :=
  if maxRetries < 0 then
    .error (.valueError "Max retries cannot be negative")
  else if hinitial : initialBackoffMs ≤ 0 then
    .error (.valueError "Initial backoff must be positive")
  else if hmax : maxBackoffMs ≤ 0 then
    .error (.valueError "Max backoff must be positive")
  else if hmultiplier : backoffMultiplier ≤ 1 then
    .error (.valueError "Backoff multiplier must be greater than 1.0")
  else
    .ok ⟨maxRetries.toNat, initialBackoffMs.toNat, maxBackoffMs.toNat, backoffMultiplier, jitter,
      Int.pos_iff_toNat_pos.1 (Int.not_le.1 hinitial), Int.pos_iff_toNat_pos.1 (Int.not_le.1 hmax),
      not_le.1 hmultiplier⟩

/-- A call of a retry loop. `func` is the function given to `execute_with_retry`. -/
inductive RetryCall where
  | func
  | completeWithRetry (attempt : Nat)
  | random
  | sleep (seconds : Rat)
  deriving DecidableEq

/-- What answers a call. `random.random()` is at least 0 and less than 1. -/
abbrev RetryCall.Answer (Response : Type) : RetryCall → Type
  | func => Except AdapterError Response
  | completeWithRetry _ => Except AdapterError Response
  | random => Set.Ico (0 : Rat) 1
  | sleep _ => Unit

section
variable {Response : Type}

/-- A retry loop: the result of the wrapped call, or what is raised. -/
abbrev Retrying (Response : Type) := Prog RetryCall (RetryCall.Answer Response)

/-- `random.uniform(a, b)`. -/
def uniform (a b : Rat) : Retrying Response Rat :=
  .call .random fun r => .ret (a + (b - a) * (r : Rat))

/-- Calculate exponential backoff with jitter: `calculate_backoff`. -/
def calculateBackoff (attempt : Nat) (policy : RetryPolicy) : Retrying Response Rat :=
  let baseBackoff : Rat := policy.initialBackoffMs * policy.backoffMultiplier ^ attempt
  let cappedBackoff : Rat := min baseBackoff policy.maxBackoffMs
  if policy.jitter then uniform 0 cappedBackoff else .ret cappedBackoff

/-- `await self._sleep(seconds)`. -/
def sleep (seconds : Rat) : Retrying Response Unit := .call (.sleep seconds) .ret

/-! ## The retry handler -/

/-- Handler for retry logic with backoff and budget enforcement. -/
structure RetryHandler where
  policy : RetryPolicy

namespace RetryHandler

/-- The rounds of `execute_with_retry` for these attempts. -/
def rounds (digits : DecimalDigits) (self : RetryHandler) :
    List Nat → Option AdapterError → Retrying Response (Except AdapterError Response)
  | [], some lastError => .ret (.error lastError)
  | [], none => .ret (.error (.other (.exception "Max retries exceeded without exception")))
  | attempt :: attempts, _ =>
    .call .func fun
      | .ok result => .ret (.ok result)
      | .error e =>
        -- `except Exception` lets the cancellation of the task pass
        if e.isException then
          match classifyError digits e with
          | .error raised => .ret (.error (.other raised))
          | .ok providerError =>
            if !providerError.isRetryable || self.policy.maxRetries ≤ attempt then
              .ret (.error e)
            else do
              let backoffMs ← calculateBackoff attempt self.policy
              sleep (backoffMs / 1000)
              rounds digits self attempts (some e)
        else
          .ret (.error e)

/-- Execute a function with retry logic: `execute_with_retry`. -/
def executeWithRetry (digits : DecimalDigits) (self : RetryHandler) :
    Retrying Response (Except AdapterError Response) :=
  self.rounds digits (List.range (self.policy.maxRetries + 1)) none

end RetryHandler

/-! ## The provider adapters -/

/-- Base provider adapter with common functionality. -/
structure BaseProvider where
  config : ProviderConfig
  retryPolicy : RetryPolicy := {}

namespace BaseProvider

/-- Calculate exponential backoff with jitter: `_calculate_backoff`. -/
def calculateBackoff (self : BaseProvider) (attempt : Nat) : Retrying Response Rat :=
  AgentRuntime.calculateBackoff attempt self.retryPolicy

/-- The rounds of `complete` for these attempts. -/
def rounds (self : BaseProvider) :
    List Nat → Option AdapterError → Retrying Response (Except AdapterError Response)
  | [], some lastError => .ret (.error lastError)
  | [], none =>
    .ret (.error (.other (providerUnavailableError "Max retries exceeded" self.config.provider)))
  | attempt :: attempts, _ =>
    .call (.completeWithRetry attempt) fun
      | .ok response => .ret (.ok response)
      | .error e =>
        if e.isException then
          match classifyError self.config e with
          | .error raised => .ret (.error (.other raised))
          | .ok providerError =>
            if !providerError.isRetryable || self.retryPolicy.maxRetries ≤ attempt then
              .ret (.error (.other (mapException providerError)))
            else do
              let backoffMs ← self.calculateBackoff attempt
              sleep (backoffMs / 1000)
              rounds self attempts (some e)
        else
          .ret (.error e)

/-- Execute a model completion request with retry logic: `complete`. -/
def complete (self : BaseProvider) : Retrying Response (Except AdapterError Response) :=
  self.rounds (List.range (self.retryPolicy.maxRetries + 1)) none

end BaseProvider

end

end AgentRuntime
