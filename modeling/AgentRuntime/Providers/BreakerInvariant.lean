import AgentRuntime.Providers.CircuitBreaker
import Mathlib.Data.Bool.Count

/-!
# What a breaker's fields say

The methods of a breaker, `reset` and `get_status` included, in any order: its counters are about the
results recorded since the last reset, an open circuit knows since when it is open, and a half-open
circuit never waits for more than its trial calls (`breaker_sound`). `_half_open_calls` is the number
of results recorded since the state was entered, and they are all successes: the first failure leaves
it (`Represents.trial`). What is recorded of a run is kept beside the breaker (`breaker_after`).
-/

namespace AgentRuntime

open Interaction

/-- What `get_status` reports. The state is read before `can_execute` may change it. -/
structure CircuitBreakerStatus where
  provider : String
  state : CircuitState
  canExecute : Bool
  metrics : CircuitBreakerMetrics
  failureRate : Rat
  config : CircuitBreakerConfig

namespace CircuitBreaker

/-- Reset circuit breaker to initial state. -/
def reset (self : CircuitBreaker) : CircuitBreaker :=
  { self with
    state := .closed
    metrics := {}
    failureWindow := []
    openTimestamp := none
    halfOpenCalls := 0 }

/-- Get current circuit breaker status, and what asking makes of the breaker. -/
def getStatus (now : Rat) (self : CircuitBreaker) : CircuitBreakerStatus × CircuitBreaker :=
  let (canExecute, breaker) := self.canExecute now
  ({ provider := self.providerName
     state := self.state
     canExecute
     metrics := breaker.metrics
     failureRate := breaker.metrics.failureRate
     config := breaker.config }, breaker)

end CircuitBreaker

/-- A public method of the breaker, at a time. -/
inductive BreakerMethod where
  | call (breakerCall : BreakerCall)
  | getStatus (now : Rat)
  | reset

namespace BreakerMethod

/-- What the method makes of the breaker. -/
def apply : BreakerMethod → CircuitBreaker → CircuitBreaker
  | call breakerCall, self => breakerCall.apply self
  | getStatus now, self => (self.getStatus now).2
  | reset, self => self.reset

/-- The result that the method records. -/
def result? : BreakerMethod → Option Bool
  | call breakerCall => breakerCall.result?
  | getStatus _ | reset => none

end BreakerMethod

/-! ## Streaks -/

/-- The length of the current streak, of results with the latest first. -/
def streak (success : Bool) (results : List Bool) : Nat :=
  (results.takeWhile fun result => result = success).length

section
variable (success : Bool) (results : List Bool)

/-- Nothing has been reported in a row yet. -/
@[simp] theorem streak_nil : streak success [] = 0 := rfl

/-- Another report of the kind makes the streak longer. -/
@[simp] theorem streak_cons_self : streak success (success :: results) = streak success results + 1 := by
  simp [streak]

/-- A report of the other kind ends it. -/
@[simp] theorem streak_cons_not : streak success ((!success) :: results) = 0 := by
  simp [streak]

/-- Only the latest result has a streak. -/
theorem streak_eq_zero_or : streak success results = 0 ∨ streak (!success) results = 0 := by
  cases results with
  | nil => exact .inl rfl
  | cons result results =>
    by_cases hresult : result = success
    · subst hresult
      right
      have hnot := streak_cons_not (!result) results
      rwa [Bool.not_not] at hnot
    · left
      rw [Bool.eq_not.2 hresult]
      exact streak_cons_not success results

end

/-! ## The records -/

/-- A breaker with the results recorded since it was built or reset, and those recorded since it
entered half-open state; the latest first. -/
structure BreakerHistory where
  breaker : CircuitBreaker
  results : List Bool := []
  trial : List Bool := []

namespace BreakerHistory

/-- A method of the breaker. -/
def apply (method : BreakerMethod) (self : BreakerHistory) : BreakerHistory :=
  let breaker := method.apply self.breaker
  { breaker
    results :=
      match method with
      | .reset => []
      | _ => method.result?.toList ++ self.results
    trial :=
      if self.breaker.state = .halfOpen ∧ breaker.state = .halfOpen then
        method.result?.toList ++ self.trial
      else [] }

/-- The records do not influence the breaker. -/
theorem breaker_after (methods : List BreakerMethod) (self : BreakerHistory) :
    (after apply self methods).breaker = after BreakerMethod.apply self.breaker methods :=
  after_map BreakerHistory.breaker (fun _ _ => rfl) methods self

/-- The metrics are about the results. -/
structure Counted (metrics : CircuitBreakerMetrics) (results : List Bool) : Prop where
  successfulRequests : metrics.successfulRequests = results.count true
  failedRequests : metrics.failedRequests = results.count false
  totalRequests : metrics.totalRequests = results.length
  consecutiveSuccesses : metrics.consecutiveSuccesses = streak true results
  consecutiveFailures : metrics.consecutiveFailures = streak false results

/-- The fields of the breaker are about the records. -/
structure Represents (history : BreakerHistory) : Prop where
  counted : Counted history.breaker.metrics history.results
  openTimestamp : history.breaker.state = .opened → history.breaker.openTimestamp.isSome = true
  trial : history.breaker.state = .halfOpen →
    history.trial = List.replicate history.breaker.halfOpenCalls true
  halfOpenCalls : history.breaker.state = .halfOpen →
    history.breaker.halfOpenCalls < history.breaker.config.halfOpenMaxCalls

/-- What a method counts is about the results, the new one included. -/
theorem Counted.counted {breaker : CircuitBreaker} {results : List Bool}
    (h : Counted breaker.metrics results) (call : BreakerCall) :
    Counted (CircuitBreaker.counted call breaker).metrics (call.result?.toList ++ results) := by
  cases call with
  | canExecute now => exact h
  | recordSuccess now =>
    refine ⟨?_, ?_, congrArg (· + 1) h.totalRequests, ?_, ?_⟩
    · exact (congrArg (· + 1) h.successfulRequests).trans List.count_cons_self.symm
    · exact h.failedRequests.trans (List.count_cons_of_ne (by decide)).symm
    · exact (congrArg (· + 1) h.consecutiveSuccesses).trans (streak_cons_self true results).symm
    · exact (streak_cons_not false results).symm
  | recordFailure now =>
    refine ⟨?_, ?_, congrArg (· + 1) h.totalRequests, ?_, ?_⟩
    · exact h.successfulRequests.trans (List.count_cons_of_ne (by decide)).symm
    · exact (congrArg (· + 1) h.failedRequests).trans List.count_cons_self.symm
    · exact (streak_cons_not true results).symm
    · exact (congrArg (· + 1) h.consecutiveFailures).trans (streak_cons_self false results).symm

/-- Every effect of a call keeps the fields about the records. -/
theorem Represents.effect {history : BreakerHistory} (h : history.Represents) {call : BreakerCall}
    {breaker : CircuitBreaker} (heffect : history.breaker.Effect call breaker)
    (hcounted : Counted breaker.metrics (call.result?.toList ++ history.results)) :
    Represents
      { breaker
        results := call.result?.toList ++ history.results
        trial :=
          if history.breaker.state = .halfOpen ∧ breaker.state = .halfOpen then
            call.result?.toList ++ history.trial
          else [] } := by
  cases heffect with
  | stays htrial =>
    refine ⟨hcounted, ?_, fun hstate => ?_, ?_⟩
    · simpa using h.openTimestamp
    · have hstate' : history.breaker.state = .halfOpen := by simpa using hstate
      simp [hstate', htrial hstate', h.trial hstate']
    · simpa using h.halfOpenCalls
  | opens now hresult => exact ⟨hcounted, fun _ => rfl, nofun, nofun⟩
  | halfOpens hstate hresult =>
    refine ⟨hcounted, nofun, fun _ => ?_, fun _ => history.breaker.config.halfOpenMaxCalls_pos⟩
    simp [hstate, CircuitBreaker.transitionToHalfOpen]
  | succeeds hstate hresult hcalls =>
    refine ⟨hcounted, fun hopen => ?_, fun _ => ?_, fun _ => by simpa using hcalls⟩
    · cases hstate.symm.trans (CircuitBreaker.state_counted.symm.trans hopen)
    · simp [hstate, hresult, h.trial hstate, List.replicate_succ]
  | closes hstate hresult hcalls => exact ⟨hcounted, nofun, nofun, nofun⟩

/-- Every call keeps the fields about the records. -/
theorem Represents.apply_call {history : BreakerHistory} (h : history.Represents)
    (call : BreakerCall) : (apply (.call call) history).Represents := by
  have hcounted : Counted (call.apply history.breaker).metrics
      (call.result?.toList ++ history.results) := by
    rw [CircuitBreaker.metrics_apply]
    exact h.counted.counted call
  exact h.effect (CircuitBreaker.effect_apply call history.breaker) hcounted

/-- So does every method. -/
theorem Represents.apply {history : BreakerHistory} (h : history.Represents)
    (method : BreakerMethod) : (apply method history).Represents := by
  cases method with
  | call call => exact h.apply_call call
  | getStatus now => exact h.apply_call (.canExecute now)
  | reset => exact ⟨⟨rfl, rfl, rfl, rfl, rfl⟩, nofun, nofun, nofun⟩

/-- A new breaker has nothing recorded. -/
theorem represents_new (config : CircuitBreakerConfig) (providerName : String) :
    Represents ⟨{ config, providerName }, [], []⟩ :=
  ⟨⟨rfl, rfl, rfl, rfl, rfl⟩, nofun, nofun, nofun⟩

/-! ## Every sequence of methods -/

/-- What the fields say of the results and of the next request. -/
structure Sound (history : BreakerHistory) : Prop where
  totalRequests : history.breaker.metrics.totalRequests =
    history.breaker.metrics.successfulRequests + history.breaker.metrics.failedRequests
  oneStreak : history.breaker.metrics.consecutiveSuccesses = 0 ∨
    history.breaker.metrics.consecutiveFailures = 0
  consecutiveSuccesses : history.breaker.metrics.consecutiveSuccesses = streak true history.results
  consecutiveFailures : history.breaker.metrics.consecutiveFailures = streak false history.results
  opened : history.breaker.state = .opened → ∃ openTimestamp,
    history.breaker.openTimestamp = some openTimestamp ∧
    ∀ now, openTimestamp + history.breaker.config.openTimeoutSeconds ≤ now →
      (history.breaker.canExecute now).1 = true
  halfOpenCalls : history.breaker.state = .halfOpen →
    history.breaker.halfOpenCalls < history.breaker.config.halfOpenMaxCalls
  halfOpen : history.breaker.state = .halfOpen → ∀ now, (history.breaker.canExecute now).1 = true

/-- If the method closes a half-open circuit, then it is a reset, or the results recorded since the
state was entered, with its own, are the trial calls, and successes. -/
def ClosesByTrial (history : BreakerHistory) (method : BreakerMethod) : Prop :=
  history.breaker.state = .halfOpen → (apply method history).breaker.state = .closed →
    method = .reset ∨ method.result?.toList ++ history.trial =
      List.replicate history.breaker.config.halfOpenMaxCalls true

/-- A breaker that represents its history has counted it correctly. -/
theorem Represents.sound {history : BreakerHistory} (h : history.Represents) : history.Sound := by
  refine ⟨?_, ?_, h.counted.consecutiveSuccesses, h.counted.consecutiveFailures, fun hstate => ?_,
    h.halfOpenCalls, fun hstate now => ?_⟩
  · rw [h.counted.totalRequests, h.counted.successfulRequests, h.counted.failedRequests]
    exact (List.count_not_add_count history.results false).symm
  · rw [h.counted.consecutiveSuccesses, h.counted.consecutiveFailures]
    exact streak_eq_zero_or true history.results
  · obtain ⟨openTimestamp, htimestamp⟩ := Option.isSome_iff_exists.1 (h.openTimestamp hstate)
    refine ⟨openTimestamp, htimestamp, fun now hnow => ?_⟩
    have hrecovery : history.breaker.shouldAttemptRecovery now = true := by
      simp only [CircuitBreaker.shouldAttemptRecovery, htimestamp, decide_eq_true_eq]
      grind
    rw [CircuitBreaker.canExecute_of_opened now hstate, if_pos hrecovery]
  · rw [CircuitBreaker.canExecute_of_halfOpen now hstate]
    exact decide_eq_true (h.halfOpenCalls hstate)

/-- From HALF_OPEN it closes only by as many successes as trials are allowed. -/
theorem Represents.closesByTrial {history : BreakerHistory} (h : history.Represents)
    (method : BreakerMethod) : ClosesByTrial history method := by
  intro hhalfOpen hclosed
  obtain ⟨call, hcall, hresult⟩ | rfl : (∃ call : BreakerCall, method.apply history.breaker =
      call.apply history.breaker ∧ method.result? = call.result?) ∨ method = .reset := by
    cases method with
    | call call => exact .inl ⟨call, rfl, rfl⟩
    | getStatus now => exact .inl ⟨.canExecute now, rfl, rfl⟩
    | reset => exact .inr rfl
  · right
    simp only [BreakerHistory.apply, hcall] at hclosed
    have heffect := CircuitBreaker.effect_apply call history.breaker
    generalize call.apply history.breaker = breaker at heffect hclosed
    cases heffect with
    | stays | succeeds =>
      have hstate : history.breaker.state = .closed := by simpa using hclosed
      cases hhalfOpen.symm.trans hstate
    | opens | halfOpens => cases hclosed
    | closes _ hsuccess hcalls =>
      have hmax : history.breaker.halfOpenCalls + 1 = history.breaker.config.halfOpenMaxCalls := by
        have := h.halfOpenCalls hhalfOpen
        omega
      rw [hresult, hsuccess, h.trial hhalfOpen, ← hmax]
      rfl
  · exact .inl rfl

/-- From a new breaker on, after every sequence of methods, its fields are sound, and every method of
the sequence that closed a half-open circuit was a reset or ended a trial without failure. -/
theorem breaker_sound (config : CircuitBreakerConfig) (providerName : String)
    (methods : List BreakerMethod) :
    (after apply ⟨{ config, providerName }, [], []⟩ methods).Sound ∧
      Along apply ClosesByTrial ⟨{ config, providerName }, [], []⟩ methods := by
  have hstart : Represents ⟨{ config, providerName }, [], []⟩ := represents_new config providerName
  constructor
  · exact (after_induction hstart fun _ method _ h => h.apply method).sound
  · exact along_of_invariant hstart fun _ method _ h => ⟨h.closesByTrial method, h.apply method⟩

/-- The second trial call closes the circuit. -/
example : (after BreakerMethod.apply
    { config := ⟨1, 1, 60, 2, by decide +kernel, by decide, by decide, by decide⟩, providerName := "p" }
    [.call (.recordFailure 0), .getStatus 60, .call (.recordSuccess 61),
      .call (.recordSuccess 62)]).state = .closed := by decide +kernel

end BreakerHistory

end AgentRuntime
