import AgentRuntime.Interaction.History
import AgentRuntime.Python.Values

/-!
# The circuit breaker

`CircuitBreaker` (`app/infrastructure/providers/circuit_breaker.py`) with its configuration
(`app/domain/providers/value_objects.py`). Rates and times are floats in the source and rational
numbers here, where no rounding takes place: a threshold is read as the decimal fraction that it is written
as (0.1 as 1/10, not as the float next to it), as the rate that it is compared with is read as the fraction
of its two counts. A method that reads the clock is given one time for all its readings; that none of them can
raise is why they are functions of the breaker.
-/

namespace AgentRuntime

open Interaction

/-- Circuit breaker configuration. A configuration that the constructor refuses cannot be built. -/
structure CircuitBreakerConfig where
  failureRateThreshold : Rat
  minimumRequests : Nat
  openTimeoutSeconds : Nat
  halfOpenMaxCalls : Nat
  threshold_mem : 0 ≤ failureRateThreshold ∧ failureRateThreshold ≤ 1
  minimumRequests_pos : 0 < minimumRequests
  openTimeoutSeconds_pos : 0 < openTimeoutSeconds
  halfOpenMaxCalls_pos : 0 < halfOpenMaxCalls

/-- `CircuitBreakerConfig(…)`. -/
def CircuitBreakerConfig.ofValues (failureRateThreshold : Rat)
    (minimumRequests openTimeoutSeconds halfOpenMaxCalls : Int) :
    Except PyError CircuitBreakerConfig :=
  if hthreshold : 0 ≤ failureRateThreshold ∧ failureRateThreshold ≤ 1 then
    if hminimum : minimumRequests ≤ 0 then
      .error (.valueError "Minimum requests must be positive")
    else if htimeout : openTimeoutSeconds ≤ 0 then
      .error (.valueError "Open timeout must be positive")
    else if hcalls : halfOpenMaxCalls ≤ 0 then
      .error (.valueError "Half-open max calls must be positive")
    else
      .ok ⟨failureRateThreshold, minimumRequests.toNat, openTimeoutSeconds.toNat,
        halfOpenMaxCalls.toNat, hthreshold, by omega, by omega, by omega⟩
  else
    .error (.valueError "Failure rate threshold must be between 0 and 1")

/-- Circuit breaker states; `opened` is `OPEN`. -/
inductive CircuitState where
  | closed
  | opened
  | halfOpen
  deriving DecidableEq, Repr

/-- `state.value`. -/
def CircuitState.value : CircuitState → String
  | closed => "closed"
  | opened => "open"
  | halfOpen => "half_open"

/-- Metrics for circuit breaker monitoring. -/
structure CircuitBreakerMetrics where
  totalRequests : Nat := 0
  successfulRequests : Nat := 0
  failedRequests : Nat := 0
  lastFailureTime : Option Rat := none
  lastSuccessTime : Option Rat := none
  consecutiveFailures : Nat := 0
  consecutiveSuccesses : Nat := 0
  deriving Repr

namespace CircuitBreakerMetrics

/-- Calculate current failure rate. -/
def failureRate (self : CircuitBreakerMetrics) : Rat :=
  if self.totalRequests = 0 then 0 else self.failedRequests / self.totalRequests

/-- Count a successful request. -/
def succeeded (now : Rat) (self : CircuitBreakerMetrics) : CircuitBreakerMetrics :=
  { self with
    totalRequests := self.totalRequests + 1
    successfulRequests := self.successfulRequests + 1
    consecutiveSuccesses := self.consecutiveSuccesses + 1
    consecutiveFailures := 0
    lastSuccessTime := now }

/-- Count a failed request. -/
def failed (now : Rat) (self : CircuitBreakerMetrics) : CircuitBreakerMetrics :=
  { self with
    totalRequests := self.totalRequests + 1
    failedRequests := self.failedRequests + 1
    consecutiveFailures := self.consecutiveFailures + 1
    consecutiveSuccesses := 0
    lastFailureTime := now }

end CircuitBreakerMetrics

/-- The length of the failure window. -/
def failureWindowLength : Nat := 100

/-- `append` to a deque of bounded length: the oldest entry gives way. -/
def appendBounded (window : List Bool) (success : Bool) : List Bool :=
  (window ++ [success]).drop (window.length + 1 - failureWindowLength)

/-- Circuit breaker for provider resilience. -/
structure CircuitBreaker where
  config : CircuitBreakerConfig
  providerName : String
  state : CircuitState := .closed
  metrics : CircuitBreakerMetrics := {}
  failureWindow : List Bool := []
  openTimestamp : Option Rat := none
  halfOpenCalls : Nat := 0

namespace CircuitBreaker

/-- `CircuitBreaker.__post_init__`. -/
def postInit (self : CircuitBreaker) : Except PyError CircuitBreaker :=
  if self.providerName = "" then
    .error (.valueError "Provider name cannot be empty")
  else
    .ok self

/-- Transition circuit to open state. -/
def transitionToOpen (now : Rat) (self : CircuitBreaker) : CircuitBreaker :=
  { self with state := .opened, openTimestamp := now, halfOpenCalls := 0 }

/-- Transition circuit to half-open state. -/
def transitionToHalfOpen (self : CircuitBreaker) : CircuitBreaker :=
  { self with state := .halfOpen, halfOpenCalls := 0 }

/-- Transition circuit to closed state. -/
def transitionToClosed (self : CircuitBreaker) : CircuitBreaker :=
  { self with state := .closed, openTimestamp := none, halfOpenCalls := 0 }

/-- Check if circuit should trip based on failure rate. -/
def shouldTrip (self : CircuitBreaker) : Bool :=
  if self.metrics.totalRequests < self.config.minimumRequests then
    false
  else
    self.config.failureRateThreshold ≤ self.metrics.failureRate

/-- Check if we should attempt recovery from open state. -/
def shouldAttemptRecovery (now : Rat) (self : CircuitBreaker) : Bool :=
  match self.openTimestamp with
  | none => false
  | some openTimestamp => (self.config.openTimeoutSeconds : Rat) ≤ now - openTimestamp

/-- The first lines of `record_success`: metrics and window. -/
def countSuccess (now : Rat) (self : CircuitBreaker) : CircuitBreaker :=
  { self with
    metrics := self.metrics.succeeded now
    failureWindow := appendBounded self.failureWindow true }

/-- The first lines of `record_failure`: metrics and window. -/
def countFailure (now : Rat) (self : CircuitBreaker) : CircuitBreaker :=
  { self with
    metrics := self.metrics.failed now
    failureWindow := appendBounded self.failureWindow false }

/-- Record a successful request. -/
def recordSuccess (now : Rat) (self : CircuitBreaker) : CircuitBreaker :=
  let self := self.countSuccess now
  if self.state = .halfOpen then
    let self := { self with halfOpenCalls := self.halfOpenCalls + 1 }
    -- enough successes in half-open close the circuit
    if self.config.halfOpenMaxCalls ≤ self.halfOpenCalls then self.transitionToClosed else self
  else
    self

/-- Record a failed request. -/
def recordFailure (now : Rat) (self : CircuitBreaker) : CircuitBreaker :=
  let self := self.countFailure now
  match self.state with
  | .halfOpen => self.transitionToOpen now
  | .closed => if self.shouldTrip then self.transitionToOpen now else self
  | .opened => self

/-- Check if requests can execute through the circuit breaker. -/
def canExecute (now : Rat) (self : CircuitBreaker) : Bool × CircuitBreaker :=
  match self.state with
  | .closed => (true, self)
  | .opened =>
    if self.shouldAttemptRecovery now then (true, self.transitionToHalfOpen) else (false, self)
  | .halfOpen => (self.halfOpenCalls < self.config.halfOpenMaxCalls, self)

end CircuitBreaker

/-! ## Calls -/

/-- A call of the breaker, at a time. -/
inductive BreakerCall where
  | canExecute (now : Rat)
  | recordSuccess (now : Rat)
  | recordFailure (now : Rat)

namespace BreakerCall

/-- What the call makes of the breaker. -/
def apply : BreakerCall → CircuitBreaker → CircuitBreaker
  | canExecute now, self => (self.canExecute now).2
  | recordSuccess now, self => self.recordSuccess now
  | recordFailure now, self => self.recordFailure now

/-- The call asks for admission. -/
def asks : BreakerCall → Bool
  | canExecute _ => true
  | _ => false

/-- The call asks for admission, and the breaker admits the request. -/
def admitted (self : CircuitBreaker) : BreakerCall → Bool
  | canExecute now => (self.canExecute now).1
  | _ => false

/-- The result that the call records: `true` is a success. -/
def result? : BreakerCall → Option Bool
  | canExecute _ => none
  | recordSuccess _ => some true
  | recordFailure _ => some false

end BreakerCall

namespace CircuitBreaker

/-! ## What a call does -/

section
variable {self : CircuitBreaker} (now : Rat)

/-- A success in HALF_OPEN counts as a trial, and closes the circuit when enough have succeeded. -/
theorem recordSuccess_of_halfOpen (h : self.state = .halfOpen) :
    self.recordSuccess now =
      if self.config.halfOpenMaxCalls ≤ self.halfOpenCalls + 1 then
        (self.countSuccess now).transitionToClosed
      else
        { self.countSuccess now with halfOpenCalls := self.halfOpenCalls + 1 } := by
  simp only [recordSuccess, show (self.countSuccess now).state = .halfOpen from h, if_true]
  rfl

/-- In any other state it is only counted. -/
theorem recordSuccess_of_ne (h : self.state ≠ .halfOpen) :
    self.recordSuccess now = self.countSuccess now := if_neg h

/-- A failure in CLOSED opens the circuit if one of the thresholds is reached. -/
theorem recordFailure_of_closed (h : self.state = .closed) :
    self.recordFailure now =
      if (self.countFailure now).shouldTrip then (self.countFailure now).transitionToOpen now
      else self.countFailure now := by
  simp only [recordFailure, show (self.countFailure now).state = .closed from h]

/-- In OPEN it is only counted. -/
theorem recordFailure_of_opened (h : self.state = .opened) :
    self.recordFailure now = self.countFailure now := by
  simp only [recordFailure, show (self.countFailure now).state = .opened from h]

/-- In HALF_OPEN it opens the circuit at once. -/
theorem recordFailure_of_halfOpen (h : self.state = .halfOpen) :
    self.recordFailure now = (self.countFailure now).transitionToOpen now := by
  simp only [recordFailure, show (self.countFailure now).state = .halfOpen from h]

/-- In CLOSED every call is admitted. -/
theorem canExecute_of_closed (h : self.state = .closed) : self.canExecute now = (true, self) := by
  simp only [canExecute, h]

/-- In OPEN none is before the recovery timeout; the first one after it moves the circuit to HALF_OPEN. -/
theorem canExecute_of_opened (h : self.state = .opened) :
    self.canExecute now = if self.shouldAttemptRecovery now then (true, self.transitionToHalfOpen)
      else (false, self) := by
  simp only [canExecute, h]

/-- In HALF_OPEN a call is admitted while fewer trials have succeeded than are allowed. -/
theorem canExecute_of_halfOpen (h : self.state = .halfOpen) :
    self.canExecute now = (decide (self.halfOpenCalls < self.config.halfOpenMaxCalls), self) := by
  simp only [canExecute, h]

end

/-- What a call counts, before the breaker changes its state. -/
def counted : BreakerCall → CircuitBreaker → CircuitBreaker
  | .canExecute _, self => self
  | .recordSuccess now, self => self.countSuccess now
  | .recordFailure now, self => self.countFailure now

/-- Counting a result leaves the state. -/
@[simp] theorem state_counted {call : BreakerCall} {self : CircuitBreaker} :
    (counted call self).state = self.state := by
  cases call <;> rfl

/-- It leaves the number of trials. -/
@[simp] theorem halfOpenCalls_counted {call : BreakerCall} {self : CircuitBreaker} :
    (counted call self).halfOpenCalls = self.halfOpenCalls := by
  cases call <;> rfl

/-- It leaves the time at which the circuit was opened. -/
@[simp] theorem openTimestamp_counted {call : BreakerCall} {self : CircuitBreaker} :
    (counted call self).openTimestamp = self.openTimestamp := by
  cases call <;> rfl

/-- It leaves the configuration. -/
@[simp] theorem config_counted {call : BreakerCall} {self : CircuitBreaker} :
    (counted call self).config = self.config := by
  cases call <;> rfl

/-- What a call can do: it counts and no more, it opens, half-opens or closes the circuit, or it reports
one success of the half-open period. -/
inductive Effect (self : CircuitBreaker) (call : BreakerCall) : CircuitBreaker → Prop where
  | stays (htrial : self.state = .halfOpen → call.result? = none) :
      Effect self call (counted call self)
  | opens (now : Rat) (hresult : call.result? = some false) :
      Effect self call ((counted call self).transitionToOpen now)
  | halfOpens (hstate : self.state = .opened) (hresult : call.result? = none) :
      Effect self call self.transitionToHalfOpen
  | succeeds (hstate : self.state = .halfOpen) (hresult : call.result? = some true)
      (hcalls : self.halfOpenCalls + 1 < self.config.halfOpenMaxCalls) :
      Effect self call { counted call self with halfOpenCalls := self.halfOpenCalls + 1 }
  | closes (hstate : self.state = .halfOpen) (hresult : call.result? = some true)
      (hcalls : self.config.halfOpenMaxCalls ≤ self.halfOpenCalls + 1) :
      Effect self call (counted call self).transitionToClosed

/-- Every call has one of these effects. -/
theorem effect_apply (call : BreakerCall) (self : CircuitBreaker) :
    Effect self call (call.apply self) := by
  cases call with
  | canExecute now =>
    simp only [BreakerCall.apply]
    cases hstate : self.state with
    | closed =>
      rw [canExecute_of_closed now hstate]
      exact .stays fun _ => rfl
    | opened =>
      rw [canExecute_of_opened now hstate]
      split
      · exact .halfOpens hstate rfl
      · exact .stays fun _ => rfl
    | halfOpen =>
      rw [canExecute_of_halfOpen now hstate]
      exact .stays fun _ => rfl
  | recordSuccess now =>
    simp only [BreakerCall.apply]
    by_cases hstate : self.state = .halfOpen
    · rw [recordSuccess_of_halfOpen now hstate]
      split
      · next hcalls => exact .closes hstate rfl hcalls
      · next hcalls => exact .succeeds hstate rfl (Nat.lt_of_not_le hcalls)
    · rw [recordSuccess_of_ne now hstate]
      exact .stays fun h => absurd h hstate
  | recordFailure now =>
    simp only [BreakerCall.apply]
    cases hstate : self.state with
    | closed =>
      rw [recordFailure_of_closed now hstate]
      split
      · exact .opens now rfl
      · exact .stays fun h => by cases hstate.symm.trans h
    | opened =>
      rw [recordFailure_of_opened now hstate]
      exact .stays fun h => by cases hstate.symm.trans h
    | halfOpen =>
      rw [recordFailure_of_halfOpen now hstate]
      exact .opens now rfl

/-- Beyond what it counts, a call changes the state, the time stamp and the half-open calls only. -/
theorem apply_keeps {I : CircuitBreaker → Prop} {call : BreakerCall} {self : CircuitBreaker}
    (hcounted : I (counted call self))
    (h : ∀ (self : CircuitBreaker) state openTimestamp halfOpenCalls, I self →
      I { self with state, openTimestamp, halfOpenCalls }) : I (call.apply self) := by
  have heffect := effect_apply call self
  generalize call.apply self = breaker at heffect ⊢
  cases heffect with
  | stays => exact hcounted
  | opens | closes => exact h (counted call self) _ _ _ hcounted
  | succeeds => exact h (counted call self) (counted call self).state _ _ hcounted
  | halfOpens _ hresult =>
    cases call with
    | canExecute now => exact h self _ _ _ hcounted
    | recordSuccess now | recordFailure now => cases hresult

/-- Every call keeps the configuration. -/
@[simp] theorem config_apply (call : BreakerCall) (self : CircuitBreaker) :
    (call.apply self).config = self.config :=
  apply_keeps (I := fun breaker => breaker.config = self.config) (by cases call <;> rfl)
    fun _ _ _ _ => id

/-- A call changes the counters by what it reports alone. -/
theorem metrics_apply (call : BreakerCall) (self : CircuitBreaker) :
    (call.apply self).metrics = (counted call self).metrics :=
  apply_keeps (I := fun breaker => breaker.metrics = (counted call self).metrics) rfl fun _ _ _ _ => id

/-- It changes the window of failures by what it reports alone. -/
theorem failureWindow_apply (call : BreakerCall) (self : CircuitBreaker) :
    (call.apply self).failureWindow = (counted call self).failureWindow :=
  apply_keeps (I := fun breaker => breaker.failureWindow = (counted call self).failureWindow) rfl
    fun _ _ _ _ => id

/-- A closed circuit stays closed, or trips on a failure. -/
theorem state_apply_of_closed {self : CircuitBreaker} (h : self.state = .closed)
    (call : BreakerCall) : (call.apply self).state =
      if call.result? = some false ∧ (counted call self).shouldTrip = true then .opened
      else .closed := by
  cases call with
  | canExecute now =>
    rw [if_neg (by simp [BreakerCall.result?])]
    simp only [BreakerCall.apply, canExecute_of_closed now h, h]
  | recordSuccess now =>
    rw [if_neg (by simp [BreakerCall.result?])]
    simp only [BreakerCall.apply, recordSuccess_of_ne now (h.trans_ne nofun)]
    exact h
  | recordFailure now =>
    simp only [BreakerCall.apply, recordFailure_of_closed now h, BreakerCall.result?, true_and, counted]
    split
    · rfl
    · exact h

/-- A circuit is closed by a success in half-open state only. -/
theorem closed_of_apply {self : CircuitBreaker} {call : BreakerCall}
    (h : (call.apply self).state = .closed) :
    self.state = .closed ∨ self.state = .halfOpen ∧ call.result? = some true := by
  have heffect := effect_apply call self
  generalize call.apply self = breaker at heffect h
  cases heffect with
  | stays => exact .inl (state_counted.symm.trans h)
  | opens | halfOpens => cases h
  | succeeds hstate _ _ => cases hstate.symm.trans (state_counted.symm.trans h)
  | closes hstate hresult _ => exact .inr ⟨hstate, hresult⟩

/-- When the circuit trips. -/
theorem shouldTrip_iff (self : CircuitBreaker) :
    self.shouldTrip = true ↔ self.config.minimumRequests ≤ self.metrics.totalRequests ∧
      self.config.failureRateThreshold ≤ self.metrics.failureRate := by
  unfold shouldTrip
  split
  · next h => simp only [Bool.false_eq_true, false_iff, not_and]; omega
  · next h => simp only [decide_eq_true_eq, Nat.le_of_not_lt h, true_and]

end CircuitBreaker

end AgentRuntime
