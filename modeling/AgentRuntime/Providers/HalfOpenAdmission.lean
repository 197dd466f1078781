import AgentRuntime.Providers.CircuitBreaker

/-!
# Admission in half-open state

`_half_open_calls` counts the successes reported in a half-open period, not the requests admitted in
it, and the period ends as soon as it reaches its maximum. So a breaker in half-open state admits
every request that asks (`admitted_of_halfOpen`), and the number of requests admitted in a period is
bounded by the maximum exactly if the number of requests that ask is (`admission_bounded_iff`). The
counts are kept beside the breaker, whose calls they leave as they are (`breaker_after`).
-/

namespace AgentRuntime

open Interaction

namespace CircuitBreaker

/-- In half-open state, fewer successes than the maximum have been reported. -/
def Counting (self : CircuitBreaker) : Prop :=
  self.state = .halfOpen → self.halfOpenCalls < self.config.halfOpenMaxCalls

/-- Every call keeps the count below the maximum. -/
theorem Counting.apply {self : CircuitBreaker} (h : self.Counting) (call : BreakerCall) :
    (call.apply self).Counting := by
  have heffect := effect_apply call self
  generalize call.apply self = breaker at heffect ⊢
  intro hhalfOpen
  cases heffect with
  | stays => simpa using h (state_counted.symm.trans hhalfOpen)
  | opens | closes => cases hhalfOpen
  | halfOpens => exact self.config.halfOpenMaxCalls_pos
  | succeeds _ _ hcalls => simpa using hcalls

/-- A call that leaves the breaker in half-open state and asks for admission is admitted. -/
theorem admitted_of_halfOpen {self : CircuitBreaker} (h : self.Counting) {call : BreakerCall}
    (hhalfOpen : (call.apply self).state = .halfOpen) : call.admitted self = call.asks := by
  cases call with
  | canExecute now =>
    simp only [BreakerCall.apply] at hhalfOpen
    simp only [BreakerCall.admitted, BreakerCall.asks]
    cases hstate : self.state with
    | closed => rw [canExecute_of_closed now hstate]
    | opened =>
      rw [canExecute_of_opened now hstate] at hhalfOpen ⊢
      split
      · rfl
      · next hrecovery =>
        rw [if_neg hrecovery, hstate] at hhalfOpen
        cases hhalfOpen
    | halfOpen =>
      rw [canExecute_of_halfOpen now hstate]
      exact decide_eq_true (h hstate)
  | recordSuccess now => rfl
  | recordFailure now => rfl

end CircuitBreaker

/-! ## Half-open periods -/

/-- A breaker, and the requests of its current half-open period, which begins with the request that
the breaker enters the state for: those that asked, and those it admitted. -/
structure HalfOpenPeriod where
  breaker : CircuitBreaker
  asked : Nat := 0
  admitted : Nat := 0

namespace HalfOpenPeriod

/-- A call of the breaker; outside half-open state nothing is counted. -/
def apply (call : BreakerCall) (self : HalfOpenPeriod) : HalfOpenPeriod :=
  let breaker := call.apply self.breaker
  if breaker.state = .halfOpen then
    { breaker
      asked := self.asked + (call.asks).toNat
      admitted := self.admitted + (call.admitted self.breaker).toNat }
  else
    { breaker }

/-- The counts do not influence the breaker. -/
theorem breaker_after (calls : List BreakerCall) (self : HalfOpenPeriod) :
    (after apply self calls).breaker = after BreakerCall.apply self.breaker calls := by
  refine after_map HalfOpenPeriod.breaker ?_ calls self
  intro call self
  simp only [apply]
  split <;> rfl

/-- The counts are about a half-open period, and its requests have all been admitted. -/
structure Counted (period : HalfOpenPeriod) : Prop where
  counting : period.breaker.Counting
  admitted : period.admitted = period.asked

/-- Every call keeps the count of the period. -/
theorem Counted.apply {self : HalfOpenPeriod} (h : self.Counted) (call : BreakerCall) :
    (apply call self).Counted := by
  simp only [HalfOpenPeriod.apply]
  split
  · next hhalfOpen =>
    refine ⟨h.counting.apply call, ?_⟩
    rw [h.admitted, CircuitBreaker.admitted_of_halfOpen h.counting hhalfOpen]
  · exact ⟨h.counting.apply call, rfl⟩

/-- No more requests than the maximum have been admitted in the half-open period. -/
def AdmissionBounded (self : HalfOpenPeriod) : Prop :=
  self.admitted ≤ self.breaker.config.halfOpenMaxCalls

/-- No more requests than the maximum have asked in the half-open period. -/
def AsksBounded (self : HalfOpenPeriod) : Prop := self.asked ≤ self.breaker.config.halfOpenMaxCalls

/-- From a new breaker on, the admissions of every half-open period are bounded exactly if the
requests that ask are. -/
theorem admission_bounded_iff (config : CircuitBreakerConfig) (providerName : String)
    (calls : List BreakerCall) :
    Along apply (fun period call => (apply call period).AdmissionBounded)
        ⟨{ config, providerName }, 0, 0⟩ calls ↔
      Along apply (fun period call => (apply call period).AsksBounded)
        ⟨{ config, providerName }, 0, 0⟩ calls := by
  have hstart : Counted ⟨{ config, providerName }, 0, 0⟩ := ⟨nofun, rfl⟩
  refine along_iff (I := Counted) hstart (fun period call _ h => ?_) fun _ call _ h _ => h.apply call
  rw [AdmissionBounded, AsksBounded, (h.apply call).admitted]

/-- Two requests of one period are admitted, where the maximum is one: the second asks before the first
reports. -/
theorem not_admission_bounded : ¬∀ (config : CircuitBreakerConfig) (providerName : String)
    (calls : List BreakerCall),
    Along apply (fun period call => (apply call period).AdmissionBounded)
      ⟨{ config, providerName }, 0, 0⟩ calls := by
  intro h
  let config : CircuitBreakerConfig := ⟨1, 1, 60, 1, by decide +kernel, by decide, by decide, by decide⟩
  let calls : List BreakerCall :=
    [.canExecute 0, .recordFailure 0, .canExecute 60, .canExecute 60]
  have hbounded := (h config "p" calls).2.2.2.1
  exact absurd hbounded (by unfold AdmissionBounded; decide +kernel)

end HalfOpenPeriod

end AgentRuntime
