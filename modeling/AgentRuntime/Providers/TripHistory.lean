import AgentRuntime.Providers.CircuitBreaker

/-!
# When the circuit trips

The breaker trips by the failure rate over all results since it was built. Its window of the last
results is kept up to date (`Consistent.failureWindow`) and never read, and a recovery does not reset
the metrics. Whether a trip is about recent traffic therefore depends on that rate
(`recentTraffic_iff`). What is recorded of a run is kept beside the breaker (`breaker_after`).
-/

namespace AgentRuntime

open Interaction

/-- A breaker with the results recorded since it was built, the latest first, and the number of those
recorded since it last recovered. -/
structure TripHistory where
  breaker : CircuitBreaker
  results : List Bool := []
  sinceRecovery : Option Nat := none

/-- The failure rate over all results. -/
def overallFailureRate (results : List Bool) : Rat :=
  if results.length = 0 then 0 else (results.count false : Rat) / results.length

/-- The last hundred results are there, and all failures. -/
def RecentAllFailed (results : List Bool) : Prop :=
  results.take failureWindowLength = List.replicate failureWindowLength false

/-- Only a full window of results can have failed. -/
theorem RecentAllFailed.le_length {results : List Bool} (h : RecentAllFailed results) :
    failureWindowLength ≤ results.length := by
  have hlength := congrArg List.length h
  rw [List.length_take, List.length_replicate] at hlength
  omega

/-- It has not after a success. -/
theorem not_recentAllFailed_success (results : List Bool) : ¬RecentAllFailed (true :: results) := by
  intro h
  have hhead := congrArg List.head? h
  simp [failureWindowLength] at hhead

namespace TripHistory

/-- A call of the breaker. -/
def apply (call : BreakerCall) (self : TripHistory) : TripHistory :=
  let breaker := call.apply self.breaker
  { breaker
    results := call.result?.toList ++ self.results
    sinceRecovery :=
      if self.breaker.state = .halfOpen ∧ breaker.state = .closed then some 0
      else self.sinceRecovery.map fun n => n + call.result?.toList.length }

/-- The records do not influence the breaker. -/
theorem breaker_after (calls : List BreakerCall) (self : TripHistory) :
    (after apply self calls).breaker = after BreakerCall.apply self.breaker calls :=
  after_map TripHistory.breaker (fun _ _ => rfl) calls self

/-- The trips are about recent traffic: the breaker is not closed after a hundred failures, and it
does not trip before the minimum of results has been recorded since it recovered. -/
structure RecentTraffic (history : TripHistory) (call : BreakerCall) : Prop where
  hasTripped : (apply call history).breaker.state = .closed →
    ¬RecentAllFailed (apply call history).results
  notEarly : history.breaker.state = .closed → (apply call history).breaker.state = .opened →
    ∀ n, (apply call history).sinceRecovery = some n → history.breaker.config.minimumRequests ≤ n

/-- If the call records a failure in closed state, then the failure rate over all results, this one
included, reaches the threshold when the failure is the last of a hundred, and does not reach it
before the minimum of results has been recorded since the breaker recovered. -/
structure RateFollows (history : TripHistory) (call : BreakerCall) : Prop where
  reaches : call.result? = some false → history.breaker.state = .closed →
    RecentAllFailed (false :: history.results) →
      history.breaker.config.failureRateThreshold ≤ overallFailureRate (false :: history.results)
  staysBelow : call.result? = some false → history.breaker.state = .closed →
    ∀ n, history.sinceRecovery = some n → n + 1 < history.breaker.config.minimumRequests →
      overallFailureRate (false :: history.results) < history.breaker.config.failureRateThreshold

/-- The metrics and the window are about the recorded results, and what has tripped has seen the
minimum of them. -/
structure Consistent (history : TripHistory) : Prop where
  totalRequests : history.breaker.metrics.totalRequests = history.results.length
  failedRequests : history.breaker.metrics.failedRequests = history.results.count false
  failureWindow : history.breaker.failureWindow =
    (history.results.take failureWindowLength).reverse
  minimum_le : history.breaker.config.minimumRequests ≤ failureWindowLength
  tripped : history.breaker.state ≠ .closed ∨ history.sinceRecovery.isSome = true →
    history.breaker.config.minimumRequests ≤ history.results.length

/-- The window keeps the latest results. -/
theorem appendBounded_window (results : List Bool) (success : Bool) :
    appendBounded (results.take failureWindowLength).reverse success =
      ((success :: results).take failureWindowLength).reverse := by
  have hlength : (success :: results.take failureWindowLength).length -
      ((results.take failureWindowLength).reverse.length + 1 - failureWindowLength) =
      min results.length 99 + 1 := by
    simp only [failureWindowLength, List.length_cons, List.length_reverse, List.length_take]
    omega
  have htake : (results.take failureWindowLength).take (min results.length 99) = results.take 99 := by
    rw [List.take_take, List.take_eq_take_iff, failureWindowLength]
    omega
  unfold appendBounded
  rw [← List.reverse_cons, List.drop_reverse, hlength, List.take_succ_cons, htake]
  rfl

/-- A call records at most one result. -/
theorem results_length (call : BreakerCall) (self : TripHistory) :
    self.results.length ≤ (apply call self).results.length := by
  simp [apply]

/-- The breaker counts the results that were reported. -/
theorem Consistent.counted_totalRequests {history : TripHistory} (h : history.Consistent)
    (call : BreakerCall) : (CircuitBreaker.counted call history.breaker).metrics.totalRequests =
      (apply call history).results.length := by
  cases call with
  | canExecute now => exact h.totalRequests
  | recordSuccess now => exact congrArg (· + 1) h.totalRequests
  | recordFailure now => exact congrArg (· + 1) h.totalRequests

/-- It counts the failures among them. -/
theorem Consistent.counted_failedRequests {history : TripHistory} (h : history.Consistent)
    (call : BreakerCall) : (CircuitBreaker.counted call history.breaker).metrics.failedRequests =
      (apply call history).results.count false := by
  cases call with
  | canExecute now => exact h.failedRequests
  | recordSuccess now => exact h.failedRequests.trans (List.count_cons_of_ne (by decide)).symm
  | recordFailure now => exact (congrArg (· + 1) h.failedRequests).trans List.count_cons_self.symm

/-- The circuit trips by the minimum and the failure rate of all results. -/
theorem Consistent.shouldTrip_iff {history : TripHistory} (h : history.Consistent)
    (call : BreakerCall) : (CircuitBreaker.counted call history.breaker).shouldTrip = true ↔
      history.breaker.config.minimumRequests ≤ (apply call history).results.length ∧
      history.breaker.config.failureRateThreshold ≤
        overallFailureRate (apply call history).results := by
  have hconfig : (CircuitBreaker.counted call history.breaker).config = history.breaker.config := by
    cases call <;> rfl
  rw [CircuitBreaker.shouldTrip_iff, CircuitBreakerMetrics.failureRate, h.counted_totalRequests,
    h.counted_failedRequests, hconfig, overallFailureRate]

/-- Every call keeps the records consistent. -/
theorem Consistent.apply {history : TripHistory} (h : history.Consistent) (call : BreakerCall) :
    (apply call history).Consistent := by
  have hconfig : (TripHistory.apply call history).breaker.config = history.breaker.config :=
    CircuitBreaker.config_apply call history.breaker
  refine ⟨?_, ?_, ?_, hconfig ▸ h.minimum_le, ?_⟩
  · rw [← h.counted_totalRequests, ← CircuitBreaker.metrics_apply]
    rfl
  · rw [← h.counted_failedRequests, ← CircuitBreaker.metrics_apply]
    rfl
  · simp only [TripHistory.apply, CircuitBreaker.failureWindow_apply]
    cases call with
    | canExecute now => exact h.failureWindow
    | recordSuccess now =>
      simp only [CircuitBreaker.counted, CircuitBreaker.countSuccess, h.failureWindow]
      exact appendBounded_window history.results true
    | recordFailure now =>
      simp only [CircuitBreaker.counted, CircuitBreaker.countFailure, h.failureWindow]
      exact appendBounded_window history.results false
  · intro htripped
    rw [hconfig]
    by_cases hbefore : history.breaker.state ≠ .closed ∨ history.sinceRecovery.isSome = true
    · exact Nat.le_trans (h.tripped hbefore) (results_length call history)
    · -- the circuit has been closed since it was built, so it trips now
      have hclosed : history.breaker.state = .closed := by
        by_contra hopen
        exact hbefore (.inl hopen)
      have hnever : history.sinceRecovery = none := by
        by_contra hsome
        exact hbefore (.inr (Option.isSome_iff_ne_none.2 hsome))
      have hstate := CircuitBreaker.state_apply_of_closed hclosed call
      split at hstate
      · next htrip => exact ((h.shouldTrip_iff call).1 htrip.2).1
      · simp [TripHistory.apply, hclosed, hnever, hstate] at htripped

/-- A new breaker has nothing recorded. -/
theorem consistent_new {config : CircuitBreakerConfig}
    (hminimum : config.minimumRequests ≤ failureWindowLength) (providerName : String) :
    Consistent ⟨{ config, providerName }, [], none⟩ := by
  refine ⟨rfl, rfl, rfl, hminimum, ?_⟩
  rintro (hopen | hrecovered)
  · exact absurd rfl hopen
  · cases hrecovered

/-! ## Calls -/

/-- The breaker is not closed after a hundred failures. -/
def NotFailing (history : TripHistory) : Prop :=
  history.breaker.state = .closed → ¬RecentAllFailed history.results

/-- A call that records no failure is harmless. -/
theorem recentTraffic_of_no_failure {history : TripHistory} (hnot : history.NotFailing)
    {call : BreakerCall} (hcall : call.result? ≠ some false) : RecentTraffic history call := by
  constructor
  · intro hclosed
    cases call with
    | canExecute now =>
      have hbefore := CircuitBreaker.closed_of_apply hclosed
      obtain hbefore | ⟨-, hresult⟩ := hbefore
      · exact hnot hbefore
      · cases hresult
    | recordSuccess now => exact not_recentAllFailed_success history.results
    | recordFailure now => exact absurd rfl hcall
  · intro hclosed hopened
    have hstate := CircuitBreaker.state_apply_of_closed hclosed call
    rw [if_neg fun h => hcall h.1] at hstate
    exact absurd (hstate.symm.trans hopened) nofun

/-- A call keeps the trips about recent traffic exactly if the overall failure rate is as it should
be. -/
theorem recentTraffic_call_iff {history : TripHistory} (h : history.Consistent)
    (hnot : history.NotFailing) (call : BreakerCall) :
    RecentTraffic history call ↔ RateFollows history call := by
  by_cases hfailure : call.result? = some false
  swap
  · exact iff_of_true (recentTraffic_of_no_failure hnot hfailure)
      ⟨fun hcall => absurd hcall hfailure, fun hcall => absurd hcall hfailure⟩
  by_cases hclosed : history.breaker.state = .closed
  swap
  · refine iff_of_true ⟨fun hafter => ?_, fun hbefore => absurd hbefore hclosed⟩
      ⟨fun _ hbefore => absurd hbefore hclosed, fun _ hbefore => absurd hbefore hclosed⟩
    obtain hbefore | ⟨-, hsuccess⟩ := CircuitBreaker.closed_of_apply hafter
    · exact absurd hbefore hclosed
    · rw [hfailure] at hsuccess
      cases hsuccess
  have hresults : (apply call history).results = false :: history.results := by
    simp [apply, hfailure]
  have hsince : (apply call history).sinceRecovery = history.sinceRecovery.map (· + 1) := by
    simp [apply, hfailure, hclosed]
  have htrip := h.shouldTrip_iff call
  rw [hresults, List.length_cons] at htrip
  have hstate : (apply call history).breaker.state = _ :=
    CircuitBreaker.state_apply_of_closed hclosed call
  simp only [hfailure, true_and] at hstate
  constructor
  · intro hrecent
    refine ⟨fun _ _ hfailed => ?_, fun _ _ n hn hearly => ?_⟩
    · by_contra hrate
      rw [if_neg fun hshould => hrate (htrip.1 hshould).2] at hstate
      exact hrecent.hasTripped hstate (hresults ▸ hfailed)
    · by_contra hrate
      have hminimum := h.tripped (.inr (Option.isSome_iff_exists.2 ⟨n, hn⟩))
      rw [if_pos (htrip.2 ⟨by omega, Rat.not_lt.1 hrate⟩)] at hstate
      have hlate := hrecent.notEarly hclosed hstate (n + 1) (by rw [hsince, hn]; rfl)
      omega
  · intro hrate
    refine ⟨fun hafter hfailed => ?_, fun _ hafter n hn => ?_⟩
    · rw [hresults] at hfailed
      have hlength := hfailed.le_length
      rw [List.length_cons] at hlength
      have hminimum := h.minimum_le
      rw [if_pos (htrip.2 ⟨by omega, hrate.reaches hfailure hclosed hfailed⟩)] at hstate
      exact absurd (hstate.symm.trans hafter) nofun
    · obtain ⟨m, hm, rfl⟩ : ∃ m, history.sinceRecovery = some m ∧ m + 1 = n := by
        rw [hsince] at hn
        exact Option.map_eq_some_iff.1 hn
      by_contra hearly
      have hbelow := hrate.staysBelow hfailure hclosed m hm (by omega)
      rw [if_neg fun hshould => Rat.not_lt.2 (htrip.1 hshould).2 hbelow] at hstate
      exact absurd (hstate.symm.trans hafter) nofun

/-- From a new breaker on, the trips are about recent traffic exactly while the overall failure rate
reaches the threshold with every hundredth failure in a row, and stays below it until the minimum of
results has been recorded since a recovery. -/
theorem recentTraffic_iff {config : CircuitBreakerConfig}
    (hminimum : config.minimumRequests ≤ failureWindowLength) (providerName : String)
    (calls : List BreakerCall) :
    Along apply RecentTraffic ⟨{ config, providerName }, [], none⟩ calls ↔
      Along apply RateFollows ⟨{ config, providerName }, [], none⟩ calls := by
  refine along_iff (I := fun history => history.Consistent ∧ history.NotFailing)
    ⟨consistent_new hminimum providerName, fun _ => nofun⟩
    (fun history call _ h => recentTraffic_call_iff h.1 h.2 call)
    fun history call _ h hrecent => ⟨h.1.apply call, hrecent.hasTripped⟩

/-- A breaker that trips at every failure rate from a half, once there are two results. -/
def sampleConfig : CircuitBreakerConfig :=
  ⟨1 / 2, 2, 60, 1, by decide +kernel, by decide, by decide, by decide⟩

/-- A breaker with the threshold 1 that has seen a single success stays closed over a hundred failures.
And the failures that made a breaker trip make it trip again with the first failure after it has
recovered, where it needs two results. -/
theorem not_recentTraffic :
    (¬∀ (config : CircuitBreakerConfig) (providerName : String) (calls : List BreakerCall),
      config.minimumRequests ≤ failureWindowLength →
      (after apply ⟨{ config, providerName }, [], none⟩ calls).NotFailing) ∧
    ¬∀ (config : CircuitBreakerConfig) (providerName : String) (calls : List BreakerCall),
      config.minimumRequests ≤ failureWindowLength →
      Along apply RecentTraffic ⟨{ config, providerName }, [], none⟩ calls := by
  constructor
  · intro h
    let config : CircuitBreakerConfig :=
      ⟨1, 1, 60, 1, by decide +kernel, by decide, by decide, by decide⟩
    let calls : List BreakerCall := .recordSuccess 0 :: List.replicate 100 (.recordFailure 1)
    have hfailing := h config "p" calls (by decide) (by decide +kernel)
    exact absurd hfailing (by unfold RecentAllFailed; decide +kernel)
  · intro h
    let calls : List BreakerCall := [.recordFailure 0, .recordFailure 0, .canExecute 60,
      .recordSuccess 60, .recordFailure 61]
    obtain ⟨-, -, -, -, hlast, -⟩ := h sampleConfig "p" calls (by decide)
    have hearly := hlast.notEarly (by decide +kernel) (by decide +kernel) 1 (by decide +kernel)
    exact absurd hearly (by decide +kernel)

/-- A breaker that trips, recovers and serves one request. -/
theorem recentTraffic_iff_sample :
    let calls : List BreakerCall := [.recordFailure 0, .recordFailure 0, .canExecute 60,
      .recordSuccess 60, .recordSuccess 61]
    sampleConfig.minimumRequests ≤ failureWindowLength ∧
    (Along apply RecentTraffic ⟨{ config := sampleConfig, providerName := "p" }, [], none⟩ calls ↔
      Along apply RateFollows ⟨{ config := sampleConfig, providerName := "p" }, [], none⟩ calls) := by
  have hminimum : sampleConfig.minimumRequests ≤ failureWindowLength := by decide
  exact ⟨hminimum, recentTraffic_iff hminimum "p" _⟩

end TripHistory

end AgentRuntime
