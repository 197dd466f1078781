import Mathlib.Algebra.BigOperators.Group.List.Basic
import Mathlib.Algebra.Order.Field.Rat
import AgentRuntime.Interaction.History
import AgentRuntime.Python.OrderedDict
import AgentRuntime.Python.Slices

/-!
# The health of the providers

`app/infrastructure/providers/health.py`. A check adds to the counts, to the consecutive counts and to a
window of latencies. `ProviderHealth.ofLog` reads all of them off the list of the checks, and
`ofLog_concat` says that a check may be added to either. So the monitor keeps, for every name that it
knows, the statistics of the checks since the name was last reset (`getProviderHealth_after`).
-/

namespace AgentRuntime

open Interaction

/-- A call of `record_check`, and what its clock shows first and last. -/
structure HealthCheck where
  isHealthy : Bool
  latencyMs : Rat
  checkedAt : Rat
  endedAt : Rat

/-- Health status for a single provider. -/
structure ProviderHealth where
  providerName : String
  isHealthy : Bool := true
  lastCheckTime : Option Rat := none
  lastSuccessTime : Option Rat := none
  lastFailureTime : Option Rat := none
  consecutiveFailures : Nat := 0
  consecutiveSuccesses : Nat := 0
  totalChecks : Nat := 0
  successfulChecks : Nat := 0
  failedChecks : Nat := 0
  averageLatencyMs : Rat := 0
  latencySamples : List Rat := []
  deriving DecidableEq

namespace ProviderHealth

/-- Calculate success rate. -/
def successRate (self : ProviderHealth) : Rat :=
  if self.totalChecks = 0 then 1 else self.successfulChecks / self.totalChecks

/-- The counts and times after a check. -/
def countCheck (check : HealthCheck) (self : ProviderHealth) : ProviderHealth :=
  let self := { self with
    totalChecks := self.totalChecks + 1
    lastCheckTime := some check.checkedAt }
  if check.isHealthy then
    { self with
      successfulChecks := self.successfulChecks + 1
      consecutiveSuccesses := self.consecutiveSuccesses + 1
      consecutiveFailures := 0
      lastSuccessTime := some check.endedAt
      isHealthy := true }
  else
    { self with
      failedChecks := self.failedChecks + 1
      consecutiveFailures := self.consecutiveFailures + 1
      consecutiveSuccesses := 0
      lastFailureTime := some check.endedAt
      isHealthy := false }

/-- The latencies after a check: one more, of which the last 100 are kept. -/
def addLatency (latencyMs : Rat) (self : ProviderHealth) : ProviderHealth :=
  let samples := self.latencySamples ++ [latencyMs]
  let samples := if samples.length > 100 then samples.drop 1 else samples
  { self with latencySamples := samples, averageLatencyMs := samples.sum / samples.length }

/-- Record a health check result. -/
def recordCheck (check : HealthCheck) (self : ProviderHealth) : ProviderHealth :=
  (self.countCheck check).addLatency check.latencyMs

/-! ## The statistics of a list of checks -/

/-- The last 100 latencies. -/
def window (log : List HealthCheck) : List Rat := (log.map HealthCheck.latencyMs).rtake 100

/-- The health of a provider, by all checks of it, the last one at the end. -/
def ofLog (providerName : String) (log : List HealthCheck) : ProviderHealth where
  providerName
  isHealthy := (log.getLast?.map HealthCheck.isHealthy).getD true
  lastCheckTime := log.getLast?.map HealthCheck.checkedAt
  lastSuccessTime := (log.filter HealthCheck.isHealthy).getLast?.map HealthCheck.endedAt
  lastFailureTime := (log.filter fun check => !check.isHealthy).getLast?.map HealthCheck.endedAt
  consecutiveFailures := (log.rtakeWhile fun check => !check.isHealthy).length
  consecutiveSuccesses := (log.rtakeWhile HealthCheck.isHealthy).length
  totalChecks := log.length
  successfulChecks := log.countP HealthCheck.isHealthy
  failedChecks := log.countP fun check => !check.isHealthy
  averageLatencyMs := (window log).sum / (window log).length
  latencySamples := window log

/-- A provider without checks has the counters that it starts with. -/
@[simp] theorem ofLog_nil (providerName : String) : ofLog providerName [] = { providerName } := by
  simp [ofLog, window]

/-- A sample more moves the window by one, when it is full. -/
theorem window_concat (log : List HealthCheck) (check : HealthCheck) :
    window (log ++ [check]) =
      let samples := window log ++ [check.latencyMs]
      if samples.length > 100 then samples.drop 1 else samples := by
  unfold window
  rw [List.map_append, List.map_singleton, ← List.rtake_concat_of_rtake (by omega), List.rtake]
  generalize hsamples : (log.map HealthCheck.latencyMs).rtake 100 ++ [check.latencyMs] = samples
  have hlength : samples.length ≤ 101 := by
    rw [← hsamples, List.length_append, List.rtake_eq_reverse_take_reverse, List.length_reverse,
      List.length_take, List.length_singleton]
    omega
  dsimp only
  split_ifs with hfull
  · rw [show samples.length - 100 = 1 by omega]
  · rw [Nat.sub_eq_zero_of_le (by omega), List.drop_zero]

/-- **A check that is recorded is a check in the list.** -/
theorem ofLog_concat (providerName : String) (log : List HealthCheck) (check : HealthCheck) :
    ofLog providerName (log ++ [check]) = (ofLog providerName log).recordCheck check := by
  have hwindow := window_concat log check
  cases hcheck : check.isHealthy with
  | true =>
    simp [ofLog, recordCheck, countCheck, addLatency, hcheck, hwindow]
  | false =>
    simp [ofLog, recordCheck, countCheck, addLatency, hcheck, hwindow]

end ProviderHealth

/-- Monitor health status of multiple providers: its dictionary. That a name which is not there would have an
entry without a name is never used, since every method asks first. -/
structure ProviderHealthMonitor where
  providers : List (String × ProviderHealth) := []

namespace ProviderHealthMonitor

/-- Get health status for a specific provider. -/
def getProviderHealth (providerName : String) (self : ProviderHealthMonitor) : Option ProviderHealth :=
  OrderedDict.get? self.providers providerName

/-- Check if a provider is currently healthy. -/
def isProviderHealthy (providerName : String) (self : ProviderHealthMonitor) : Bool :=
  ((self.getProviderHealth providerName).map ProviderHealth.isHealthy).getD false

/-- `_providers[provider_name] = …`. -/
def put (providerName : String) (health : ProviderHealth) (self : ProviderHealthMonitor) :
    ProviderHealthMonitor :=
  { self with providers := OrderedDict.set self.providers providerName health }

/-- Register a provider for health monitoring. -/
def registerProvider (providerName : String) (self : ProviderHealthMonitor) : ProviderHealthMonitor :=
  if (self.getProviderHealth providerName).isSome then self else self.put providerName { providerName }

/-- Record a health check result for a provider. -/
def recordHealthCheck (providerName : String) (check : HealthCheck) (self : ProviderHealthMonitor) :
    ProviderHealthMonitor :=
  let self := self.registerProvider providerName
  let health := (self.getProviderHealth providerName).getD { providerName := "" }
  self.put providerName (health.recordCheck check)

/-- Reset health tracking for a provider. -/
def resetProvider (providerName : String) (self : ProviderHealthMonitor) : ProviderHealthMonitor :=
  if (self.getProviderHealth providerName).isSome then self.put providerName { providerName } else self

/-- Reset health tracking for all providers. -/
def resetAll (_self : ProviderHealthMonitor) : ProviderHealthMonitor := {}

/-- Get overall health summary, but for the details. -/
structure OverallHealth where
  totalProviders : Nat
  healthyProviders : Nat
  unhealthyProviders : Nat
  overallHealthy : Bool

/-- Get overall health summary. -/
def getOverallHealth (self : ProviderHealthMonitor) : OverallHealth :=
  let totalProviders := self.providers.length
  let healthyProviders := self.providers.countP fun item => item.2.isHealthy
  { totalProviders
    healthyProviders
    unhealthyProviders := totalProviders - healthyProviders
    overallHealthy := if totalProviders > 0 then healthyProviders = totalProviders else true }

end ProviderHealthMonitor

/-! ## What the monitor knows after any calls -/

/-- A call of the monitor that changes it. -/
inductive MonitorCall where
  | registerProvider (providerName : String)
  | recordHealthCheck (providerName : String) (check : HealthCheck)
  | resetProvider (providerName : String)
  | resetAll

namespace MonitorCall

/-- What the call makes of the monitor. -/
def apply : MonitorCall → ProviderHealthMonitor → ProviderHealthMonitor
  | registerProvider providerName, self => self.registerProvider providerName
  | recordHealthCheck providerName check, self => self.recordHealthCheck providerName check
  | resetProvider providerName, self => self.resetProvider providerName
  | resetAll, self => self.resetAll

/-- The call makes the name known. -/
def introduces (name : String) : MonitorCall → Bool
  | registerProvider providerName => providerName = name
  | recordHealthCheck providerName _ => providerName = name
  | resetProvider _ => false
  | resetAll => false

/-- The check of the name that the call records. -/
def checkOf (name : String) : MonitorCall → Option HealthCheck
  | recordHealthCheck providerName check => if providerName = name then some check else none
  | _ => none

/-- The call forgets the checks of the name. -/
def forgets (name : String) : MonitorCall → Bool
  | resetProvider providerName => providerName = name
  | resetAll => true
  | _ => false

/-- The call forgets all names. -/
def forgetsAll : MonitorCall → Bool
  | resetAll => true
  | _ => false

/-- The checks of the name since they were last forgotten. -/
def checksSince (name : String) (calls : List MonitorCall) : List HealthCheck :=
  (calls.rtakeWhile fun call => !call.forgets name).filterMap (checkOf name)

/-- The name was made known since all names were last forgotten. -/
def knows (name : String) (calls : List MonitorCall) : Bool :=
  (calls.rtakeWhile fun call => !call.forgetsAll).any (introduces name)

section
variable {name : String} {calls : List MonitorCall} {call : MonitorCall}

/-- A call that forgets the provider leaves no checks, and a check is added to those that there are. -/
theorem checksSince_concat : checksSince name (calls ++ [call]) =
    if call.forgets name then [] else checksSince name calls ++ (call.checkOf name).toList := by
  unfold checksSince
  rw [List.rtakeWhile_concat]
  cases call.forgets name with
  | true => rfl
  | false => cases hcheck : call.checkOf name <;> simp [hcheck]

/-- A provider is known after a call if the call introduces it, or it was known and is not forgotten. -/
theorem knows_concat : knows name (calls ++ [call]) =
    (!call.forgetsAll && (knows name calls || call.introduces name)) := by
  unfold knows
  rw [List.rtakeWhile_concat]
  cases call.forgetsAll with
  | true => rfl
  | false => simp

/-- A name that is not known has no checks. -/
theorem checksSince_eq_nil (h : knows name calls = false) : checksSince name calls = [] := by
  induction calls using List.reverseRecOn with
  | nil => rfl
  | append_singleton calls call ih =>
    rw [knows_concat] at h
    rw [checksSince_concat]
    cases call with
    | resetAll => rfl
    | registerProvider providerName =>
      obtain ⟨hcalls, -⟩ : knows name calls = false ∧ _ := by simpa [forgetsAll] using h
      simp [forgets, checkOf, ih hcalls]
    | recordHealthCheck providerName check =>
      obtain ⟨hcalls, hname⟩ : knows name calls = false ∧ providerName ≠ name := by
        simpa [forgetsAll, introduces] using h
      simp [forgets, checkOf, ih hcalls, hname]
    | resetProvider providerName =>
      have hcalls : knows name calls = false := by simpa [forgetsAll, introduces] using h
      simp [checkOf, ih hcalls]

end

end MonitorCall

namespace ProviderHealthMonitor

variable {name : String}

/-- What is put for a provider is found for it, and for no other. -/
theorem getProviderHealth_put (providerName : String) (health : ProviderHealth) (self : ProviderHealthMonitor) :
    (self.put providerName health).getProviderHealth name =
      if providerName = name then some health else self.getProviderHealth name :=
  OrderedDict.get?_set self.providers providerName name health

/-- A registered provider keeps its record, or gets a new one. -/
theorem getProviderHealth_registerProvider (providerName : String) (self : ProviderHealthMonitor) :
    (self.registerProvider providerName).getProviderHealth name =
      if providerName = name then some ((self.getProviderHealth name).getD { providerName := name })
      else self.getProviderHealth name := by
  unfold registerProvider
  by_cases hname : providerName = name
  · subst hname
    rw [if_pos rfl]
    cases hhealth : self.getProviderHealth providerName with
    | none => rw [if_neg (by simp), getProviderHealth_put, if_pos rfl, Option.getD_none]
    | some health => rw [if_pos (by simp), hhealth, Option.getD_some]
  · rw [if_neg hname]
    split_ifs
    · rfl
    · rw [getProviderHealth_put, if_neg hname]

/-- A check is added to the record of its provider, which is made if there is none. -/
theorem getProviderHealth_recordHealthCheck (providerName : String) (check : HealthCheck)
    (self : ProviderHealthMonitor) : (self.recordHealthCheck providerName check).getProviderHealth name =
      if providerName = name then
        some (((self.getProviderHealth name).getD { providerName := name }).recordCheck check)
      else self.getProviderHealth name := by
  unfold recordHealthCheck
  rw [getProviderHealth_put, getProviderHealth_registerProvider, getProviderHealth_registerProvider, if_pos rfl]
  split_ifs with hname
  · rw [Option.getD_some, hname]
  · rfl

/-- A reset gives a provider that is known a new record. -/
theorem getProviderHealth_resetProvider (providerName : String) (self : ProviderHealthMonitor) :
    (self.resetProvider providerName).getProviderHealth name =
      if providerName = name then (self.getProviderHealth name).map fun _ => { providerName := name }
      else self.getProviderHealth name := by
  unfold resetProvider
  by_cases hname : providerName = name
  · subst hname
    rw [if_pos rfl]
    cases hhealth : self.getProviderHealth providerName with
    | none => rw [if_neg (by simp), hhealth, Option.map_none]
    | some health => rw [if_pos (by simp), getProviderHealth_put, if_pos rfl, Option.map_some]
  · rw [if_neg hname]
    split_ifs
    · rw [getProviderHealth_put, if_neg hname]
    · rfl

/-- **The monitor keeps the statistics of the checks**, for every name that it knows. -/
theorem getProviderHealth_after (name : String) (calls : List MonitorCall) :
    (after MonitorCall.apply {} calls).getProviderHealth name =
      if MonitorCall.knows name calls then
        some (ProviderHealth.ofLog name (MonitorCall.checksSince name calls))
      else none := by
  induction calls using List.reverseRecOn with
  | nil => rfl
  | append_singleton calls call ih =>
    have hknown : (((after MonitorCall.apply {} calls).getProviderHealth name).getD { providerName := name }) =
        ProviderHealth.ofLog name (MonitorCall.checksSince name calls) := by
      rw [ih]
      split_ifs with hknows
      · rfl
      · rw [MonitorCall.checksSince_eq_nil (by simpa using hknows), ProviderHealth.ofLog_nil, Option.getD_none]
    rw [after_append, after_cons, after_nil, MonitorCall.knows_concat, MonitorCall.checksSince_concat]
    cases call with
    | registerProvider providerName =>
      simp only [MonitorCall.apply, getProviderHealth_registerProvider, MonitorCall.forgetsAll,
        MonitorCall.introduces, MonitorCall.forgets, MonitorCall.checkOf]
      by_cases hname : providerName = name
      · rw [if_pos hname, hknown]
        simp [hname]
      · rw [if_neg hname, ih]
        simp [hname]
    | recordHealthCheck providerName check =>
      simp only [MonitorCall.apply, getProviderHealth_recordHealthCheck, MonitorCall.forgetsAll,
        MonitorCall.introduces, MonitorCall.forgets, MonitorCall.checkOf]
      by_cases hname : providerName = name
      · rw [if_pos hname, hknown, ← ProviderHealth.ofLog_concat]
        simp [hname]
      · rw [if_neg hname, ih]
        simp [hname]
    | resetProvider providerName =>
      simp only [MonitorCall.apply, getProviderHealth_resetProvider, MonitorCall.forgetsAll,
        MonitorCall.introduces, MonitorCall.forgets, MonitorCall.checkOf]
      by_cases hname : providerName = name
      · rw [if_pos hname, ih]
        cases MonitorCall.knows name calls <;> simp [hname]
      · rw [if_neg hname, ih]
        simp [hname]
    | resetAll => rfl

/-- No name is there twice. -/
def Distinct (self : ProviderHealthMonitor) : Prop := (self.providers.map Prod.fst).Nodup

/-- A provider that is put has one record. -/
theorem Distinct.put {self : ProviderHealthMonitor} (h : self.Distinct) (providerName : String)
    (health : ProviderHealth) : (self.put providerName health).Distinct :=
  OrderedDict.nodup_set h providerName health

/-- So has one that is registered. -/
theorem Distinct.registerProvider {self : ProviderHealthMonitor} (h : self.Distinct) (providerName : String) :
    (self.registerProvider providerName).Distinct := by
  unfold ProviderHealthMonitor.registerProvider
  split_ifs
  · exact h
  · exact h.put providerName _

/-- No sequence of calls gives a provider two records. -/
theorem distinct_after (calls : List MonitorCall) : (after MonitorCall.apply {} calls).Distinct := by
  refine after_induction List.nodup_nil fun self call _ hself => ?_
  cases call with
  | registerProvider providerName => exact hself.registerProvider providerName
  | recordHealthCheck providerName check => exact (hself.registerProvider providerName).put providerName _
  | resetProvider providerName =>
    simp only [MonitorCall.apply, resetProvider]
    split_ifs
    · exact hself.put providerName _
    · exact hself
  | resetAll => exact List.nodup_nil

/-- All providers are healthy that the monitor knows. -/
theorem overallHealthy_iff {self : ProviderHealthMonitor} (h : self.Distinct) :
    self.getOverallHealth.overallHealthy = true ↔
      ∀ name health, self.getProviderHealth name = some health → health.isHealthy = true := by
  have hall : self.getOverallHealth.overallHealthy = true ↔
      ∀ item ∈ self.providers, item.2.isHealthy = true := by
    simp only [getOverallHealth]
    rw [← List.countP_eq_length]
    split_ifs with hsome
    · exact decide_eq_true_iff
    · have hnone : self.providers = [] := List.eq_nil_of_length_eq_zero (by omega)
      simp [hnone]
  rw [hall]
  constructor
  · intro hitems name health hhealth
    exact hitems (name, health) ((OrderedDict.mem_iff_get? h).2 hhealth)
  · intro hhealthy item hitem
    exact hhealthy item.1 item.2 ((OrderedDict.mem_iff_get? h).1 hitem)

end ProviderHealthMonitor

end AgentRuntime
