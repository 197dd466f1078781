import AgentRuntime.Interaction.Method
import AgentRuntime.Python.Values

/-!
# The degradation service

`DegradationService` (`app/application/services/degradation_service.py`): one count of failures for the
database and one for Redis, and one mode for both. Each method is given the time that it reads. The
failures of providers, which are counted and not read, are left out.
-/

namespace AgentRuntime

open Interaction

/-- System degradation modes. -/
inductive DegradationMode where
  | full
  | degradedCache
  | degradedDb
  | degradedProviders
  | minimal
  deriving DecidableEq, Repr

/-- The features that are listed for a mode. -/
def DegradationMode.degradedFeatures : DegradationMode → List String
  | .full => []
  | .degradedCache => ["rate_limiting", "idempotency", "cancellation_pubsub"]
  | .degradedDb => ["persistence", "audit_logging", "run_history"]
  | .degradedProviders => ["provider_fallback", "advanced_features"]
  | .minimal => ["rate_limiting", "idempotency", "persistence", "advanced_features"]

/-- Current degradation status. -/
structure DegradationStatus where
  mode : DegradationMode
  reason : Option String := none
  affectedComponents : Option (List String) := none
  enteredAt : Option Time := none
  autoRecoveryEnabled : Bool := true

/-- What is counted on its own: the database and Redis. -/
inductive HealthComponent where
  | database
  | redis
  deriving DecidableEq, Repr

namespace HealthComponent

/-- The name in the reason. -/
def label : HealthComponent → String
  | database => "Database"
  | redis => "Redis"

/-- The mode that its failures lead to. -/
def mode : HealthComponent → DegradationMode
  | database => .degradedDb
  | redis => .degradedCache

def affectedComponents : HealthComponent → List String
  | database => ["database"]
  | redis => ["cache", "rate_limiting", "idempotency"]

def other : HealthComponent → HealthComponent
  | database => redis
  | redis => database

end HealthComponent

/-- What the service reads of its settings. `Settings` declares no such field, the tests give one. -/
structure DegradationSettings where
  degradationAutoRecovery : Option Bool := none

/-- Service for managing graceful degradation under partial failures. -/
structure DegradationService where
  settings : DegradationSettings
  databaseFailureThreshold : Int := 5
  redisFailureThreshold : Int := 3
  currentStatus : DegradationStatus
  dbFailureCount : Nat := 0
  redisFailureCount : Nat := 0

namespace DegradationService

/-- `DegradationService(…)`. -/
def init (settings : DegradationSettings) (databaseFailureThreshold redisFailureThreshold : Int)
    (now : Time) : DegradationService where
  settings
  databaseFailureThreshold
  redisFailureThreshold
  currentStatus := { mode := .full, enteredAt := now }

variable (self : DegradationService)

def failureCount : HealthComponent → Nat
  | .database => self.dbFailureCount
  | .redis => self.redisFailureCount

def setFailureCount (count : Nat) : HealthComponent → DegradationService
  | .database => { self with dbFailureCount := count }
  | .redis => { self with redisFailureCount := count }

def failureThreshold : HealthComponent → Int
  | .database => self.databaseFailureThreshold
  | .redis => self.redisFailureThreshold

/-- One failure more. -/
def counted (component : HealthComponent) : DegradationService :=
  self.setFailureCount (self.failureCount component + 1) component

/-- Enter a degradation mode. -/
def enterDegradationMode (mode : DegradationMode) (reason : String)
    (affectedComponents : Option (List String)) (now : Time) :
    Method PyError DegradationService DegradationStatus := do
  let self ← get
  match self.settings.degradationAutoRecovery with
  | none =>
    throw (.attributeError "'Settings' object has no attribute 'degradation_auto_recovery'")
  | some autoRecoveryEnabled =>
    let status : DegradationStatus :=
      { mode, reason, affectedComponents, enteredAt := now, autoRecoveryEnabled }
    modify fun self => { self with currentStatus := status }
    return status

/-- Count a failure, and enter the mode of the component once its threshold is reached. -/
def handleFailure (component : HealthComponent) (now : Time) :
    Method PyError DegradationService DegradationStatus := do
  modify fun self => self.counted component
  let self ← get
  if self.failureThreshold component ≤ self.failureCount component then
    let count := self.failureCount component
    enterDegradationMode component.mode
      s!"{component.label} failure threshold exceeded ({count} failures)"
      component.affectedComponents now
  else
    return self.currentStatus

/-- Handle database failure and potentially enter degradation mode. -/
def handleDatabaseFailure : Time → Method PyError DegradationService DegradationStatus :=
  handleFailure .database

/-- Handle Redis failure and potentially enter degradation mode. -/
def handleRedisFailure : Time → Method PyError DegradationService DegradationStatus :=
  handleFailure .redis

/-- Check if conditions are met to exit degradation mode. -/
def checkRecoveryConditions : Bool :=
  if ¬self.currentStatus.autoRecoveryEnabled then false
  else match self.currentStatus.mode with
    | .full => true
    | .degradedDb => self.dbFailureCount = 0
    | .degradedCache => self.redisFailureCount = 0
    | .degradedProviders | .minimal => false

/-- Exit degradation mode and return to full operation. -/
def exitDegradationMode (now : Time) : DegradationService :=
  { self with
    currentStatus := { mode := .full, enteredAt := now }
    dbFailureCount := 0
    redisFailureCount := 0 }

/-- Get list of features that are currently degraded. -/
def getDegradedFeatures : List String := self.currentStatus.mode.degradedFeatures

/-- Check if a feature is available in current degradation mode. -/
def isFeatureAvailable (feature : String) : Bool := !self.getDegradedFeatures.contains feature

/-! ## What a failure does -/

section
variable {self} (component component' : HealthComponent) (count : Nat)

/-- The count that was set is that of its component, and of no other. -/
theorem failureCount_setFailureCount : (self.setFailureCount count component).failureCount component' =
    if component' = component then count else self.failureCount component' := by
  cases component <;> cases component' <;> rfl

/-- It leaves the thresholds. -/
@[simp] theorem failureThreshold_setFailureCount :
    (self.setFailureCount count component).failureThreshold component' = self.failureThreshold component' := by
  cases component <;> cases component' <;> rfl

/-- It leaves the settings. -/
@[simp] theorem settings_setFailureCount :
    (self.setFailureCount count component).settings = self.settings := by
  cases component <;> rfl

/-- It leaves the mode. -/
@[simp] theorem currentStatus_setFailureCount :
    (self.setFailureCount count component).currentStatus = self.currentStatus := by
  cases component <;> rfl

end

/-- One failure more reaches the threshold. -/
def Reaches (component : HealthComponent) : Prop :=
  self.failureThreshold component ≤ (self.failureCount component + 1 : Nat)

/-- The status that a component's failures lead to. -/
def degraded (component : HealthComponent) (autoRecoveryEnabled : Bool) (now : Time) :
    DegradationStatus where
  mode := component.mode
  reason :=
    let count := self.failureCount component + 1
    s!"{component.label} failure threshold exceeded ({count} failures)"
  affectedComponents := component.affectedComponents
  enteredAt := now
  autoRecoveryEnabled

section
variable {self} {component : HealthComponent} (now : Time)

/-- A failure counts one more for its component, and for no other. -/
theorem failureCount_counted (component' : HealthComponent) :
    (self.counted component).failureCount component' =
      if component' = component then self.failureCount component + 1 else self.failureCount component' :=
  failureCount_setFailureCount component component' _

/-- It leaves the thresholds. -/
theorem failureThreshold_counted :
    (self.counted component).failureThreshold component = self.failureThreshold component :=
  failureThreshold_setFailureCount component component _

/-- The test is made on what was counted. -/
theorem threshold_counted_le_iff : (self.counted component).failureThreshold component ≤
    (self.counted component).failureCount component ↔ self.Reaches component := by
  rw [failureThreshold_counted, failureCount_counted, if_pos rfl]
  exact Iff.rfl

/-- A failure below the threshold is only counted. -/
theorem handleFailure_of_not_reaches (h : ¬self.Reaches component) :
    (handleFailure component now).on self = (.ok self.currentStatus, self.counted component) := by
  have hstatus : (self.counted component).currentStatus = self.currentStatus :=
    currentStatus_setFailureCount _ _
  simp [handleFailure, threshold_counted_le_iff, h, hstatus]

/-- Without the setting the mode is not entered. -/
theorem handleFailure_of_none (h : self.Reaches component)
    (hsettings : self.settings.degradationAutoRecovery = none) :
    (handleFailure component now).on self = (.error (.attributeError
      "'Settings' object has no attribute 'degradation_auto_recovery'"), self.counted component) := by
  have hcounted : (self.counted component).settings.degradationAutoRecovery = none := by
    rw [counted, settings_setFailureCount, hsettings]
  simp [handleFailure, threshold_counted_le_iff, h, enterDegradationMode, hcounted]

/-- At the threshold the mode becomes that of the component. -/
theorem handleFailure_of_some {autoRecoveryEnabled : Bool} (h : self.Reaches component)
    (hsettings : self.settings.degradationAutoRecovery = some autoRecoveryEnabled) :
    (handleFailure component now).on self = (.ok (self.degraded component autoRecoveryEnabled now),
      { self.counted component with
        currentStatus := self.degraded component autoRecoveryEnabled now }) := by
  have hcounted : (self.counted component).settings.degradationAutoRecovery = some autoRecoveryEnabled := by
    rw [counted, settings_setFailureCount, hsettings]
  have hcount : (self.counted component).failureCount component = self.failureCount component + 1 :=
    (failureCount_counted component).trans (if_pos rfl)
  rw [degraded, ← hcount]
  simp [handleFailure, threshold_counted_le_iff, h, enterDegradationMode, hcounted, Except.map]

end

end DegradationService

end AgentRuntime
