import AgentRuntime.Interaction.History
import AgentRuntime.Services.DegradationService

/-!
# The degradation monitor

`DegradationMonitor` (`app/infrastructure/health/degradation_monitor.py`) and the runs of the service under
it: failures, health checks and recoveries in any order. The two components share the mode, and leaving it
clears both counts. So a failed component is covered as long as one fails at a time, and no longer
(`degradation_covers_iff`). The rounds of the monitor are runs of these events (`monitorRound_eq_after`).
-/

namespace AgentRuntime

open Interaction

namespace DegradationMonitor

variable (now : Time)

/-- One half of `_check_system_health`: what the answer about a component leads to. -/
def report (component : HealthComponent) (healthy : Bool) :
    Method PyError DegradationService Unit := do
  if ¬healthy then
    let _ ← DegradationService.handleFailure component now
  else
    modify fun self =>
      if 0 < self.failureCount component then self.setFailureCount 0 component else self

/-- Check health of system components. -/
def checkSystemHealth (dbHealthy redisHealthy : Bool) : Method PyError DegradationService Unit := do
  report now .database dbHealthy
  report now .redis redisHealthy

/-- Check if system can recover from degradation. -/
def checkRecoveryConditions (self : DegradationService) : DegradationService :=
  if self.currentStatus.mode = .full then self
  else if self.checkRecoveryConditions then self.exitDegradationMode now
  else self

/-- One round of `_monitor_loop`. An exception is logged, and ends the round. -/
def monitorRound (dbHealthy redisHealthy : Bool) : Method PyError DegradationService Unit := do
  try
    checkSystemHealth now dbHealthy redisHealthy
    modify (checkRecoveryConditions now)
  catch _ => pure ()

end DegradationMonitor

/-- Something that happens to the service: a failure of a component, a check that finds it healthy, or an
automatic recovery. -/
inductive HealthEvent where
  | failure (component : HealthComponent)
  | healthy (component : HealthComponent)
  | recovery

namespace HealthEvent

/-- What the event makes of the service. An exception is the caller's. -/
def apply (event : HealthEvent) (now : Time) (self : DegradationService) : DegradationService :=
  match event with
  | failure component => ((DegradationService.handleFailure component now).on self).2
  | healthy component => ((DegradationMonitor.report now component true).on self).2
  | recovery => DegradationMonitor.checkRecoveryConditions now self

end HealthEvent

/-- The service, and of each component whether the last that was seen of it was a failure. -/
structure DegradationHistory where
  service : DegradationService
  databaseFailing : Bool := false
  redisFailing : Bool := false

namespace DegradationHistory

/-- The component is still failing. -/
def failing (self : DegradationHistory) : HealthComponent → Bool
  | .database => self.databaseFailing
  | .redis => self.redisFailing

def observe (failing : Bool) (self : DegradationHistory) : HealthComponent → DegradationHistory
  | .database => { self with databaseFailing := failing }
  | .redis => { self with redisFailing := failing }

/-- An event, at a time. -/
def step (event : HealthEvent × Time) (self : DegradationHistory) : DegradationHistory :=
  let after := { self with service := event.1.apply event.2 self.service }
  match event.1 with
  | .failure component => after.observe true component
  | .healthy component => after.observe false component
  | .recovery => after

end DegradationHistory

namespace DegradationService

/-- The features of the component's mode are unavailable while its count is at its threshold. -/
def Covers (self : DegradationService) (component : HealthComponent) : Prop :=
  self.failureThreshold component ≤ self.failureCount component →
    ∀ feature ∈ component.mode.degradedFeatures, self.isFeatureAvailable feature = false

/-- A recovery leaves the mode. -/
def Exits (self : DegradationService) : Prop :=
  self.currentStatus.mode ≠ .full ∧ self.checkRecoveryConditions = true

instance (self : DegradationService) : Decidable self.Exits := inferInstanceAs (Decidable (_ ∧ _))

end DegradationService

namespace DegradationHistory

/-- The recovery neither returns to full operation nor clears the count of a component that is failing. -/
def RecoversSafely (self : DegradationHistory) (event : HealthEvent × Time) : Prop :=
  event.1 = .recovery → ∀ component, self.failing component = true →
    ((self.step event).service.currentStatus.mode = .full → self.service.currentStatus.mode = .full) ∧
    ((self.step event).service.failureCount component = 0 → self.service.failureCount component = 0)

/-- The event is about one component: a failure that reaches its threshold finds the setting, and the other
component below its own; a recovery that leaves the mode finds no failure counted. -/
def Contained (self : DegradationHistory) (event : HealthEvent × Time) : Prop :=
  match event.1 with
  | .failure component => self.service.Reaches component →
      self.service.settings.degradationAutoRecovery.isSome = true ∧
        self.service.failureCount component.other < self.service.failureThreshold component.other
  | .healthy _ => True
  | .recovery => self.service.Exits → ∀ component, self.service.failureCount component = 0

end DegradationHistory

/-! ## What an event changes -/

namespace HealthEvent

variable {component component' : HealthComponent} {now : Time} {self : DegradationService}

/-- A failure is counted, and its mode is entered if it reaches the threshold and the setting is there. -/
theorem failure_cases (self : DegradationService) (component : HealthComponent) (now : Time) :
    (∃ autoRecoveryEnabled, self.Reaches component ∧
      self.settings.degradationAutoRecovery = some autoRecoveryEnabled ∧
      (failure component).apply now self = { self.counted component with
        currentStatus := self.degraded component autoRecoveryEnabled now }) ∨
    ((self.Reaches component → self.settings.degradationAutoRecovery = none) ∧
      (failure component).apply now self = self.counted component) := by
  by_cases hreaches : self.Reaches component
  · cases hsettings : self.settings.degradationAutoRecovery with
    | none =>
      refine .inr ⟨fun _ => rfl, ?_⟩
      rw [apply, DegradationService.handleFailure_of_none now hreaches hsettings]
    | some autoRecoveryEnabled =>
      refine .inl ⟨autoRecoveryEnabled, hreaches, rfl, ?_⟩
      rw [apply, DegradationService.handleFailure_of_some now hreaches hsettings]
  · refine .inr ⟨fun h => absurd h hreaches, ?_⟩
    rw [apply, DegradationService.handleFailure_of_not_reaches now hreaches]

/-- A failure counts for its component alone. -/
theorem failureCount_failure : ((failure component).apply now self).failureCount component' =
    if component' = component then self.failureCount component + 1 else self.failureCount component' := by
  rw [← DegradationService.failureCount_counted]
  obtain ⟨_, -, -, h⟩ | ⟨-, h⟩ := failure_cases self component now
  · rw [h]
    cases component' <;> rfl
  · rw [h]

/-- A component that is healthy again counts no failures. -/
theorem failureCount_healthy : ((healthy component).apply now self).failureCount component' =
    if component' = component then 0 else self.failureCount component' := by
  have happly : (healthy component).apply now self =
      if 0 < self.failureCount component then self.setFailureCount 0 component else self := rfl
  rw [happly]
  split
  · exact DegradationService.failureCount_setFailureCount component component' 0
  · next hzero =>
    split
    · next hcomponent => rw [hcomponent]; omega
    · rfl

/-- It leaves the mode as it is. -/
theorem currentStatus_healthy :
    ((healthy component).apply now self).currentStatus = self.currentStatus := by
  have happly : (healthy component).apply now self =
      if 0 < self.failureCount component then self.setFailureCount 0 component else self := rfl
  rw [happly]
  split
  · exact DegradationService.currentStatus_setFailureCount component 0
  · rfl

/-- A recovery leaves the mode and clears the counts, or does nothing. -/
theorem apply_recovery : recovery.apply now self =
    if self.Exits then self.exitDegradationMode now else self := by
  have happly : recovery.apply now self = if self.currentStatus.mode = .full then self
      else if self.checkRecoveryConditions then self.exitDegradationMode now else self := rfl
  rw [happly]
  by_cases hmode : self.currentStatus.mode = .full
  · have hstays : ¬self.Exits := fun h => h.1 hmode
    rw [if_pos hmode, if_neg hstays]
  · have hexits : self.Exits ↔ self.checkRecoveryConditions = true := and_iff_right hmode
    rw [if_neg hmode]
    simp only [hexits]

/-- The settings and the thresholds stay. -/
theorem settings_apply (event : HealthEvent) :
    (event.apply now self).settings = self.settings ∧
      ∀ component, (event.apply now self).failureThreshold component = self.failureThreshold component := by
  cases event with
  | failure component =>
    have hcounted : (self.counted component).settings = self.settings :=
      DegradationService.settings_setFailureCount component _
    have hthreshold (component' : HealthComponent) :
        (self.counted component).failureThreshold component' = self.failureThreshold component' :=
      DegradationService.failureThreshold_setFailureCount component component' _
    obtain ⟨_, -, -, h⟩ | ⟨-, h⟩ := failure_cases self component now
    · rw [h]
      refine ⟨hcounted, fun component' => ?_⟩
      rw [← hthreshold component']
      cases component' <;> rfl
    · rw [h]
      exact ⟨hcounted, hthreshold⟩
  | healthy component =>
    have happly : (healthy component).apply now self =
        if 0 < self.failureCount component then self.setFailureCount 0 component else self := rfl
    rw [happly]
    split
    · exact ⟨DegradationService.settings_setFailureCount component _,
        fun component' => DegradationService.failureThreshold_setFailureCount component component' _⟩
    · exact ⟨rfl, fun _ => rfl⟩
  | recovery =>
    rw [apply_recovery]
    split
    · exact ⟨rfl, fun component' => by cases component' <;> rfl⟩
    · exact ⟨rfl, fun _ => rfl⟩

end HealthEvent

/-- What the answer about a component is to the service. -/
def HealthEvent.reported (component : HealthComponent) (healthy : Bool) : HealthEvent :=
  if healthy then .healthy component else .failure component

/-- A report is what the monitor makes of a health check. -/
theorem HealthEvent.apply_reported (component : HealthComponent) (healthy : Bool) (now : Time)
    (self : DegradationService) : (reported component healthy).apply now self =
      ((DegradationMonitor.report now component healthy).on self).2 := by
  cases healthy with
  | true => rfl
  | false => simp [reported, apply, DegradationMonitor.report]

/-- A round of the monitor is such a sequence of events. -/
theorem monitorRound_eq_after (now : Time) (dbHealthy redisHealthy : Bool) (self : DegradationService) :
    ∃ events : List HealthEvent,
      ((DegradationMonitor.monitorRound now dbHealthy redisHealthy).on self).2 =
        after (fun event self => event.apply now self) self events := by
  have hdb := HealthEvent.apply_reported .database dbHealthy now self
  unfold DegradationMonitor.monitorRound DegradationMonitor.checkSystemHealth
  cases hreport : (DegradationMonitor.report now .database dbHealthy).on self with
  | mk result self₁ =>
    rw [hreport] at hdb
    have hredis := HealthEvent.apply_reported .redis redisHealthy now self₁
    cases result with
    | error e =>
      refine ⟨[.reported .database dbHealthy], ?_⟩
      simp [hreport, hdb]
    | ok _ =>
      cases hreport₁ : (DegradationMonitor.report now .redis redisHealthy).on self₁ with
      | mk result₁ self₂ =>
        rw [hreport₁] at hredis
        cases result₁ with
        | error e =>
          refine ⟨[.reported .database dbHealthy, .reported .redis redisHealthy], ?_⟩
          simp [hreport, hreport₁, hdb, hredis]
        | ok _ =>
          refine ⟨[.reported .database dbHealthy, .reported .redis redisHealthy, .recovery], ?_⟩
          have hrecovery : HealthEvent.recovery.apply now self₂ =
              DegradationMonitor.checkRecoveryConditions now self₂ := rfl
          simp [hreport, hreport₁, hdb, hredis, hrecovery]

/-! ## Coverage -/

namespace DegradationService

variable {self : DegradationService}

/-- Two of the five modes list the features of a component, and each of them those of its own. -/
theorem covers_iff {component : HealthComponent} : self.Covers component ↔
    (self.failureThreshold component ≤ self.failureCount component →
      self.currentStatus.mode = component.mode) := by
  have hfeatures (mode : DegradationMode) :
      (∀ feature ∈ component.mode.degradedFeatures, (!mode.degradedFeatures.contains feature) = false) ↔
        mode = component.mode := by
    cases component <;> cases mode <;> decide
  exact imp_congr_right fun _ => hfeatures self.currentStatus.mode

/-- A component that fails leaves no full mode. -/
theorem mode_ne_full (component : HealthComponent) : component.mode ≠ .full := by
  cases component <;> decide

/-- The two components have modes of their own. -/
theorem mode_other (component : HealthComponent) : component.other.mode ≠ component.mode := by
  cases component <;> decide

/-- There are two components. -/
theorem eq_or_other (component component' : HealthComponent) :
    component' = component ∨ component' = component.other := by
  cases component <;> cases component' <;> decide

end DegradationService

namespace DegradationHistory

/-- What holds between the events, as long as they are contained. -/
structure Sound (history : DegradationHistory) : Prop where
  covered : ∀ component,
    history.service.failureThreshold component ≤ history.service.failureCount component →
      history.service.currentStatus.mode = component.mode
  failing : ∀ component, history.failing component = true ↔ 0 < history.service.failureCount component
  threshold_pos : ∀ component, 0 < history.service.failureThreshold component
  entered : history.service.currentStatus.mode ≠ .full →
    history.service.settings.degradationAutoRecovery.isSome = true

variable {self : DegradationHistory} {now : Time} {component : HealthComponent}

/-- Observing a component says whether that one fails. -/
theorem failing_observe (component' : HealthComponent) (failing : Bool) :
    (self.observe failing component).failing component' =
      if component' = component then failing else self.failing component' := by
  cases component <;> cases component' <;> rfl

/-- It leaves the service. -/
theorem service_observe (failing : Bool) : (self.observe failing component).service = self.service := by
  cases component <;> rfl

/-- The service changes by its events, whatever is observed. -/
theorem service_step (event : HealthEvent × Time) :
    (self.step event).service = event.1.apply event.2 self.service := by
  obtain ⟨event, now⟩ := event
  cases event with
  | failure component | healthy component => exact service_observe _
  | recovery => rfl

/-- Once its threshold is reached, a failure enters the mode if it is contained, and covers nothing if it
is not. -/
theorem covers_failure_iff (h : self.Sound) :
    (∀ component', (self.step (.failure component, now)).service.Covers component') ↔
      self.Contained (.failure component, now) := by
  have hother : component.other ≠ component := by cases component <;> decide
  have hthreshold (component' : HealthComponent) :
      ((HealthEvent.failure component).apply now self.service).failureThreshold component' =
        self.service.failureThreshold component' :=
    (HealthEvent.settings_apply _).2 component'
  simp only [DegradationService.covers_iff, service_step, hthreshold, HealthEvent.failureCount_failure]
  constructor
  · intro hcovers hreaches
    have hmode := hcovers component (by rw [if_pos rfl]; exact hreaches)
    obtain ⟨autoRecoveryEnabled, -, hsettings, -⟩ | ⟨hnone, happly⟩ := HealthEvent.failure_cases
      self.service component now
    · refine ⟨Option.isSome_iff_exists.2 ⟨_, hsettings⟩, Int.not_le.1 fun hle => ?_⟩
      have hmode' := hcovers component.other (by rwa [if_neg hother])
      exact DegradationService.mode_other component (hmode'.symm.trans hmode)
    · rw [happly, DegradationService.counted, DegradationService.currentStatus_setFailureCount] at hmode
      have hentered := h.entered (hmode ▸ DegradationService.mode_ne_full component)
      rw [hnone hreaches] at hentered
      cases hentered
  · intro hcontained component' hle
    obtain ⟨_, hreaches, -, happly⟩ | ⟨hnone, happly⟩ := HealthEvent.failure_cases
      self.service component now
    · rw [happly]
      obtain rfl | rfl := DegradationService.eq_or_other component component'
      · rfl
      · rw [if_neg hother] at hle
        exact absurd hle (Int.not_le.2 (hcontained hreaches).2)
    · obtain rfl | rfl := DegradationService.eq_or_other component component'
      · rw [if_pos rfl] at hle
        obtain ⟨hsome, -⟩ := hcontained hle
        rw [hnone hle] at hsome
        cases hsome
      · rw [if_neg hother] at hle
        rw [happly, DegradationService.counted, DegradationService.currentStatus_setFailureCount]
        exact h.covered _ hle

/-- A contained failure keeps what holds. -/
theorem Sound.failure (h : self.Sound) (hcontained : self.Contained (.failure component, now)) :
    (self.step (.failure component, now)).Sound where
  covered component' hle :=
    DegradationService.covers_iff.1 ((covers_failure_iff h).2 hcontained component') hle
  failing component' := by
    rw [service_step, HealthEvent.failureCount_failure]
    refine Iff.trans (iff_of_eq (congrArg (· = true) (failing_observe component' true))) ?_
    split
    · exact iff_of_true rfl (Nat.succ_pos _)
    · exact h.failing component'
  threshold_pos component' := by
    rw [service_step, (HealthEvent.settings_apply _).2]
    exact h.threshold_pos component'
  entered hmode := by
    rw [service_step] at hmode ⊢
    rw [(HealthEvent.settings_apply _).1]
    obtain ⟨_, -, hsettings, -⟩ | ⟨-, happly⟩ := HealthEvent.failure_cases
      self.service component now
    · exact Option.isSome_iff_exists.2 ⟨_, hsettings⟩
    · rw [happly, DegradationService.counted, DegradationService.currentStatus_setFailureCount] at hmode
      exact h.entered hmode

/-- So does a check that finds a component healthy. -/
theorem Sound.healthy (h : self.Sound) : (self.step (.healthy component, now)).Sound where
  covered component' hle := by
    rw [service_step] at hle ⊢
    rw [(HealthEvent.settings_apply _).2, HealthEvent.failureCount_healthy] at hle
    rw [HealthEvent.currentStatus_healthy]
    split at hle
    · exact absurd hle (Int.not_le.2 (h.threshold_pos component'))
    · exact h.covered component' hle
  failing component' := by
    rw [service_step, HealthEvent.failureCount_healthy]
    refine Iff.trans (iff_of_eq (congrArg (· = true) (failing_observe component' false))) ?_
    split
    · exact iff_of_false Bool.false_ne_true (Nat.lt_irrefl 0)
    · exact h.failing component'
  threshold_pos component' := by
    rw [service_step, (HealthEvent.settings_apply _).2]
    exact h.threshold_pos component'
  entered hmode := by
    rw [service_step] at hmode ⊢
    rw [HealthEvent.currentStatus_healthy] at hmode
    rw [(HealthEvent.settings_apply _).1]
    exact h.entered hmode

/-- And a contained recovery. -/
theorem Sound.recovery (h : self.Sound) (hcontained : self.Contained (.recovery, now)) :
    (self.step (.recovery, now)).Sound := by
  have hservice : (self.step (.recovery, now)).service =
      if self.service.Exits then self.service.exitDegradationMode now else self.service :=
    (service_step _).trans HealthEvent.apply_recovery
  by_cases hexits : self.service.Exits
  · rw [if_pos hexits] at hservice
    have hcount (component' : HealthComponent) :
        (self.service.exitDegradationMode now).failureCount component' = 0 := by
      cases component' <;> rfl
    have hthreshold (component' : HealthComponent) : (self.service.exitDegradationMode now).failureThreshold
        component' = self.service.failureThreshold component' := by
      cases component' <;> rfl
    constructor
    · intro component' hle
      rw [hservice, hcount, hthreshold] at hle
      exact absurd hle (Int.not_le.2 (h.threshold_pos component'))
    · intro component'
      have hfailing := h.failing component'
      rw [hcontained hexits component'] at hfailing
      rw [hservice, hcount]
      exact hfailing
    · intro component'
      rw [hservice, hthreshold]
      exact h.threshold_pos component'
    · intro hmode
      rw [hservice] at hmode
      exact absurd rfl hmode
  · rw [if_neg hexits] at hservice
    exact ⟨hservice ▸ h.covered, hservice ▸ h.failing, hservice ▸ h.threshold_pos, hservice ▸ h.entered⟩

/-- A recovery is safe exactly if it is contained. -/
theorem recoversSafely_iff (h : self.Sound) :
    self.RecoversSafely (.recovery, now) ↔ self.Contained (.recovery, now) := by
  have hservice : (self.step (.recovery, now)).service =
      if self.service.Exits then self.service.exitDegradationMode now else self.service :=
    (service_step _).trans HealthEvent.apply_recovery
  unfold RecoversSafely
  rw [hservice]
  constructor
  · intro hsafe hexits component'
    by_contra hcount
    have hfailing := (h.failing component').2 (Nat.pos_of_ne_zero hcount)
    obtain ⟨hmode, -⟩ := hsafe rfl component' hfailing
    rw [if_pos hexits] at hmode
    exact hexits.1 (hmode rfl)
  · intro hcontained _ component' hfailing
    have hpos := (h.failing component').1 hfailing
    by_cases hexits : self.service.Exits
    · rw [hcontained hexits component'] at hpos
      exact absurd hpos (Nat.lt_irrefl 0)
    · rw [if_neg hexits]
      exact ⟨id, id⟩

/-- An event does no harm exactly if it is contained. -/
theorem safe_iff (h : self.Sound) (event : HealthEvent × Time) :
    (∀ component, (self.step event).service.Covers component) ∧ self.RecoversSafely event ↔
      self.Contained event := by
  obtain ⟨event, now⟩ := event
  cases event with
  | failure component =>
    rw [covers_failure_iff h]
    exact and_iff_left fun hevent => by cases hevent
  | healthy component =>
    refine iff_of_true ⟨fun component' => ?_, fun hevent => by cases hevent⟩ trivial
    exact DegradationService.covers_iff.2 (h.healthy.covered component')
  | recovery =>
    rw [recoversSafely_iff h]
    refine and_iff_right_of_imp fun hcontained component' => ?_
    exact DegradationService.covers_iff.2 ((h.recovery hcontained).covered component')

/-- A contained event keeps the mode the one that the failing components demand. -/
theorem Sound.step (h : self.Sound) (event : HealthEvent × Time) (hcontained : self.Contained event) :
    (self.step event).Sound := by
  obtain ⟨event, now⟩ := event
  cases event with
  | failure component => exact h.failure hcontained
  | healthy component => exact h.healthy
  | recovery => exact h.recovery hcontained

end DegradationHistory

/-- In a run from the start, each component is covered at every moment, and no recovery clears what is still
failing, exactly if the thresholds are positive and every event is contained. -/
theorem degradation_covers_iff (settings : DegradationSettings)
    (databaseFailureThreshold redisFailureThreshold : Int) (start : Time)
    (events : List (HealthEvent × Time)) :
    (∀ component, (DegradationService.init settings databaseFailureThreshold redisFailureThreshold
        start).Covers component) ∧
      Along DegradationHistory.step
        (fun self event => (∀ component, (self.step event).service.Covers component) ∧
          self.RecoversSafely event)
        { service := .init settings databaseFailureThreshold redisFailureThreshold start } events ↔
    (0 < databaseFailureThreshold ∧ 0 < redisFailureThreshold) ∧
      Along DegradationHistory.step DegradationHistory.Contained
        { service := .init settings databaseFailureThreshold redisFailureThreshold start } events := by
  have hinit (component : HealthComponent) : (DegradationService.init settings databaseFailureThreshold
      redisFailureThreshold start).Covers component ↔ 0 < (DegradationService.init settings
        databaseFailureThreshold redisFailureThreshold start).failureThreshold component := by
    rw [DegradationService.covers_iff]
    constructor
    · intro hcovers
      refine Int.not_le.1 fun hle => ?_
      refine DegradationService.mode_ne_full component (hcovers ?_).symm
      cases component <;> exact hle
    · intro hpos hle
      refine absurd hpos (Int.not_lt.2 ?_)
      cases component <;> exact hle
  have hcovers : (∀ component, (DegradationService.init settings databaseFailureThreshold
      redisFailureThreshold start).Covers component) ↔
        0 < databaseFailureThreshold ∧ 0 < redisFailureThreshold := by
    simp only [hinit]
    exact ⟨fun h => ⟨h .database, h .redis⟩, fun h component => by cases component; exacts [h.1, h.2]⟩
  rw [hcovers]
  refine and_congr_right fun hpos => ?_
  refine along_iff (I := DegradationHistory.Sound) ?_ (fun s event _ hs => DegradationHistory.safe_iff hs event)
    fun s event _ hs hsafe => hs.step event ((DegradationHistory.safe_iff hs event).1 hsafe)
  constructor
  · intro component
    exact DegradationService.covers_iff.1 (hcovers.2 hpos component)
  · intro component
    cases component <;> exact iff_of_false Bool.false_ne_true (Nat.lt_irrefl 0)
  · intro component
    cases component
    exacts [hpos.1, hpos.2]
  · intro hmode
    exact absurd rfl hmode

namespace DegradationMonitor

/-- The service of the tests. -/
def service : DegradationService := .init { degradationAutoRecovery := some true } 5 3 0

/-- The database fails, and then Redis. -/
def outage : List (HealthEvent × Time) :=
  List.replicate 5 (.failure .database, 0) ++ List.replicate 2 (.failure .redis, 0)

end DegradationMonitor

open DegradationMonitor in
/-- The third failure of Redis makes the features of the database available, which goes on failing. -/
theorem not_degradation_covers :
    ¬((∀ component, service.Covers component) ∧
      Along DegradationHistory.step
        (fun self event => (∀ component, (self.step event).service.Covers component) ∧
          self.RecoversSafely event)
        { service } (outage ++ [(.failure .redis, 0)])) := by
  rintro ⟨-, halong⟩
  obtain ⟨-, ⟨hcovers, -⟩, -⟩ := (along_append _ _).1 halong
  have hunavailable := hcovers .database (by decide) "persistence" (by decide)
  revert hunavailable
  decide

open DegradationMonitor in
/-- Once Redis is healthy again, the recovery clears the five failures of the database. -/
example : (after DegradationHistory.step { service }
    (outage ++ [(.failure .redis, 0), (.healthy .redis, 0), (.recovery, 0)])).service.dbFailureCount = 0 := by
  decide

end AgentRuntime
