import AgentRuntime.Providers.Health
import AgentRuntime.Services.Registration

/-!
# The provider service under the readiness probe

`ProviderService.complete` (`app/application/services/provider_service.py`) with what it tells the health
monitor, and `readiness` (`app/api/v1/health.py`). Only a request to the provider that is asked for is a
check of it: a request that its breaker refuses, that is interrupted or that goes to a fallback provider is
none. `getProviderHealth_afterCalls` reads the health of a provider off the run. A provider whose last check
failed makes the service not ready, until one succeeds or it is reset, and taking it out of the registry
does not (`ready_iff`).
-/

namespace AgentRuntime

open Interaction

/-- The provider service, its registry and its health monitor. -/
structure MonitoredService where
  registered : RegisteredSession
  healthMonitor : ProviderHealthMonitor := {}

/-- A request, and what the clock of the monitor shows when it is recorded. -/
structure MonitoredRequest (Response : Type) where
  call : CompletionCall Response
  checkedAt : Rat
  endedAt : Rat

/-- The check that is recorded for the request. -/
def MonitoredRequest.check {Response : Type} (self : MonitoredRequest Response) (isHealthy : Bool)
    (latencyMs : Rat) : HealthCheck :=
  { isHealthy, latencyMs, checkedAt := self.checkedAt, endedAt := self.endedAt }

namespace MonitoredService

/-- The service with the session after one of its methods. -/
def withSession (session : ProviderSession) (self : MonitoredService) : MonitoredService :=
  { self with registered := { self.registered with session } }

/-- The service with the monitor after one of its calls. -/
def monitor (call : MonitorCall) (self : MonitoredService) : MonitoredService :=
  { self with healthMonitor := call.apply self.healthMonitor }

/-- A method of the service that the monitor has no part in. -/
def onSession {α : Type} (m : ProviderService.Call α) : Method RaisedError MonitoredService α :=
  Method.within (fun self => self.registered.session) withSession m

section
variable {Response : Type} (latencyMs : Response → Rat)

/-- The handler of `except Exception` in `complete`. -/
def recordFailure (request : MonitoredRequest Response) (providerName : String) (e : RaisedError) :
    Method RaisedError MonitoredService Response := do
  if e.isException then
    onSession (modify (ProviderSession.withBreaker providerName
      (CircuitBreaker.recordFailure request.call.answeredAt)))
    modify (monitor (.recordHealthCheck providerName (request.check false 0)))
    if request.call.enableFallback then
      let decision ← onSession (ProviderService.shouldFallback providerName (classifyError e))
      if decision.shouldFallback then
        onSession (ProviderService.attemptFallback request.call providerName request.call.answeredAt)
      else
        throw e
    else
      throw e
  else
    throw e

/-- Execute a model completion with resilience features: `ProviderService.complete`. -/
def complete (request : MonitoredRequest Response) : Method RaisedError MonitoredService Response := do
  let providerName ← onSession (ProviderService.selectProvider request.call.providerName)
  let admitted ← onSession (ProviderService.canExecute providerName request.call.askedAt)
  if !admitted then
    if request.call.enableFallback then
      onSession (ProviderService.attemptFallback request.call providerName request.call.askedAt)
    else
      throw (providerUnavailableError s!"Circuit breaker open for provider {providerName}" providerName)
  else
    tryCatch
      (do
        let response ← onSession
          (ProviderService.request request.call providerName request.call.askedAt)
        onSession (modify (ProviderSession.withBreaker providerName
          (CircuitBreaker.recordSuccess request.call.answeredAt)))
        modify (monitor (.recordHealthCheck providerName (request.check true (latencyMs response))))
        pure response)
      (recordFailure request providerName)

/-! ## What a request records -/

/-- The outcome of a request that is sent to its provider: an exception is a failure, an interruption
neither a success nor a failure. -/
def outcome? (request : MonitoredRequest Response) (provider : String) : Option MonitorCall :=
  match request.call.answer provider with
  | .ok response => some (.recordHealthCheck provider (request.check true (latencyMs response)))
  | .error e =>
    if e.isException then some (.recordHealthCheck provider (request.check false 0)) else none

/-- What a request records: its provider is found, and admits it. -/
def recorded? (request : MonitoredRequest Response) (service : ProviderService) : Option MonitorCall :=
  (service.selected? request.call.providerName).bind fun provider =>
    if service.admits provider request.call.askedAt then outcome? latencyMs request provider else none

/-- The handler does to the session what it does without the monitor, and records a failure. -/
theorem recordFailure_on (request : MonitoredRequest Response) (provider : String) (e : RaisedError)
    (self : MonitoredService) : (recordFailure request provider e).on self =
      let r := (ProviderService.recordFailure request.call provider e).on self.registered.session
      (r.1, { self.withSession r.2 with
        healthMonitor := if e.isException then
            self.healthMonitor.recordHealthCheck provider (request.check false 0)
          else self.healthMonitor }) := by
  unfold recordFailure ProviderService.recordFailure onSession
  cases e.isException with
  | false => rfl
  | true =>
    simp only [if_true, Method.on_bind, Method.on_within, Method.on_modify, Method.on_ite, Method.on_throw]
    split_ifs with hfallback
    · simp only [withSession, monitor]
      rcases (ProviderService.shouldFallback provider (classifyError e)).on
        (ProviderSession.withBreaker provider (CircuitBreaker.recordFailure request.call.answeredAt)
          self.registered.session) with ⟨_ | decision, session⟩
      · rfl
      · dsimp only
        split_ifs
        · rfl
        · rfl
    · rfl

/-- **A request does to the session what it does without the monitor**, and what it records to the
monitor. -/
theorem complete_on (request : MonitoredRequest Response) (self : MonitoredService) :
    (complete latencyMs request).on self =
      let r := (ProviderService.complete request.call).on self.registered.session
      (r.1, { self.withSession r.2 with
        healthMonitor := after MonitorCall.apply self.healthMonitor
          (recorded? latencyMs request self.registered.session.service).toList }) := by
  obtain ⟨provider, hselected, hon⟩ | ⟨hnone, e, hon⟩ :=
    ProviderService.selectProvider_on request.call.providerName self.registered.session
  · rw [ProviderService.complete_on _ hselected]
    unfold recorded? complete onSession
    rw [hselected]
    simp only [Method.on_bind, Method.on_within, hon, ProviderService.canExecute_on, Method.on_ite,
      Method.on_tryCatch, ProviderService.request_on, withSession, Option.bind_some, outcome?]
    cases hadmits : self.registered.session.service.admits provider request.call.askedAt with
    | false =>
      simp only [Bool.not_false, if_true, Bool.false_eq_true, if_false]
      split_ifs
      · rfl
      · rfl
    | true =>
      simp only [Bool.not_true, if_true, Bool.false_eq_true, if_false]
      cases hanswer : request.call.answer provider with
      | ok response => rfl
      | error e =>
        dsimp only
        rw [recordFailure_on]
        cases e.isException with
        | true => rfl
        | false => rfl
  · unfold recorded?
    rw [hnone]
    unfold complete ProviderService.complete onSession
    simp only [Method.on_bind, Method.on_within, hon]
    rfl

end

end MonitoredService

/-! ## Runs of the service -/

/-- Unregister a provider: `registry.unregister_provider`. -/
def RegisteredSession.unregisterProvider (providerName : String) (self : RegisteredSession) :
    RegisteredSession :=
  if providerName ∈ self.session.service.registry.providers then
    { self with
      session := { self.session with
        service := { self.session.service with
          registry := ⟨self.session.service.registry.providers.filter fun name => name ≠ providerName⟩ } }
      configs := Function.update self.configs providerName none
      retryPolicies := Function.update self.retryPolicies providerName none
      circuitBreakerConfigs := Function.update self.circuitBreakerConfigs providerName none }
  else self

/-- Clear all registered providers: `registry.clear_all`. -/
def RegisteredSession.clearAll (self : RegisteredSession) : RegisteredSession :=
  { self with
    session := { self.session with service := { self.session.service with registry := {} } }
    configs := fun _ => none
    retryPolicies := fun _ => none
    circuitBreakerConfigs := fun _ => none }

/-- A call of the service, of its registry or of its health monitor. -/
inductive ProviderCall (Response : Type) where
  | register (r : Registration)
  | unregister (providerName : String)
  | clearAll
  | complete (request : MonitoredRequest Response)
  | resetProvider (providerName : String)
  | resetAll

namespace ProviderCall

section
variable {Response : Type} (latencyMs : Response → Rat)

/-- What a call makes of the service, whether it returns or raises. -/
def apply : ProviderCall Response → MonitoredService → MonitoredService
  | register r, self =>
    { self with registered := ((ProviderService.registerProvider r).on self.registered).2 }.monitor
      (.registerProvider r.providerName)
  | unregister providerName, self =>
    { self with registered := self.registered.unregisterProvider providerName }
  | clearAll, self => { self with registered := self.registered.clearAll }
  | complete request, self => ((MonitoredService.complete latencyMs request).on self).2
  | resetProvider providerName, self => self.monitor (.resetProvider providerName)
  | resetAll, self => self.monitor .resetAll

/-- What a call tells the health monitor. -/
def monitored? : ProviderCall Response → MonitoredService → Option MonitorCall
  | register r, _ => some (.registerProvider r.providerName)
  | unregister _, _ => none
  | clearAll, _ => none
  | complete request, self => MonitoredService.recorded? latencyMs request self.registered.session.service
  | resetProvider providerName, _ => some (.resetProvider providerName)
  | resetAll, _ => some .resetAll

/-- A call of the service does to the monitor what its check is, and nothing where it makes none. -/
theorem healthMonitor_apply (a : ProviderCall Response) (self : MonitoredService) :
    (a.apply latencyMs self).healthMonitor =
      after MonitorCall.apply self.healthMonitor (a.monitored? latencyMs self).toList := by
  cases a with
  | complete request =>
    simp only [apply, MonitoredService.complete_on]
    rfl
  | register r => rfl
  | unregister providerName => rfl
  | clearAll => rfl
  | resetProvider providerName => rfl
  | resetAll => rfl

/-- What the calls of a run tell the health monitor. -/
def checks (fallbackConfig : FallbackConfig) (calls : List (ProviderCall Response)) : List MonitorCall :=
  observed (apply latencyMs) (monitored? latencyMs) ⟨RegisteredSession.new fallbackConfig, {}⟩ calls

/-- The service after the calls of a run. -/
def afterCalls (fallbackConfig : FallbackConfig) (calls : List (ProviderCall Response)) : MonitoredService :=
  after (apply latencyMs) ⟨RegisteredSession.new fallbackConfig, {}⟩ calls

/-- So the monitor is that of the checks alone. -/
theorem healthMonitor_afterCalls (fallbackConfig : FallbackConfig) (calls : List (ProviderCall Response)) :
    (afterCalls latencyMs fallbackConfig calls).healthMonitor =
      after MonitorCall.apply {} (checks latencyMs fallbackConfig calls) :=
  after_observed MonitoredService.healthMonitor (healthMonitor_apply latencyMs) calls _

/-- **The health of a provider after any calls** is the statistics of the requests to it that were sent and
answered, or failed, when it was asked for, since it was last reset. -/
theorem getProviderHealth_afterCalls (fallbackConfig : FallbackConfig) (calls : List (ProviderCall Response))
    (name : String) :
    (afterCalls latencyMs fallbackConfig calls).healthMonitor.getProviderHealth name =
      if MonitorCall.knows name (checks latencyMs fallbackConfig calls) then
        some (ProviderHealth.ofLog name
          (MonitorCall.checksSince name (checks latencyMs fallbackConfig calls)))
      else none := by
  rw [healthMonitor_afterCalls, ProviderHealthMonitor.getProviderHealth_after]

end

end ProviderCall

/-! ## The readiness probe -/

/-- What the probe finds at the database: whether it answers, and the version of its migrations. -/
structure EngineState where
  healthy : Bool
  migrationVersion : Except PyError (Option String)

/-- What the probe finds in `request.app.state`. -/
structure ProbedState where
  dbEngine : Option EngineState
  redisClient : Option Bool
  providerService : Option MonitoredService

/-- The answer of the probe: the status of the reply, of the whole and of each check. -/
structure Readiness where
  statusCode : Nat
  status : String
  checks : List (String × String)
  deriving DecidableEq

namespace ProbedState

/-- The version of the migrations, if it can be read. -/
def migrationVersion (self : ProbedState) : Option String :=
  self.dbEngine.bind fun engine => match engine.migrationVersion with
    | .ok version => version
    | .error _ => none

/-- The checks of the probe, with their statuses. -/
def checks (self : ProbedState) : List (String × String) :=
  let dbOk := (self.dbEngine.map EngineState.healthy).getD false
  let redisOk := self.redisClient.getD false
  let checks :=
    [("database", if dbOk then "ok" else "fail"), ("redis", if redisOk then "ok" else "fail"),
      ("migrations", if self.migrationVersion.isSome then "ok" else "fail")]
  match self.providerService with
  | none => checks
  | some service =>
    checks ++ [("providers",
      if service.healthMonitor.getOverallHealth.overallHealthy then "ok" else "degraded")]

/-- Verify that the application is ready to serve traffic: `GET /readyz`. -/
def readiness (self : ProbedState) : Readiness :=
  let allOk := self.checks.all fun check => check.2 = "ok"
  { statusCode := if allOk then 200 else 503
    status := if allOk then "ok" else "degraded"
    checks := self.checks }

end ProbedState

section
variable {Response : Type} {latencyMs : Response → Rat} {name : String}

/-- The database answers and its migrations have a version. -/
def EngineState.Ready (self : EngineState) : Prop :=
  self.healthy = true ∧ ∃ version, self.migrationVersion = .ok (some version)

/-- The providers have no part in this: the database and Redis answer. -/
def ProbedState.ServersReady (self : ProbedState) : Prop :=
  (∃ engine, self.dbEngine = some engine ∧ engine.Ready) ∧ self.redisClient = some true

/-- The probe answers 200 or 503, and nothing else. -/
theorem ProbedState.statusCode_eq_or (self : ProbedState) :
    self.readiness.statusCode = 200 ∨ self.readiness.statusCode = 503 := by
  unfold readiness
  dsimp only
  split_ifs
  · exact Or.inl rfl
  · exact Or.inr rfl

/-- The probe answers 200 if all of its checks succeed. -/
theorem ProbedState.readiness_iff (self : ProbedState) :
    self.readiness.statusCode = 200 ↔ self.ServersReady ∧ ∀ service, self.providerService = some service →
      service.healthMonitor.getOverallHealth.overallHealthy = true := by
  have hall : self.readiness.statusCode = 200 ↔ ∀ check ∈ self.checks, check.2 = "ok" := by
    unfold readiness
    dsimp only
    rw [← List.all_eq_true.trans (forall₂_congr fun check _ => decide_eq_true_iff)]
    split_ifs with h
    · exact iff_of_true rfl h
    · exact iff_of_false (by decide) h
  rw [hall]
  obtain ⟨dbEngine, redisClient, providerService⟩ := self
  have hredis : redisClient.getD false = true ↔ redisClient = some true := by
    cases redisClient <;> simp
  have hengine : (dbEngine.map EngineState.healthy).getD false = true ∧
      (migrationVersion ⟨dbEngine, redisClient, providerService⟩).isSome = true ↔
        ∃ engine, dbEngine = some engine ∧ engine.Ready := by
    unfold migrationVersion
    cases dbEngine with
    | none => simp
    | some engine =>
      obtain ⟨healthy, _ | version⟩ := engine
      · simp [EngineState.Ready]
      · simp [EngineState.Ready, Option.isSome_iff_exists]
  have hok (b : Bool) {other : String} (hother : other ≠ "ok") :
      (if b = true then "ok" else other) = "ok" ↔ b = true := by
    cases b with
    | true => exact iff_of_true rfl rfl
    | false => exact iff_of_false hother (by decide)
  unfold checks ServersReady
  rw [← hengine, ← hredis]
  cases providerService with
  | none =>
    simp only [List.forall_mem_cons, hok _ (show "fail" ≠ "ok" by decide)]
    constructor
    · rintro ⟨hdatabase, hcache, hmigrations, -⟩
      exact ⟨⟨⟨hdatabase, hmigrations⟩, hcache⟩, fun _ h => by cases h⟩
    · rintro ⟨⟨⟨hdatabase, hmigrations⟩, hcache⟩, -⟩
      exact ⟨hdatabase, hcache, hmigrations, fun _ h => absurd h List.not_mem_nil⟩
  | some service =>
    simp only [List.cons_append, List.nil_append, List.forall_mem_cons, hok _ (show "fail" ≠ "ok" by decide),
      hok _ (show "degraded" ≠ "ok" by decide), Option.some.injEq, forall_eq']
    constructor
    · rintro ⟨hdatabase, hcache, hmigrations, hproviders, -⟩
      exact ⟨⟨⟨hdatabase, hmigrations⟩, hcache⟩, hproviders⟩
    · rintro ⟨⟨⟨hdatabase, hmigrations⟩, hcache⟩, hproviders⟩
      exact ⟨hdatabase, hcache, hmigrations, hproviders, fun _ h => absurd h List.not_mem_nil⟩

/-- **The service is ready exactly if the servers answer and no provider failed its last check**: PostgreSQL,
Redis and the broker, and every provider that the monitor knows. -/
theorem ready_iff (dbEngine : Option EngineState) (redisClient : Option Bool) (fallbackConfig : FallbackConfig)
    (calls : List (ProviderCall Response)) :
    let service := ProviderCall.afterCalls latencyMs fallbackConfig calls
    let state : ProbedState := { dbEngine, redisClient, providerService := some service }
    state.readiness.statusCode = 200 ↔ state.ServersReady ∧
      ∀ name check,
        (MonitorCall.checksSince name (ProviderCall.checks latencyMs fallbackConfig calls)).getLast? =
          some check → check.isHealthy = true := by
  intro service state
  have hdistinct : service.healthMonitor.Distinct := by
    simp only [service]
    rw [ProviderCall.healthMonitor_afterCalls]
    exact ProviderHealthMonitor.distinct_after _
  rw [ProbedState.readiness_iff]
  refine and_congr_right fun _ => ?_
  simp only [state, Option.some.injEq, forall_eq']
  rw [ProviderHealthMonitor.overallHealthy_iff hdistinct]
  refine forall_congr' fun name => ?_
  simp only [service]
  rw [ProviderCall.getProviderHealth_afterCalls]
  split_ifs with hknows
  · simp only [Option.some.injEq, forall_eq', ProviderHealth.ofLog]
    cases (MonitorCall.checksSince name (ProviderCall.checks latencyMs fallbackConfig calls)).getLast? with
    | none => simp
    | some check => simp
  · rw [MonitorCall.checksSince_eq_nil (by simpa using hknows)]
    simp

/-! ## A provider that is taken out -/

namespace MonitoredService

/-- The registry has no provider of the name, and the last check of it failed. -/
structure OutOfReach (name : String) (monitored : MonitoredService) : Prop where
  notRegistered : name ∉ monitored.registered.session.service.registry.providers
  failed : ∃ health, monitored.healthMonitor.getProviderHealth name = some health ∧ health.isHealthy = false

end MonitoredService

/-- The call takes the provider out of the registry, by its name or with all the others. -/
def ProviderCall.removes (name : String) : ProviderCall Response → Bool
  | unregister providerName => providerName = name
  | clearAll => true
  | _ => false

/-- The call registers the name, or resets its health or that of all names. -/
def ProviderCall.restores (name : String) : ProviderCall Response → Bool
  | register r => r.providerName = name
  | resetProvider providerName => providerName = name
  | resetAll => true
  | _ => false

/-- A request leaves the registry as it is. -/
theorem MonitoredService.registry_complete (request : MonitoredRequest Response) (self : MonitoredService) :
    ((complete latencyMs request).on self).2.registered.session.service.registry =
      self.registered.session.service.registry := by
  have hkept : ProviderService.KeptByParts fun session =>
      session.service.registry = self.registered.session.service.registry :=
    ⟨fun _ _ h => h, fun _ _ _ h => h, fun _ _ h => h⟩
  rw [complete_on]
  exact hkept.complete request.call _ rfl

/-- A request to a provider is recorded for a provider that is registered. -/
theorem MonitoredService.providerName_recorded {request : MonitoredRequest Response} {service : ProviderService}
    {call : MonitorCall} (h : recorded? latencyMs request service = some call) :
    ∃ provider check, call = .recordHealthCheck provider check ∧ provider ∈ service.registry.providers := by
  obtain ⟨provider, hselected, hrecorded⟩ := Option.bind_eq_some_iff.1 h
  obtain ⟨hmem, heq⟩ := ProviderRegistry.getProvider_eq_some.1 hselected
  have hregistered : provider ∈ service.registry.providers := heq ▸ hmem
  obtain ⟨-, houtcome⟩ := Option.ite_none_right_eq_some.1 hrecorded
  unfold outcome? at houtcome
  cases hanswer : request.call.answer provider with
  | ok response =>
    rw [hanswer] at houtcome
    exact ⟨provider, _, (Option.some.inj houtcome).symm, hregistered⟩
  | error e =>
    rw [hanswer] at houtcome
    obtain ⟨-, hcall⟩ := Option.ite_none_right_eq_some.1 houtcome
    exact ⟨provider, _, (Option.some.inj hcall).symm, hregistered⟩

/-- A provider whose last check failed is out of reach once it is taken out of the registry. -/
theorem MonitoredService.outOfReach_apply_removes {self : MonitoredService} {a : ProviderCall Response}
    (ha : a.removes name = true) (hfailed : ∃ health,
      self.healthMonitor.getProviderHealth name = some health ∧ health.isHealthy = false) :
    (a.apply latencyMs self).OutOfReach name := by
  cases a with
  | unregister providerName =>
    obtain rfl : providerName = name := of_decide_eq_true ha
    refine ⟨?_, hfailed⟩
    simp only [ProviderCall.apply, RegisteredSession.unregisterProvider]
    split_ifs with hregistered
    · exact fun hmem => of_decide_eq_true (List.mem_filter.1 hmem).2 rfl
    · exact hregistered
  | clearAll => exact ⟨List.not_mem_nil, hfailed⟩
  | register r => cases ha
  | complete request => cases ha
  | resetProvider providerName => cases ha
  | resetAll => cases ha

/-- Nothing but a registration or a reset brings the provider back. -/
theorem MonitoredService.OutOfReach.apply {self : MonitoredService} (h : self.OutOfReach name)
    {a : ProviderCall Response} (ha : a.restores name = false) : (a.apply latencyMs self).OutOfReach name := by
  have hhealth := ProviderCall.healthMonitor_apply latencyMs a self
  obtain ⟨hregistered, hfailed⟩ := h
  cases a with
  | register r =>
    have hname : r.providerName ≠ name := of_decide_eq_false ha
    obtain ⟨hproviders, -⟩ := ServiceCall.maps_register Response self.registered r
    constructor
    · intro hmem
      change name ∈ ((ServiceCall.register r : ServiceCall Response).apply
        self.registered).session.service.registry.providers at hmem
      rw [hproviders, mem_insertName] at hmem
      exact hmem.elim hregistered fun heq => hname heq.symm
    · rw [hhealth]
      obtain ⟨health, hget, hunhealthy⟩ := hfailed
      refine ⟨health, ?_, hunhealthy⟩
      exact (ProviderHealthMonitor.getProviderHealth_registerProvider ..).trans ((if_neg hname).trans hget)
  | unregister providerName =>
    refine ⟨?_, hfailed⟩
    simp only [ProviderCall.apply, RegisteredSession.unregisterProvider]
    split_ifs
    · exact fun hmem => hregistered (List.mem_filter.1 hmem).1
    · exact hregistered
  | clearAll => exact ⟨List.not_mem_nil, hfailed⟩
  | complete request =>
    constructor
    · simp only [ProviderCall.apply]
      rw [MonitoredService.registry_complete]
      exact hregistered
    · rw [hhealth]
      simp only [ProviderCall.monitored?]
      cases hrecorded : MonitoredService.recorded? latencyMs request self.registered.session.service with
      | none => exact hfailed
      | some call =>
        obtain ⟨provider, check, rfl, hmem⟩ := MonitoredService.providerName_recorded hrecorded
        obtain ⟨health, hget, hunhealthy⟩ := hfailed
        refine ⟨health, ?_, hunhealthy⟩
        refine (ProviderHealthMonitor.getProviderHealth_recordHealthCheck ..).trans ?_
        rw [if_neg (fun heq : provider = name => hregistered (heq ▸ hmem)), hget]
  | resetProvider providerName =>
    have hname : providerName ≠ name := of_decide_eq_false ha
    refine ⟨hregistered, ?_⟩
    obtain ⟨health, hget, hunhealthy⟩ := hfailed
    refine ⟨health, ?_, hunhealthy⟩
    exact (ProviderHealthMonitor.getProviderHealth_resetProvider ..).trans ((if_neg hname).trans hget)
  | resetAll => cases ha

/-- **A provider that failed and is taken out of the registry keeps the service from being ready**, whether
it is taken out by its name or with all names, and whatever is called, until it is registered again or its
health is reset, alone or with that of all names. -/
theorem not_ready_of_unregistered (dbEngine : Option EngineState) (redisClient : Option Bool)
    (fallbackConfig : FallbackConfig) (calls calls' : List (ProviderCall Response))
    {removal : ProviderCall Response} {check : HealthCheck}
    (hfailed : (MonitorCall.checksSince name (ProviderCall.checks latencyMs fallbackConfig calls)).getLast? =
      some check ∧ check.isHealthy = false)
    (hremoval : removal.removes name = true) (hcalls' : ∀ a ∈ calls', a.restores name = false) :
    let service := ProviderCall.afterCalls latencyMs fallbackConfig (calls ++ removal :: calls')
    (ProbedState.readiness { dbEngine, redisClient, providerService := some service }).statusCode = 503 := by
  intro service
  have hstart : (ProviderCall.apply latencyMs removal
      (ProviderCall.afterCalls latencyMs fallbackConfig calls)).OutOfReach name := by
    refine MonitoredService.outOfReach_apply_removes hremoval ⟨ProviderHealth.ofLog name
      (MonitorCall.checksSince name (ProviderCall.checks latencyMs fallbackConfig calls)), ?_, ?_⟩
    · refine (ProviderCall.getProviderHealth_afterCalls latencyMs fallbackConfig calls name).trans (if_pos ?_)
      by_contra hknows
      rw [MonitorCall.checksSince_eq_nil (by simpa using hknows)] at hfailed
      cases hfailed.1
    · rw [ProviderHealth.ofLog, hfailed.1]
      exact hfailed.2
  have hafter : service.OutOfReach name := by
    simp only [service, ProviderCall.afterCalls]
    rw [after_append, after_cons]
    exact after_induction hstart fun self a ha hself => hself.apply (hcalls' a ha)
  have hdistinct : service.healthMonitor.Distinct := by
    simp only [service]
    rw [ProviderCall.healthMonitor_afterCalls]
    exact ProviderHealthMonitor.distinct_after _
  obtain ⟨health, hget, hunhealthy⟩ := hafter.failed
  refine (ProbedState.statusCode_eq_or _).resolve_left fun hready => ?_
  obtain ⟨-, hproviders⟩ := (ProbedState.readiness_iff _).1 hready
  have hhealthy := (ProviderHealthMonitor.overallHealthy_iff hdistinct).1 (hproviders service rfl) name health hget
  exact Bool.false_ne_true (hunhealthy.symm.trans hhealthy)

end

/-- OpenAI is registered, and a request to it times out. -/
def openAiTimesOut : List (ProviderCall Unit) :=
  [.register openAiPlain,
    .complete
      { call :=
          { enableFallback := false, askedAt := 0, answeredAt := 1
            answer := fun provider => .error (.provider .timeout "timeout" provider) }
        checkedAt := 1
        endedAt := 1 }]

/-- Anthropic is registered, and answers the request that asks for it. -/
def anthropicAnswers : List (ProviderCall Unit) :=
  [.register { openAiPlain with providerName := "anthropic" },
    .complete
      { call :=
          { providerName := some "anthropic", enableFallback := false, askedAt := 2, answeredAt := 3
            answer := fun _ => .ok () }
        checkedAt := 3
        endedAt := 3 }]

/-- Another provider that answers does not make up for the one that was taken out. -/
theorem not_ready_of_openAi :
    (ProbedState.readiness
      { dbEngine := some ⟨true, .ok (some "0001")⟩, redisClient := some true
        providerService := some (ProviderCall.afterCalls (fun _ => 0) { primaryProvider := "openai" }
          (openAiTimesOut ++ .unregister "openai" :: anthropicAnswers)) }).statusCode = 503 := by
  have hfailed : (MonitorCall.checksSince "openai"
      (ProviderCall.checks (fun _ => 0) { primaryProvider := "openai" } openAiTimesOut)).getLast? =
        some ⟨false, 0, 1, 1⟩ := rfl
  exact not_ready_of_unregistered _ _ _ _ _ ⟨hfailed, rfl⟩ (by decide)
    (by simp [anthropicAnswers, ProviderCall.restores])

end AgentRuntime
