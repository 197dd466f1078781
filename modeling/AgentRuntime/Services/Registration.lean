import AgentRuntime.Providers.ErrorClasses
import AgentRuntime.Providers.Retry
import AgentRuntime.Services.ProviderBreakers

/-!
# Registering a provider

`ProviderService.register_provider` (`app/application/services/provider_service.py`), with the registry's
(`app/infrastructure/providers/registry.py`). The registry keeps four maps. A registration writes the
provider and its configuration, but a retry policy and a breaker configuration, and with it the service's
breaker, only if they are given. So the ones of an earlier registration of the name stay
(`replaces_iff`), although the registry says that it is overwriting, and unregistering clears all four.
-/

namespace AgentRuntime

open Interaction

/-- The arguments of `register_provider`. -/
structure Registration where
  providerName : String
  config : ProviderConfig
  retryPolicy : Option RetryPolicy := none
  circuitBreakerConfig : Option CircuitBreakerConfig := none

/-- The service with the registry's other maps and the names that the health monitor knows. -/
structure RegisteredSession where
  session : ProviderSession
  configs : String → Option ProviderConfig := fun _ => none
  retryPolicies : String → Option RetryPolicy := fun _ => none
  circuitBreakerConfigs : String → Option CircuitBreakerConfig := fun _ => none
  monitored : List String := []

/-- An assignment to a name, if there is a value. -/
def assignGiven {α : Type} (name : String) (value : Option α) (values : String → Option α) :
    String → Option α :=
  match value with
  | some value => Function.update values name (some value)
  | none => values

/-- A name in a list of names without duplicates. -/
def insertName (name : String) (names : List String) : List String :=
  if name ∈ names then names else names ++ [name]

namespace RegisteredSession

/-- `registry.register_provider(…)`. -/
def registerProvider (r : Registration) (self : RegisteredSession) : RegisteredSession :=
  { self with
    session := { self.session with
      service := { self.session.service with
        registry := ⟨insertName r.providerName self.session.service.registry.providers⟩ } }
    configs := Function.update self.configs r.providerName (some r.config)
    retryPolicies := assignGiven r.providerName r.retryPolicy self.retryPolicies
    circuitBreakerConfigs :=
      assignGiven r.providerName r.circuitBreakerConfig self.circuitBreakerConfigs }

/-- `health_monitor.register_provider(…)`. -/
def monitor (providerName : String) (self : RegisteredSession) : RegisteredSession :=
  { self with monitored := insertName providerName self.monitored }

/-- `_circuit_breakers[provider_name] = circuit_breaker`. -/
def putBreaker (breaker : CircuitBreaker) (self : RegisteredSession) : RegisteredSession :=
  { self with
    session := { self.session with
      service := { self.session.service with
        circuitBreakers :=
          Function.update self.session.service.circuitBreakers breaker.providerName (some breaker) } } }

end RegisteredSession

/-- Register a provider with the service: `register_provider`. -/
def ProviderService.registerProvider (r : Registration) : Method PyError RegisteredSession Unit := do
  modify (RegisteredSession.registerProvider r)
  modify (RegisteredSession.monitor r.providerName)
  match r.circuitBreakerConfig with
  | none => pure ()
  | some config =>
    let breaker ← Method.ofExcept (CircuitBreaker.postInit { config, providerName := r.providerName })
    modify (RegisteredSession.putBreaker breaker)

/-- A call of the service. -/
inductive ServiceCall (Response : Type) where
  | register (r : Registration)
  | complete (call : CompletionCall Response)

/-- What a call makes of the service, whether it returns or raises. -/
def ServiceCall.apply {Response : Type} : ServiceCall Response → RegisteredSession → RegisteredSession
  | register r, self => ((ProviderService.registerProvider r).on self).2
  | complete call, self => { self with session := ProviderService.serve call self.session }

/-- A new service with a new registry. -/
def RegisteredSession.new (fallbackConfig : FallbackConfig) : RegisteredSession where
  session :=
    { service := { registry := {}, fallbackConfig, fallbackHandler := ⟨fallbackConfig, fun _ => 0⟩ } }

/-- What the registry has for a name, and whether `complete` finds a breaker for it. -/
structure ProviderEntry where
  isRegistered : Bool
  config : Option ProviderConfig
  retryPolicy : Option RetryPolicy
  circuitBreakerConfig : Option CircuitBreakerConfig
  hasCircuitBreaker : Bool

namespace RegisteredSession

/-- The service's breaker for the name. -/
def breaker (self : RegisteredSession) (name : String) : Option CircuitBreaker :=
  self.session.service.circuitBreakers name

/-- The entry of a name. -/
def entry (self : RegisteredSession) (name : String) : ProviderEntry where
  isRegistered := name ∈ self.session.service.registry.providers
  config := self.configs name
  retryPolicy := self.retryPolicies name
  circuitBreakerConfig := self.circuitBreakerConfigs name
  hasCircuitBreaker := (self.breaker name).isSome

end RegisteredSession

/-! ## What a call does -/

section
variable {α Response : Type} {name : String}

/-- A name that is inserted is added to those that there are, once. -/
theorem mem_insertName {name' : String} {names : List String} :
    name' ∈ insertName name names ↔ name' ∈ names ∨ name' = name := by
  unfold insertName
  split_ifs with h
  · exact ⟨.inl, fun hname => hname.elim id fun heq => heq ▸ h⟩
  · simp

/-- What is given for a name is its value, and a name for which nothing is given keeps what it has. -/
@[simp] theorem assignGiven_self (value : Option α) (values : String → Option α) :
    assignGiven name value values name = value.or (values name) := by
  cases value with
  | none => rfl
  | some value => exact Function.update_self name (some value) values

/-- Other names keep what they have. -/
theorem assignGiven_of_ne {name' : String} (h : name' ≠ name) (value : Option α)
    (values : String → Option α) : assignGiven name value values name' = values name' := by
  cases value with
  | none => rfl
  | some value => exact Function.update_of_ne h (some value) values

namespace ServiceCall
variable {self : RegisteredSession} {r : Registration}

/-- A registration writes the registry's maps. -/
theorem maps_register (Response : Type) (self : RegisteredSession) (r : Registration) :
    ((register r : ServiceCall Response).apply self).session.service.registry.providers =
      insertName r.providerName self.session.service.registry.providers ∧
    ((register r : ServiceCall Response).apply self).configs =
      Function.update self.configs r.providerName (some r.config) ∧
    ((register r : ServiceCall Response).apply self).retryPolicies =
      assignGiven r.providerName r.retryPolicy self.retryPolicies ∧
    ((register r : ServiceCall Response).apply self).circuitBreakerConfigs =
      assignGiven r.providerName r.circuitBreakerConfig self.circuitBreakerConfigs := by
  obtain ⟨providerName, config, retryPolicy, circuitBreakerConfig⟩ := r
  cases circuitBreakerConfig with
  | none => exact ⟨rfl, rfl, rfl, rfl⟩
  | some config =>
    simp only [apply, ProviderService.registerProvider, Method.on_bind, Method.on_modify,
      Method.on_ofExcept]
    cases CircuitBreaker.postInit { config, providerName } with
    | error e => exact ⟨rfl, rfl, rfl, rfl⟩
    | ok breaker => exact ⟨rfl, rfl, rfl, rfl⟩

/-- It creates a breaker if a configuration for one is given, and the provider has a name. -/
theorem breaker_register : ((register r : ServiceCall Response).apply self).breaker name =
    if name = r.providerName ∧ name ≠ "" then
      (r.circuitBreakerConfig.map fun config =>
        ({ config, providerName := r.providerName } : CircuitBreaker)).or (self.breaker name)
    else self.breaker name := by
  simp only [apply, ProviderService.registerProvider, Method.on_bind, Method.on_modify]
  cases r.circuitBreakerConfig with
  | none =>
    rw [Option.map_none, Option.none_or, ite_self]
    rfl
  | some config =>
    simp only [Method.on_bind, Method.on_ofExcept, CircuitBreaker.postInit]
    by_cases hempty : r.providerName = ""
    · rw [if_pos hempty, if_neg (by rintro ⟨rfl, hne⟩; exact hne hempty)]
      rfl
    · rw [if_neg hempty]
      by_cases hname : name = r.providerName
      · subst hname
        rw [if_pos ⟨rfl, hempty⟩]
        exact Function.update_self _ _ _
      · rw [if_neg (fun h => hname h.1)]
        exact Function.update_of_ne hname _ _

/-- A request finds and leaves a breaker for the same names. -/
theorem isSome_breaker_complete (call : CompletionCall Response) :
    (((complete call).apply self).breaker name).isSome = (self.breaker name).isSome := by
  have hkept : ProviderService.KeptByParts fun session =>
      (session.service.circuitBreakers name).isSome = (self.breaker name).isSome := by
    refine ⟨fun _ _ h => h, fun session provider f h => ?_, fun _ _ h => h⟩
    rw [← h, Bool.eq_iff_iff, Option.isSome_iff_ne_none, Option.isSome_iff_ne_none, not_iff_not]
    exact ProviderSession.circuitBreakers_withBreaker_eq_none f name
  exact hkept.complete call _ rfl

/-- A request leaves the registry as it is. -/
theorem maps_complete (call : CompletionCall Response) :
    ((complete call).apply self).session.service.registry = self.session.service.registry ∧
    ((complete call).apply self).configs = self.configs ∧
    ((complete call).apply self).retryPolicies = self.retryPolicies ∧
    ((complete call).apply self).circuitBreakerConfigs = self.circuitBreakerConfigs := by
  have hkept : ProviderService.KeptByParts fun session =>
      session.service.registry = self.session.service.registry :=
    ⟨fun _ _ h => h, fun _ _ _ h => h, fun _ _ h => h⟩
  exact ⟨hkept.complete call _ rfl, rfl, rfl, rfl⟩

/-- What a call gives for the name, if it registers it. -/
def given (value : Registration → Option α) (name : String) : ServiceCall Response → Option α
  | register r => if r.providerName = name then value r else none
  | complete _ => none

/-- The call registers the name. -/
def registers (name : String) : ServiceCall Response → Bool
  | register r => r.providerName = name
  | complete _ => false

/-- A call that does not register a name gives nothing for it. -/
theorem given_eq_none_of_not_registers {value : Registration → Option α} {a : ServiceCall Response}
    (h : a.registers name = false) : a.given value name = none := by
  cases a with
  | register r => exact if_neg (of_decide_eq_false h)
  | complete call => rfl

/-- One call on one of the maps that is written if a value is given. -/
theorem map_apply {value : Registration → Option α} {values : RegisteredSession → String → Option α}
    (hregister : ∀ r, values ((register r : ServiceCall Response).apply self) =
      assignGiven r.providerName (value r) (values self))
    (hcomplete : ∀ call, values ((complete call : ServiceCall Response).apply self) = values self)
    (a : ServiceCall Response) :
    values (a.apply self) name = (a.given value name).or (values self name) := by
  cases a with
  | complete call =>
    rw [hcomplete]
    rfl
  | register r =>
    rw [hregister, given]
    split_ifs with hname
    · subst hname
      exact assignGiven_self (value r) (values self)
    · exact assignGiven_of_ne (Ne.symm hname) (value r) (values self)

/-- A call replaces the retry policy of a name exactly if it gives one. -/
theorem retryPolicies_apply (a : ServiceCall Response) (self : RegisteredSession) :
    (a.apply self).retryPolicies name = (a.given (·.retryPolicy) name).or (self.retryPolicies name) :=
  map_apply (fun r => (maps_register Response self r).2.2.1) (fun call => (maps_complete call).2.2.1) a

/-- It replaces the configuration of the breaker on the same condition. -/
theorem circuitBreakerConfigs_apply (a : ServiceCall Response) (self : RegisteredSession) :
    (a.apply self).circuitBreakerConfigs name =
      (a.given (·.circuitBreakerConfig) name).or (self.circuitBreakerConfigs name) :=
  map_apply (fun r => (maps_register Response self r).2.2.2) (fun call => (maps_complete call).2.2.2) a

end ServiceCall

/-! ## What the service knows after any calls -/

/-- There is a breaker for a name exactly if the registry has a configuration for one. -/
def RegisteredSession.Matched (self : RegisteredSession) : Prop :=
  ∀ name, (self.breaker name).isSome = (name ≠ "" && (self.circuitBreakerConfigs name).isSome)

/-- A call keeps the registry and the registered providers the same. -/
theorem matched_apply {self : RegisteredSession} (h : self.Matched) (a : ServiceCall Response) :
    (a.apply self).Matched := by
  intro name
  cases a with
  | complete call =>
    rw [ServiceCall.isSome_breaker_complete, (ServiceCall.maps_complete call).2.2.2]
    exact h name
  | register r =>
    rw [ServiceCall.breaker_register, (ServiceCall.maps_register ..).2.2.2]
    by_cases hname : name = r.providerName
    · subst hname
      by_cases hempty : r.providerName = ""
      · rw [if_neg (fun hne => hne.2 hempty), h]
        simp [hempty]
      · rw [if_pos ⟨rfl, hempty⟩, assignGiven_self]
        cases r.circuitBreakerConfig with
        | none => exact h r.providerName
        | some config => simp [hempty]
    · rw [if_neg (fun heq => hname heq.1), assignGiven_of_ne hname]
      exact h name

/-- So they are the same after any sequence of calls. -/
theorem matched_after (fallbackConfig : FallbackConfig) (calls : List (ServiceCall Response)) :
    (after ServiceCall.apply (RegisteredSession.new fallbackConfig) calls).Matched := by
  refine after_induction (fun name => ?_) fun self a _ hself => matched_apply hself a
  exact (Bool.and_false _).symm

/-- Nothing was given for a name by calls that do not register it. -/
theorem getLast?_given_eq_none_iff {value : Registration → Option α} {calls : List (ServiceCall Response)} :
    (calls.filterMap (ServiceCall.given value name)).getLast? = none ↔
      ∀ r, .register r ∈ calls → r.providerName = name → value r = none := by
  rw [List.getLast?_eq_none_iff, List.filterMap_eq_nil_iff]
  constructor
  · intro h r hr hname
    have hnone := h _ hr
    rwa [ServiceCall.given, if_pos hname] at hnone
  · intro h a ha
    cases a with
    | complete call => rfl
    | register r =>
      simp only [ServiceCall.given]
      split_ifs with hname
      · exact h r ha hname
      · rfl

/-! ## Registering again -/

/-- After the registration its name's entry is as if it had never been registered before, and every other
name's is as it was. -/
def Replaces (fallbackConfig : FallbackConfig) (calls : List (ServiceCall Response)) (r : Registration) :
    Prop :=
  let start := RegisteredSession.new fallbackConfig
  let others := calls.filter fun a => !a.registers r.providerName
  (after ServiceCall.apply start (calls ++ [.register r])).entry r.providerName =
    (after ServiceCall.apply start (others ++ [.register r])).entry r.providerName ∧
  ∀ name, name ≠ r.providerName →
    (after ServiceCall.apply start (calls ++ [.register r])).entry name =
      (after ServiceCall.apply start calls).entry name ∧
    (after ServiceCall.apply start (calls ++ [.register r])).breaker name =
      (after ServiceCall.apply start calls).breaker name

/-- What the registration does not give was not given by an earlier registration of the name either. -/
structure LeavesNothing (calls : List (ServiceCall Response)) (r : Registration) : Prop where
  retryPolicy : r.retryPolicy = none →
    ∀ r', .register r' ∈ calls → r'.providerName = r.providerName → r'.retryPolicy = none
  circuitBreakerConfig : r.circuitBreakerConfig = none →
    ∀ r', .register r' ∈ calls → r'.providerName = r.providerName → r'.circuitBreakerConfig = none

/-- A registration does not affect the entry of another name. -/
theorem entry_register_of_ne {self : RegisteredSession} {r : Registration} (h : name ≠ r.providerName) :
    ((ServiceCall.register r : ServiceCall Response).apply self).entry name = self.entry name ∧
    ((ServiceCall.register r : ServiceCall Response).apply self).breaker name = self.breaker name := by
  have hbreaker : ((ServiceCall.register r : ServiceCall Response).apply self).breaker name =
      self.breaker name := by
    rw [ServiceCall.breaker_register, if_neg (fun heq => h heq.1)]
  obtain ⟨hproviders, hconfigs, hpolicies, hbreakers⟩ :=
    ServiceCall.maps_register Response self r
  refine ⟨?_, hbreaker⟩
  unfold RegisteredSession.entry
  rw [hproviders, hconfigs, hpolicies, hbreakers, hbreaker, assignGiven_of_ne h, assignGiven_of_ne h,
    Function.update_of_ne h]
  simp only [mem_insertName, h, or_false]

/-- The entry that a registration leaves for its name. -/
theorem entry_register_self {self : RegisteredSession} (hself : self.Matched) (r : Registration) :
    ((ServiceCall.register r : ServiceCall Response).apply self).entry r.providerName =
      { isRegistered := true
        config := some r.config
        retryPolicy := r.retryPolicy.or (self.retryPolicies r.providerName)
        circuitBreakerConfig := r.circuitBreakerConfig.or (self.circuitBreakerConfigs r.providerName)
        hasCircuitBreaker := r.providerName ≠ "" &&
          (r.circuitBreakerConfig.or (self.circuitBreakerConfigs r.providerName)).isSome } := by
  obtain ⟨hproviders, hconfigs, hpolicies, hbreakers⟩ :=
    ServiceCall.maps_register Response self r
  have hmatched := matched_apply hself (.register r : ServiceCall Response) r.providerName
  unfold RegisteredSession.entry
  rw [hmatched, hproviders, hconfigs, hpolicies, hbreakers, assignGiven_self, assignGiven_self,
    Function.update_self]
  simp only [mem_insertName, or_true, decide_true]

/-- **A registration replaces what was registered exactly if it leaves nothing of it.** `register_provider`
assigns a policy or a configuration only where one is given, so what an earlier registration gave stays. -/
theorem replaces_iff (fallbackConfig : FallbackConfig) (calls : List (ServiceCall Response))
    (r : Registration) : Replaces fallbackConfig calls r ↔ LeavesNothing calls r := by
  let start := RegisteredSession.new fallbackConfig
  let others := calls.filter fun a => !a.registers r.providerName
  have hpolicy (cs : List (ServiceCall Response)) :
      (after ServiceCall.apply start cs).retryPolicies r.providerName =
        (cs.filterMap (ServiceCall.given (·.retryPolicy) r.providerName)).getLast? :=
    (after_eq_latest (fun self => self.retryPolicies r.providerName) ServiceCall.retryPolicies_apply
      cs start).trans Option.or_none
  have hconfig (cs : List (ServiceCall Response)) :
      (after ServiceCall.apply start cs).circuitBreakerConfigs r.providerName =
        (cs.filterMap (ServiceCall.given (·.circuitBreakerConfig) r.providerName)).getLast? :=
    (after_eq_latest (fun self => self.circuitBreakerConfigs r.providerName)
      ServiceCall.circuitBreakerConfigs_apply cs start).trans Option.or_none
  have hothers {β : Type} (value : Registration → Option β) :
      (others.filterMap (ServiceCall.given value r.providerName)).getLast? = none := by
    rw [List.getLast?_eq_none_iff, List.filterMap_eq_nil_iff]
    intro a ha
    refine ServiceCall.given_eq_none_of_not_registers ?_
    simpa using (List.mem_filter.1 ha).2
  have hor {β : Type} (x y : Option β) : x.or y = x.or none ↔ (x = none → y = none) := by
    cases x <;> simp
  unfold Replaces
  simp only [after_append, after_cons, after_nil]
  rw [entry_register_self (matched_after fallbackConfig calls),
    entry_register_self (matched_after fallbackConfig others), hpolicy, hpolicy, hconfig, hconfig, hothers,
    hothers]
  constructor
  · rintro ⟨hentry, -⟩
    injection hentry with _ _ hretry hbreaker _
    refine ⟨fun hnone => getLast?_given_eq_none_iff.1 ((hor _ _).1 hretry hnone), fun hnone => ?_⟩
    exact getLast?_given_eq_none_iff.1 ((hor _ _).1 hbreaker hnone)
  · intro h
    have hretry := (hor r.retryPolicy _).2 fun hnone =>
      getLast?_given_eq_none_iff.2 (h.retryPolicy hnone)
    have hbreaker := (hor r.circuitBreakerConfig _).2 fun hnone =>
      getLast?_given_eq_none_iff.2 (h.circuitBreakerConfig hnone)
    refine ⟨by rw [hretry, hbreaker], fun name hname => entry_register_of_ne hname⟩

end

/-- OpenAI with a retry policy and a breaker. -/
def openAiResilient : Registration where
  providerName := "openai"
  config := openAiConfig
  retryPolicy := some {}
  circuitBreakerConfig := (CircuitBreakerConfig.ofValues 1 10 30 3).toOption

/-- OpenAI with another model, and with neither. -/
def openAiPlain : Registration where
  providerName := "openai"
  config := { openAiConfig with model := "gpt-4o-mini", model_ne := by decide }

/-- The second registration of a provider gives neither, and keeps the policy and the breaker of the first. -/
theorem not_replaces_openAi : ¬Replaces { primaryProvider := "openai" }
    [(.register openAiResilient : ServiceCall String)] openAiPlain := by
  intro h
  exact absurd (congrArg (fun entry => entry.hasCircuitBreaker) h.1) (by decide)

end AgentRuntime
