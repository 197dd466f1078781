import AgentRuntime.Domain.Policy
import AgentRuntime.Interaction.Method

/-!
# Agents and agent versions

The `Agent` aggregate and its versions (`app/domain/entities/agent.py`). As for runs, a method may
raise, and what it assigned before it raised stays assigned. A method that touches several objects
reads the clock for each of them; it is given one time for all.
-/

namespace AgentRuntime

open Interaction

/-- Agent version status. -/
inductive AgentStatus where
  | draft
  | published
  | archived
  deriving DecidableEq, Repr

namespace ToolGrant

/-- `ToolGrant(agent_version_id=…, tool_name=…, policy=policy)` for a policy that is a dictionary, as
the requests and the rows have it: `__post_init__` takes no policy that is not a `ToolPolicy`. -/
def ofDict (toolName : String) (_policy : Dict) : Except PyError ToolGrant :=
  if isBlank toolName then
    .error (.valueError "Tool name cannot be empty")
  else
    .error (.valueError "Policy must be a ToolPolicy instance")

/-- No dictionary is taken. -/
theorem ofDict_eq_error (toolName : String) (policy : Dict) :
    ∃ message, ofDict toolName policy = .error (.valueError message) := by
  unfold ofDict
  split <;> exact ⟨_, rfl⟩

end ToolGrant

/-! ## Versions -/

/-- Agent version entity (part of the `Agent` aggregate). -/
structure AgentVersion where
  id : UUID
  createdAt : Time
  updatedAt : Time
  agentId : UUID
  tenantId : UUID
  version : Int
  systemPrompt : String
  modelPolicy : Dict
  memoryMode : String
  status : AgentStatus := .draft
  toolGrants : List ToolGrant := []
  deriving Repr

namespace AgentVersion

/-- The default model policy. -/
def getDefaultModelPolicy : Dict :=
  [("provider", .str "fake"), ("model", .str "gpt-4o"), ("temperature", .float "0.7"),
    ("max_tokens", .int 4096)]

/-- `_validate_model_policy`: an empty policy becomes the default one. -/
def validateModelPolicy (self : AgentVersion) : Except PyError AgentVersion :=
  if self.modelPolicy.isEmpty then
    .ok { self with modelPolicy := getDefaultModelPolicy }
  else
    match ["provider", "model"].find? fun field => (self.modelPolicy.get? field).isNone with
    | some field => .error (.valueError s!"Model policy must contain '{field}' field")
    | none => .ok self

/-- `AgentVersion.__post_init__`. -/
def postInit (self : AgentVersion) : Except PyError AgentVersion :=
  if self.version ≤ 0 then
    .error (.valueError "Version must be positive")
  else if isBlank self.systemPrompt then
    .error (.valueError "System prompt cannot be empty")
  else if self.memoryMode = "" then
    .error (.valueError "Memory mode cannot be empty")
  else
    self.validateModelPolicy

/-- The conditions that the constructor checks. -/
structure Valid (v : AgentVersion) : Prop where
  version : 0 < v.version
  systemPrompt : isBlank v.systemPrompt = false
  memoryMode : v.memoryMode ≠ ""
  modelPolicy : v.modelPolicy.isEmpty = false →
    (v.modelPolicy.get? "provider").isSome = true ∧ (v.modelPolicy.get? "model").isSome = true

/-- The version as its constructor leaves it. -/
def withDefaultPolicy (self : AgentVersion) : AgentVersion :=
  if self.modelPolicy.isEmpty then { self with modelPolicy := getDefaultModelPolicy } else self

/-- A policy is accepted if it is empty, and replaced by the default then, or names a provider and a model. -/
theorem validateModelPolicy_eq_ok {self v : AgentVersion} :
    self.validateModelPolicy = .ok v ↔
      (self.modelPolicy.isEmpty = false → (self.modelPolicy.get? "provider").isSome = true ∧
        (self.modelPolicy.get? "model").isSome = true) ∧ v = self.withDefaultPolicy := by
  unfold validateModelPolicy withDefaultPolicy
  cases hempty : self.modelPolicy.isEmpty with
  | true =>
    simp only [if_true, Except.ok.injEq, Bool.true_eq_false, false_imp_iff, true_and]
    exact eq_comm
  | false =>
    rcases hprovider : self.modelPolicy.get? "provider" with _ | provider
    · simp [hprovider]
    · rcases hmodel : self.modelPolicy.get? "model" with _ | model
      · simp [hprovider, hmodel]
      · simp only [List.find?, hprovider, hmodel, Option.isNone_some, Option.isSome_some,
          Bool.false_eq_true, if_false, Except.ok.injEq, and_self, imp_self, true_and]
        exact eq_comm

/-- The constructor accepts the valid versions, and gives them the default policy where they have none. -/
theorem postInit_eq_ok {self v : AgentVersion} :
    self.postInit = .ok v ↔ self.Valid ∧ v = self.withDefaultPolicy := by
  unfold postInit
  split_ifs with hversion hprompt hmode
  · exact iff_of_false nofun fun h => by have := h.1.version; omega
  · exact iff_of_false nofun fun h => by rw [h.1.systemPrompt] at hprompt; cases hprompt
  · exact iff_of_false nofun fun h => h.1.memoryMode hmode
  · rw [validateModelPolicy_eq_ok]
    constructor
    · rintro ⟨hpolicy, rfl⟩
      exact ⟨⟨by omega, by simpa using hprompt, hmode, hpolicy⟩, rfl⟩
    · rintro ⟨hvalid, rfl⟩
      exact ⟨hvalid.modelPolicy, rfl⟩

/-- The constructor raises nothing but `ValueError`. -/
theorem postInit_error {self : AgentVersion} {e : PyError} (h : self.postInit = .error e) :
    ∃ message, e = .valueError message := by
  unfold postInit validateModelPolicy at h
  split_ifs at h
  · exact ⟨_, (Except.error.inj h).symm⟩
  · exact ⟨_, (Except.error.inj h).symm⟩
  · exact ⟨_, (Except.error.inj h).symm⟩
  · split at h
    · exact ⟨_, (Except.error.inj h).symm⟩
    · cases h

/-- The default policy leaves the number of a version. -/
@[simp] theorem withDefaultPolicy_version (self : AgentVersion) :
    self.withDefaultPolicy.version = self.version := by
  unfold withDefaultPolicy
  split <;> rfl

/-- It leaves the status. -/
@[simp] theorem withDefaultPolicy_status (self : AgentVersion) :
    self.withDefaultPolicy.status = self.status := by
  unfold withDefaultPolicy
  split <;> rfl

/-- Check if this version can be modified. -/
def isMutable (self : AgentVersion) : Bool := self.status = .draft

/-- What `update` does with its arguments, of which the policy may be refused where it is looked at. -/
def updateFields (systemPrompt : Option String) (modelPolicy : Except PyError (Option Dict))
    (memoryMode : Option String) (now : Time) : Method PyError AgentVersion Unit := do
  let self ← get
  if self.isMutable = false then
    throw (.valueError "Cannot modify published or archived version")
  if let some systemPrompt := systemPrompt then
    if isBlank systemPrompt then
      throw (.valueError "System prompt cannot be empty")
    modify fun self => { self with systemPrompt }
  if let some modelPolicy ← Method.ofExcept modelPolicy then
    modify fun self => { self with modelPolicy }
  if let some memoryMode := memoryMode then
    if memoryMode = "" then
      throw (.valueError "Memory mode cannot be empty")
    modify fun self => { self with memoryMode }
  modify fun self => { self with updatedAt := now }

/-- Update the draft version. -/
def update (systemPrompt : Option String) (modelPolicy : Option Dict) (memoryMode : Option String)
    (now : Time) : Method PyError AgentVersion Unit :=
  updateFields systemPrompt (.ok modelPolicy) memoryMode now

end AgentVersion

/-! ## Agents -/

/-- The domain events that an agent emits. -/
inductive AgentEvent where
  | agentVersionCreated (tenantId agentId : UUID) (version : Int) (systemPrompt : String)
      (modelPolicy : Dict) (memoryMode : String)
  | agentPublished (tenantId agentId : UUID) (version : Int)
  | agentDeleted (tenantId agentId : UUID)
  deriving Repr

/-- Agent aggregate root. -/
structure Agent where
  id : UUID
  createdAt : Time
  updatedAt : Time
  tenantId : UUID
  name : String
  description : Option String := none
  versions : List AgentVersion := []
  events : List AgentEvent := []
  deriving Repr

namespace Agent

/-- `Agent.__post_init__`. -/
def postInit (self : Agent) : Except PyError Agent :=
  if isBlank self.name then
    .error (.valueError "Agent name cannot be empty")
  else if 200 < self.name.length then
    .error (.valueError "Agent name too long (max 200 characters)")
  else
    .ok self

/-- The conditions that the constructor checks. -/
structure Valid (agent : Agent) : Prop where
  name : isBlank agent.name = false
  length : agent.name.length ≤ 200

/-- The constructor of an agent accepts the valid ones as they are. -/
theorem postInit_eq_ok {self agent : Agent} :
    self.postInit = .ok agent ↔ self.Valid ∧ agent = self := by
  unfold postInit
  split_ifs with hname hlength
  · exact iff_of_false nofun fun h => by rw [h.1.name] at hname; cases hname
  · exact iff_of_false nofun fun h => by have := h.1.length; omega
  · rw [Except.ok.injEq, eq_comm, and_iff_right ⟨by simpa using hname, by omega⟩]

/-- Update the `updated_at` timestamp. -/
def touch (now : Time) : Method PyError Agent Unit :=
  modify fun self => { self with updatedAt := now }

/-- Add a domain event to be published. -/
def addEvent (event : AgentEvent) : Method PyError Agent Unit :=
  modify fun self => { self with events := self.events ++ [event] }

/-- Get a specific version. -/
def getVersion (self : Agent) (version : Int) : Option AgentVersion :=
  self.versions.find? fun v => v.version = version

/-- Get the published version. -/
def getPublishedVersion (self : Agent) : Option AgentVersion :=
  self.versions.find? fun v => v.status = .published

/-- Create a new agent version; `versionId` and `now` are what its constructor draws. -/
def createVersion (version : Int) (systemPrompt : String) (modelPolicy : Dict) (memoryMode : String)
    (versionId : UUID) (now : Time) : Method PyError Agent AgentVersion := do
  if version ≤ 0 then
    throw (.valueError "Version must be positive")
  let self ← get
  if self.versions.any fun v => v.version = version then
    throw (.valueError s!"Version {version} already exists")
  if isBlank systemPrompt then
    throw (.valueError "System prompt cannot be empty")
  let agentVersion ← Method.ofExcept (AgentVersion.postInit
    { id := versionId, createdAt := now, updatedAt := now, agentId := self.id,
      tenantId := self.tenantId, version, systemPrompt, modelPolicy, memoryMode, status := .draft })
  modify fun self => { self with versions := self.versions ++ [agentVersion] }
  touch now
  addEvent (.agentVersionCreated self.tenantId self.id version systemPrompt modelPolicy memoryMode)
  return agentVersion

/-- What the constructor is given for a new version. -/
def newVersion (self : Agent) (version : Int) (systemPrompt : String) (modelPolicy : Dict)
    (memoryMode : String) (versionId : UUID) (now : Time) : AgentVersion :=
  { id := versionId, createdAt := now, updatedAt := now, agentId := self.id,
    tenantId := self.tenantId, version, systemPrompt, modelPolicy, memoryMode, status := .draft }

/-- A version is created exactly if its number is new and the constructor accepts it. -/
theorem createVersion_eq_ok {self : Agent} {version : Int} {systemPrompt : String}
    {modelPolicy : Dict} {memoryMode : String} {versionId : UUID} {now : Time} {v : AgentVersion} :
    ((createVersion version systemPrompt modelPolicy memoryMode versionId now).on self).1 = .ok v ↔
      (∀ w ∈ self.versions, w.version ≠ version) ∧
      (self.newVersion version systemPrompt modelPolicy memoryMode versionId now).Valid ∧
      v = (self.newVersion version systemPrompt modelPolicy memoryMode versionId
        now).withDefaultPolicy := by
  set new := self.newVersion version systemPrompt modelPolicy memoryMode versionId now with hnew
  have hpost : new.postInit = .ok v ↔ new.Valid ∧ v = new.withDefaultPolicy :=
    AgentVersion.postInit_eq_ok
  by_cases hversion : version ≤ 0
  · refine iff_of_false (by simp [createVersion, hversion]) fun h => ?_
    have hpositive : 0 < version := h.2.1.version
    omega
  cases htaken : self.versions.any fun w => w.version = version with
  | true =>
    refine iff_of_false ?_ fun h => ?_
    · simp only [createVersion, Method.on_bind, Method.on_get, hversion, if_false, htaken, if_true,
        Method.on_throw]
      exact nofun
    · obtain ⟨w, hw, hnumber⟩ := List.any_eq_true.1 htaken
      exact h.1 w hw (of_decide_eq_true hnumber)
  | false =>
    have hfresh : ∀ w ∈ self.versions, w.version ≠ version := by simpa using htaken
    rw [and_iff_right hfresh]
    cases hprompt : isBlank systemPrompt with
    | true =>
      refine iff_of_false ?_ fun h => ?_
      · simp only [createVersion, Method.on_bind, Method.on_get, hversion, if_false, htaken,
          Bool.false_eq_true, hprompt, if_true, Method.on_throw]
        exact nofun
      · have hnonblank : isBlank systemPrompt = false := h.1.systemPrompt
        rw [hprompt] at hnonblank
        cases hnonblank
    | false =>
      simp only [createVersion, Method.on_bind, Method.on_get, hversion, if_false, htaken,
        Bool.false_eq_true, hprompt, Method.on_ofExcept]
      generalize hresult : AgentVersion.postInit _ = result
      rw [← hpost, show new.postInit = result from hresult]
      cases result <;> rfl

/-- Publish a specific version; idempotent for the published one. Any other published version is
archived. -/
def publishVersion (version : Int) (now : Time) : Method PyError Agent AgentVersion := do
  let self ← get
  match self.getVersion version with
  | none => throw (.valueError s!"Version {version} not found")
  | some agentVersion =>
    if agentVersion.status = .published then
      return agentVersion
    let archived := self.versions.map fun v =>
      if v.status = .published then { v with status := .archived, updatedAt := now } else v
    let agentVersion := { agentVersion with status := .published, updatedAt := now }
    let position := self.versions.findIdx fun v => v.version = version
    modify fun self => { self with versions := archived.set position agentVersion }
    touch now
    addEvent (.agentPublished self.tenantId self.id version)
    return agentVersion

/-- Call a method of the version at position `i`. -/
def versionMethod (i : Nat) (m : Method PyError AgentVersion Unit) : Method PyError Agent Unit := do
  let self ← get
  match self.versions[i]? with
  | some agentVersion =>
    let (result, agentVersion) := m.on agentVersion
    set { self with versions := self.versions.set i agentVersion }
    Method.ofExcept result
  | none => return

/-- Soft delete the agent. -/
def softDelete (now : Time) : Method PyError Agent Unit := do
  touch now
  let self ← get
  addEvent (.agentDeleted self.tenantId self.id)

end Agent

end AgentRuntime
