import AgentRuntime.Db.AgentRepository
import AgentRuntime.Interaction.Transaction

/-!
# The agent use cases

`AgentUseCases` (`app/application/use_cases/agent.py`), over the session of a request: each call of
the repository is a sequence of statements in the session's transaction. None of them commits.
-/

namespace AgentRuntime

open Interaction Session

/-- What the constructors of entities and the clock give to a request. -/
structure Drawn where
  id : UUID
  now : Time

namespace AgentUseCases

variable (lazyLoad : Except PyError Unit) (drawn : Drawn)

/-- Create a new agent. -/
def createAgent (tenantId : UUID) (name : String) (description : Option String) :
    Method PyError (Session Tables) Agent := do
  let existing ← inTransaction (AgentRepository.getByName tenantId name)
  if existing.isSome then
    throw (.valueError s!"Agent with name '{name}' already exists")
  let agent ← Method.ofExcept (Agent.postInit
    { id := drawn.id, createdAt := drawn.now, updatedAt := drawn.now, tenantId, name, description })
  inTransaction (AgentRepository.create lazyLoad agent)

/-- Get agent by ID with tenant check. -/
def getAgent (agentId tenantId : UUID) : Method PyError (Session Tables) (Option Agent) := do
  let agent ← inTransaction (AgentRepository.get agentId)
  return agent.filter fun agent => agent.tenantId = tenantId

/-- List agents for tenant. -/
def listAgents (tenantId : UUID) (limit offset : Int) :
    Method PyError (Session Tables) (List Agent) :=
  inTransaction (AgentRepository.list lazyLoad tenantId limit offset)

/-- The part of `update_agent` under `if name is not None`: check name uniqueness and rename. -/
def renameAgent (agentId tenantId : UUID) (agent : Agent) :
    Option String → Method PyError (Session Tables) Agent
  | none => return agent
  | some name => do
    let existing ← inTransaction (AgentRepository.getByName tenantId name)
    if existing.any fun existing => existing.id ≠ agentId then
      throw (.valueError s!"Agent with name '{name}' already exists")
    else
      return { agent with name }

/-- Update agent metadata. -/
def updateAgent (agentId tenantId : UUID) (name description : Option String) :
    Method PyError (Session Tables) (Option Agent) := do
  match ← getAgent agentId tenantId with
  | none => return none
  | some agent =>
    let agent ← renameAgent agentId tenantId agent name
    some <$> inTransaction (AgentRepository.update lazyLoad
      { agent with description := description <|> agent.description, updatedAt := drawn.now })

/-- Soft delete agent. -/
def deleteAgent (agentId tenantId : UUID) : Method PyError (Session Tables) Bool := do
  match ← getAgent agentId tenantId with
  | none => return false
  | some agent =>
    let (result, _) := (Agent.softDelete drawn.now).on agent
    Method.ofExcept result
    inTransaction (AgentRepository.softDelete agentId)

/-- Create a new agent version. The version stays in the loaded agent. -/
def createAgentVersion (agentId tenantId : UUID) (version : Int) (systemPrompt : String)
    (modelPolicy : Dict) (memoryMode : String) : Method PyError (Session Tables) AgentVersion := do
  match ← getAgent agentId tenantId with
  | none => throw (.valueError "Agent not found")
  | some agent =>
    let existing ← inTransaction (AgentRepository.getVersion agentId version)
    if existing.isSome then
      throw (.valueError s!"Version {version} already exists")
    let (result, _) :=
      (Agent.createVersion version systemPrompt modelPolicy memoryMode drawn.id drawn.now).on agent
    Method.ofExcept result

/-- Get specific agent version. -/
def getAgentVersion (agentId tenantId : UUID) (version : Int) :
    Method PyError (Session Tables) (Option AgentVersion) := do
  let agent ← getAgent agentId tenantId
  return agent.bind fun agent => agent.getVersion version

/-- List all versions for an agent. -/
def listAgentVersions (agentId tenantId : UUID) :
    Method PyError (Session Tables) (List AgentVersion) := do
  match ← getAgent agentId tenantId with
  | none => return []
  | some _ => inTransaction (AgentRepository.listVersions agentId)

/-- Update a draft agent version. -/
def updateAgentVersion (agentId tenantId : UUID) (version : Int) (systemPrompt : Option String)
    (modelPolicy : Option Dict) (memoryMode : Option String) :
    Method PyError (Session Tables) (Option AgentVersion) := do
  match ← getAgentVersion agentId tenantId version with
  | none => return none
  | some agentVersion =>
    let (result, agentVersion) :=
      (AgentVersion.update systemPrompt modelPolicy memoryMode drawn.now).on agentVersion
    Method.ofExcept result
    some <$> inTransaction (AgentRepository.updateVersion agentVersion)

/-- Publish an agent version. -/
def publishAgentVersion (agentId tenantId : UUID) (version : Int) :
    Method PyError (Session Tables) (Option AgentVersion) := do
  match ← getAgent agentId tenantId with
  | none => return none
  | some agent =>
    let (result, _) := (Agent.publishVersion version drawn.now).on agent
    let published ← Method.ofExcept result
    let _ ← inTransaction (AgentRepository.publishVersion lazyLoad agentId version drawn.now)
    return some published

/-- Add a tool grant to an agent version. -/
def addToolGrant (agentId tenantId : UUID) (version : Int) (toolName : String) (policy : Dict) :
    Method PyError (Session Tables) AgentVersion := do
  match ← getAgent agentId tenantId with
  | none => throw (.valueError "Agent not found")
  | some agent =>
    match agent.getVersion version with
    | none => throw (.valueError s!"Version {version} not found")
    | some agentVersion =>
      if agentVersion.isMutable = false then
        throw (.valueError "Cannot modify published or archived version")
      else
        let grant ← Method.ofExcept (ToolGrant.ofDict toolName policy)
        inTransaction (AgentRepository.addVersion lazyLoad
          { agentVersion with toolGrants := agentVersion.toolGrants ++ [grant] })

/-! ## Loading the agent -/

/-- The row of an agent that `get_agent` loads for a tenant: its name and its versions are acceptable
to the constructors, and no grants are stored for these. -/
structure Loads (tables : Tables) (agentId tenantId : UUID) (row : AgentRow) : Prop where
  find : tables.findAgent agentId = some row
  tenantId : row.tenantId = tenantId
  agent : (AgentRepository.agentEntity row).Valid
  versions : ∀ version ∈ tables.versionsOf agentId,
    (AgentRepository.versionEntity version).Valid ∧ tables.grantsOf version.id = []

/-- An agent is returned exactly if its row is found, is of the tenant and can be decoded. The transaction
that was opened has written nothing. -/
theorem getAgent_eq_some {agentId tenantId : UUID} {s s' : Session Tables} {agent : Agent} :
    (getAgent agentId tenantId).on s = (.ok (some agent), s') ↔
      ∃ row, Loads s.view agentId tenantId row ∧ agent = AgentRepository.loadedAgent s.view row ∧
        s' = { s with transaction := some s.view } := by
  simp only [getAgent, Method.on_bind, on_inTransaction, AgentRepository.get_on]
  cases hfind : s.view.findAgent agentId with
  | none =>
    refine iff_of_false (by simp) ?_
    rintro ⟨row, hrow, -⟩
    rw [hrow.find] at hfind
    cases hfind
  | some row =>
    have hid : row.id = agentId := by simpa using List.find?_some hfind
    dsimp only
    cases hentity : AgentRepository.toEntity s.view row with
    | error e =>
      refine iff_of_false (by simp [Except.map]) ?_
      rintro ⟨row', hrow, -⟩
      obtain rfl : row' = row := by simpa [hrow.find] using hfind
      have hok := AgentRepository.toEntity_eq_ok.2 ⟨hrow.agent, hid ▸ hrow.versions, rfl⟩
      rw [hok] at hentity
      cases hentity
    | ok agent' =>
      obtain ⟨hagent, hversions, rfl⟩ := AgentRepository.toEntity_eq_ok.1 hentity
      simp only [Except.map, Method.on_pure, Prod.mk.injEq, Except.ok.injEq, Option.filter_eq_some_iff,
        Option.some.injEq, decide_eq_true_eq]
      constructor
      · rintro ⟨⟨rfl, htenant⟩, rfl⟩
        exact ⟨row, ⟨hfind, htenant, hagent, hid ▸ hversions⟩, rfl, rfl⟩
      · rintro ⟨row', hrow, rfl, rfl⟩
        obtain rfl : row' = row := by simpa [hrow.find] using hfind
        exact ⟨⟨rfl, hrow.tenantId⟩, rfl⟩

/-! ## No use case commits -/

variable {d : Tables}

/-- Getting an agent commits nothing. -/
theorem keepsCommitted_getAgent (agentId tenantId : UUID) :
    KeepsCommitted d (getAgent agentId tenantId) :=
  Method.keeps_bind (keepsCommitted_inTransaction _) fun _ => Method.keeps_pure _

/-- A use case that loads an agent and works on it. -/
theorem keepsCommitted_onAgent {α : Type} {agentId tenantId : UUID}
    {onAgent : Option Agent → Method PyError (Session Tables) α}
    (hnone : KeepsCommitted d (onAgent none)) (hsome : ∀ agent, KeepsCommitted d (onAgent (some agent))) :
    KeepsCommitted d (getAgent agentId tenantId >>= onAgent) := by
  refine Method.keeps_bind (keepsCommitted_getAgent agentId tenantId) fun agent => ?_
  cases agent with
  | none => exact hnone
  | some agent => exact hsome agent

/-- Creating one commits nothing. -/
theorem keepsCommitted_createAgent (tenantId : UUID) (name : String) (description : Option String) :
    KeepsCommitted d (createAgent lazyLoad drawn tenantId name description) := by
  refine Method.keeps_bind (keepsCommitted_inTransaction _) fun existing => ?_
  refine Method.keeps_ite (fun _ => Method.keeps_throw _) fun _ => ?_
  exact Method.keeps_bind (Method.keeps_ofExcept _) fun _ => keepsCommitted_inTransaction _

/-- Giving it a new name commits nothing. -/
theorem keepsCommitted_renameAgent (agentId tenantId : UUID) (agent : Agent) (name : Option String) :
    KeepsCommitted d (renameAgent agentId tenantId agent name) := by
  cases name with
  | none => exact Method.keeps_pure _
  | some name =>
    refine Method.keeps_bind (keepsCommitted_inTransaction _) fun existing => ?_
    exact Method.keeps_ite (fun _ => Method.keeps_throw _) fun _ => Method.keeps_pure _

/-- Updating it commits nothing. -/
theorem keepsCommitted_updateAgent (agentId tenantId : UUID) (name description : Option String) :
    KeepsCommitted d (updateAgent lazyLoad drawn agentId tenantId name description) := by
  refine keepsCommitted_onAgent (Method.keeps_pure _) fun agent => ?_
  refine Method.keeps_bind (keepsCommitted_renameAgent agentId tenantId agent name) fun _ => ?_
  exact Method.keeps_map (keepsCommitted_inTransaction _)

/-- Deleting it commits nothing. -/
theorem keepsCommitted_deleteAgent (agentId tenantId : UUID) :
    KeepsCommitted d (deleteAgent drawn agentId tenantId) :=
  keepsCommitted_onAgent (Method.keeps_pure _) fun _ =>
    Method.keeps_bind (Method.keeps_ofExcept _) fun _ => keepsCommitted_inTransaction _

/-- Creating a version commits nothing. -/
theorem keepsCommitted_createAgentVersion (agentId tenantId : UUID) (version : Int)
    (systemPrompt : String) (modelPolicy : Dict) (memoryMode : String) :
    KeepsCommitted d (createAgentVersion drawn agentId tenantId version systemPrompt modelPolicy
      memoryMode) := by
  refine keepsCommitted_onAgent (Method.keeps_throw _) fun agent => ?_
  refine Method.keeps_bind (keepsCommitted_inTransaction _) fun existing => ?_
  exact Method.keeps_ite (fun _ => Method.keeps_throw _) fun _ => Method.keeps_ofExcept _

/-- Getting one commits nothing. -/
theorem keepsCommitted_getAgentVersion (agentId tenantId : UUID) (version : Int) :
    KeepsCommitted d (getAgentVersion agentId tenantId version) :=
  Method.keeps_bind (keepsCommitted_getAgent agentId tenantId) fun _ => Method.keeps_pure _

/-- Listing them commits nothing. -/
theorem keepsCommitted_listAgentVersions (agentId tenantId : UUID) :
    KeepsCommitted d (listAgentVersions agentId tenantId) :=
  keepsCommitted_onAgent (Method.keeps_pure _) fun _ => keepsCommitted_inTransaction _

/-- Updating one commits nothing. -/
theorem keepsCommitted_updateAgentVersion (agentId tenantId : UUID) (version : Int)
    (systemPrompt : Option String) (modelPolicy : Option Dict) (memoryMode : Option String) :
    KeepsCommitted d (updateAgentVersion drawn agentId tenantId version systemPrompt modelPolicy
      memoryMode) := by
  refine Method.keeps_bind (keepsCommitted_getAgentVersion agentId tenantId version)
    fun agentVersion => ?_
  cases agentVersion with
  | none => exact Method.keeps_pure _
  | some agentVersion =>
    exact Method.keeps_bind (Method.keeps_ofExcept _) fun _ =>
      Method.keeps_map (keepsCommitted_inTransaction _)

/-- Publishing one commits nothing. -/
theorem keepsCommitted_publishAgentVersion (agentId tenantId : UUID) (version : Int) :
    KeepsCommitted d (publishAgentVersion lazyLoad drawn agentId tenantId version) := by
  refine keepsCommitted_onAgent (Method.keeps_pure _) fun agent => ?_
  refine Method.keeps_bind (Method.keeps_ofExcept _) fun published => ?_
  exact Method.keeps_bind (keepsCommitted_inTransaction _) fun _ => Method.keeps_pure _

/-- Granting a tool commits nothing. -/
theorem keepsCommitted_addToolGrant (agentId tenantId : UUID) (version : Int) (toolName : String)
    (policy : Dict) :
    KeepsCommitted d (addToolGrant lazyLoad agentId tenantId version toolName policy) := by
  refine keepsCommitted_onAgent (Method.keeps_throw _) fun agent => ?_
  dsimp only
  split
  · exact Method.keeps_throw _
  · refine Method.keeps_ite (fun _ => Method.keeps_throw _) fun _ => ?_
    exact Method.keeps_bind (Method.keeps_ofExcept _) fun _ => keepsCommitted_inTransaction _

/-! ## Use cases that write nothing -/

/-- Getting an agent leaves the tables as the session sees them. -/
theorem keepsView_getAgent (agentId tenantId : UUID) : KeepsView d (getAgent agentId tenantId) :=
  Method.keeps_bind (keepsView_inTransaction (AgentRepository.keeps_get agentId)) fun _ =>
    Method.keeps_pure _

/-- So does listing agents. -/
theorem keepsView_listAgents (tenantId : UUID) (limit offset : Int) :
    KeepsView d (listAgents lazyLoad tenantId limit offset) :=
  keepsView_inTransaction (AgentRepository.keeps_list lazyLoad tenantId limit offset)

/-- A version that is created is not stored. -/
theorem keepsView_createAgentVersion (agentId tenantId : UUID) (version : Int)
    (systemPrompt : String) (modelPolicy : Dict) (memoryMode : String) :
    KeepsView d (createAgentVersion drawn agentId tenantId version systemPrompt modelPolicy
      memoryMode) := by
  refine Method.keeps_bind (keepsView_getAgent agentId tenantId) fun agent => ?_
  cases agent with
  | none => exact Method.keeps_throw _
  | some agent =>
    refine Method.keeps_bind
      (keepsView_inTransaction (AgentRepository.keeps_getVersion agentId version)) fun existing => ?_
    exact Method.keeps_ite (fun _ => Method.keeps_throw _) fun _ => Method.keeps_ofExcept _

/-- So does getting a version. -/
theorem keepsView_getAgentVersion (agentId tenantId : UUID) (version : Int) :
    KeepsView d (getAgentVersion agentId tenantId version) :=
  Method.keeps_bind (keepsView_getAgent agentId tenantId) fun _ => Method.keeps_pure _

/-- So does listing versions. -/
theorem keepsView_listAgentVersions (agentId tenantId : UUID) :
    KeepsView d (listAgentVersions agentId tenantId) := by
  refine Method.keeps_bind (keepsView_getAgent agentId tenantId) fun agent => ?_
  cases agent with
  | none => exact Method.keeps_pure _
  | some agent => exact keepsView_inTransaction (AgentRepository.keeps_listVersions agentId)

end AgentUseCases

end AgentRuntime
