import AgentRuntime.Db.RunRepository
import AgentRuntime.Domain.Agent

/-!
# The agent repository

`SQLAgentRepository` (`app/infrastructure/db/repositories/agent.py`) over the tables `agents`,
`agent_versions` and `tool_grants`, with the keys of the schema. A method is a `Method` on the tables
as the open transaction has them: an assignment to a row reaches them with the flush of `_add`,
`_update` or `_delete` (`app/infrastructure/db/repositories/base.py`), and no method ends the
transaction.

A row whose relationship was not loaded with it is decoded all the same: `lazyLoad` is what the
access to the relationship does. SQLAlchemy raises `MissingGreenlet` there unless it can load the
relationship on the spot.
-/

namespace AgentRuntime

open Interaction

/-- A row of `agents`. -/
structure AgentRow where
  id : UUID
  createdAt : Time
  updatedAt : Time
  tenantId : UUID
  name : String
  description : Option String
  deriving DecidableEq, Repr

/-- A row of `agent_versions`. -/
structure AgentVersionRow where
  id : UUID
  createdAt : Time
  updatedAt : Time
  agentId : UUID
  tenantId : UUID
  version : Int
  systemPrompt : String
  modelPolicy : Dict
  memoryMode : String
  status : AgentStatus
  deriving Repr

/-- The row with another status; `updated_at` is set when this is a change. -/
def AgentVersionRow.setStatus (self : AgentVersionRow) (status : AgentStatus) (now : Time) :
    AgentVersionRow :=
  if self.status = status then self else { self with status, updatedAt := now }

/-- A new status leaves the identifier of a version. -/
@[simp] theorem AgentVersionRow.setStatus_id (self : AgentVersionRow) (status : AgentStatus)
    (now : Time) : (self.setStatus status now).id = self.id := by
  unfold setStatus
  split <;> rfl

/-- It leaves the agent. -/
@[simp] theorem AgentVersionRow.setStatus_agentId (self : AgentVersionRow) (status : AgentStatus)
    (now : Time) : (self.setStatus status now).agentId = self.agentId := by
  unfold setStatus
  split <;> rfl

/-- A row of `tool_grants`. -/
structure ToolGrantRow where
  id : UUID
  agentVersionId : UUID
  toolName : String
  policy : Dict
  deriving Repr

/-- The tables that the requests work on. -/
structure Tables where
  agents : List AgentRow := []
  agentVersions : List AgentVersionRow := []
  toolGrants : List ToolGrantRow := []
  runTables : RunTables := {}
  deriving Repr

namespace Tables

/-- The row of an agent with this primary key. -/
def findAgent (self : Tables) (agentId : UUID) : Option AgentRow :=
  self.agents.find? fun row => row.id = agentId

/-- The rows of the versions of an agent. -/
def versionsOf (self : Tables) (agentId : UUID) : List AgentVersionRow :=
  self.agentVersions.filter fun row => row.agentId = agentId

/-- The rows of the published versions of an agent. -/
def publishedOf (self : Tables) (agentId : UUID) : List AgentVersionRow :=
  (self.versionsOf agentId).filter fun row => row.status = .published

/-- The rows of the grants of a version. -/
def grantsOf (self : Tables) (versionId : UUID) : List ToolGrantRow :=
  self.toolGrants.filter fun row => row.agentVersionId = versionId

/-- The published versions of an agent are its rows with that status. -/
theorem mem_publishedOf {tables : Tables} {agentId : UUID} {row : AgentVersionRow} :
    row ∈ tables.publishedOf agentId ↔
      row ∈ tables.agentVersions ∧ row.agentId = agentId ∧ row.status = .published := by
  simp only [publishedOf, versionsOf, List.mem_filter, decide_eq_true_eq, and_assoc]

/-- At most one version of an agent is published, or several are. -/
theorem publishedOf_cases (tables : Tables) (agentId : UUID) :
    (∃ current : Option AgentVersionRow, tables.publishedOf agentId = current.toList) ∨
      1 < (tables.publishedOf agentId).length := by
  rcases tables.publishedOf agentId with _ | ⟨row, _ | ⟨row', rows⟩⟩
  · exact .inl ⟨none, rfl⟩
  · exact .inl ⟨some row, rfl⟩
  · exact .inr (by simp)

/-- Send the statements about runs. -/
def onRuns {α : Type} (m : Method PyError RunTables α) : Method PyError Tables α := do
  let self ← get
  let (result, runTables) := m.on self.runTables
  set { self with runTables }
  Method.ofExcept result

/-- A method that only reads the tables of the runs leaves all tables alone. -/
theorem keeps_onRuns {d : Tables} {α : Type} {m : Method PyError RunTables α}
    (h : ∀ runTables, (m.on runTables).2 = runTables) :
    (onRuns m).Keeps fun tables => tables = d := by
  rintro tables rfl
  simp [onRuns, h]

end Tables

namespace AgentRepository

/-- `_version_to_entity`, with the grants of the version. -/
def versionToEntity (tables : Tables) (row : AgentVersionRow) : Except PyError AgentVersion := do
  let version ← AgentVersion.postInit
    { id := row.id, createdAt := row.createdAt, updatedAt := row.updatedAt, agentId := row.agentId,
      tenantId := row.tenantId, version := row.version, systemPrompt := row.systemPrompt,
      modelPolicy := row.modelPolicy, memoryMode := row.memoryMode, status := row.status }
  let toolGrants ← (tables.grantsOf row.id).mapM fun grant =>
    ToolGrant.ofDict grant.toolName grant.policy
  return { version with toolGrants }

/-- `_to_entity`, with the versions of the agent. -/
def toEntity (tables : Tables) (row : AgentRow) : Except PyError Agent := do
  let agent ← Agent.postInit
    { id := row.id, createdAt := row.createdAt, updatedAt := row.updatedAt, tenantId := row.tenantId,
      name := row.name, description := row.description }
  let versions ← (tables.versionsOf row.id).mapM (versionToEntity tables)
  return { agent with versions }

/-- `_to_model`. -/
def toModel (entity : Agent) : AgentRow :=
  { id := entity.id, createdAt := entity.createdAt, updatedAt := entity.updatedAt,
    tenantId := entity.tenantId, name := entity.name, description := entity.description }

/-- A flush that would store two rows with one key raises. -/
def integrityError {α : Type} : Method PyError Tables α := throw (.external "IntegrityError")

variable (lazyLoad : Except PyError Unit)

/-- Insert the row of a new agent. -/
def create (agent : Agent) : Method PyError Tables Agent := do
  let model := toModel agent
  let tables ← get
  if tables.agents.any fun row => row.id = model.id ∨
      row.tenantId = model.tenantId ∧ row.name = model.name then
    integrityError
  else
    modify fun tables => { tables with agents := tables.agents ++ [model] }
    Method.ofExcept lazyLoad
    let tables ← get
    Method.ofExcept (toEntity tables model)

/-- Load an agent with its versions. -/
def get (agentId : UUID) : Method PyError Tables (Option Agent) := do
  let tables ← MonadState.get
  match tables.findAgent agentId with
  | none => return none
  | some model => some <$> Method.ofExcept (toEntity tables model)

/-- Load the agent of a tenant by its name. -/
def getByName (tenantId : UUID) (name : String) : Method PyError Tables (Option Agent) := do
  let tables ← MonadState.get
  match tables.agents.find? fun row => row.tenantId = tenantId ∧ row.name = name with
  | none => return none
  | some model => some <$> Method.ofExcept (toEntity tables model)

/-- Overwrite the metadata of an agent. -/
def update (agent : Agent) : Method PyError Tables Agent := do
  let tables ← MonadState.get
  match tables.findAgent agent.id with
  | none => throw (.valueError s!"Agent {agent.id.str} not found")
  | some model =>
    let model := { model with
      name := agent.name, description := agent.description, updatedAt := agent.updatedAt }
    if tables.agents.any fun row => row.id ≠ model.id ∧ row.tenantId = model.tenantId ∧
        row.name = model.name then
      integrityError
    else
      modify fun tables => { tables with
        agents := tables.agents.map fun row => if row.id = model.id then model else row }
      Method.ofExcept lazyLoad
      let tables ← MonadState.get
      Method.ofExcept (toEntity tables model)

/-- List the agents of a tenant. Their versions are loaded with them, the grants of these are not. -/
def list (tenantId : UUID) (limit offset : Int) : Method PyError Tables (List Agent) := do
  if limit < 0 ∨ offset < 0 then
    throw (.external "DBAPIError")
  let tables ← MonadState.get
  let rows := (tables.agents.filter fun row => row.tenantId = tenantId).drop offset.toNat
  let rows := rows.take limit.toNat
  if rows.any fun row => (tables.versionsOf row.id).isEmpty = false then
    Method.ofExcept lazyLoad
  Method.ofExcept (rows.mapM (toEntity tables))

/-- Delete the row of an agent, with its versions and their grants; a run keeps its version. -/
def softDelete (agentId : UUID) : Method PyError Tables Bool := do
  let tables ← MonadState.get
  match tables.findAgent agentId with
  | none => return false
  | some _ =>
    let versionIds := (tables.versionsOf agentId).map AgentVersionRow.id
    if tables.runTables.runs.any fun run => versionIds.contains run.agentVersionId then
      integrityError
    else
      modify fun tables => { tables with
        agents := tables.agents.filter fun row => row.id ≠ agentId
        agentVersions := tables.agentVersions.filter fun row => row.agentId ≠ agentId
        toolGrants := tables.toolGrants.filter fun row => !versionIds.contains row.agentVersionId }
      return true

/-- `_add` of the rows of grants, whose policies are not JSON data. -/
def addGrants (grants : List ToolGrant) : Method PyError Tables Unit :=
  if grants.isEmpty then
    return
  else
    throw (.external "StatementError")

/-- Insert the row of a version, then those of its grants. -/
def addVersion (version : AgentVersion) : Method PyError Tables AgentVersion := do
  let model : AgentVersionRow :=
    { id := version.id, createdAt := version.createdAt, updatedAt := version.updatedAt,
      agentId := version.agentId, tenantId := version.tenantId, version := version.version,
      systemPrompt := version.systemPrompt, modelPolicy := version.modelPolicy,
      memoryMode := version.memoryMode, status := version.status }
  let tables ← MonadState.get
  if tables.agentVersions.any fun row => row.id = model.id ∨
      row.agentId = model.agentId ∧ row.version = model.version then
    integrityError
  else
    modify fun tables => { tables with agentVersions := tables.agentVersions ++ [model] }
    addGrants version.toolGrants
    Method.ofExcept lazyLoad
    let tables ← MonadState.get
    Method.ofExcept (versionToEntity tables model)

/-- Load a version by its number. -/
def getVersion (agentId : UUID) (version : Int) : Method PyError Tables (Option AgentVersion) := do
  let tables ← MonadState.get
  match (tables.versionsOf agentId).find? fun row => row.version = version with
  | none => return none
  | some model => some <$> Method.ofExcept (versionToEntity tables model)

/-- Load the published version of an agent. -/
def getPublishedVersion (agentId : UUID) : Method PyError Tables (Option AgentVersion) := do
  let tables ← MonadState.get
  match (tables.versionsOf agentId).filter fun row => row.status = .published with
  | [] => return none
  | [model] => some <$> Method.ofExcept (versionToEntity tables model)
  | _ => throw (.external "MultipleResultsFound")

/-- Overwrite a version. The flush also sends the policies of its grants. -/
def updateVersion (version : AgentVersion) : Method PyError Tables AgentVersion := do
  let tables ← MonadState.get
  match tables.agentVersions.find? fun row => row.id = version.id with
  | none => throw (.valueError s!"Agent version {version.id.str} not found")
  | some model =>
    addGrants version.toolGrants
    let model := { model with
      systemPrompt := version.systemPrompt, modelPolicy := version.modelPolicy,
      memoryMode := version.memoryMode, status := version.status, updatedAt := version.updatedAt }
    modify fun tables => { tables with
      agentVersions := tables.agentVersions.map fun row => if row.id = model.id then model else row }
    let tables ← MonadState.get
    Method.ofExcept (versionToEntity tables model)

/-- Archive the published version and publish another. The flush sets `updated_at` of the rows whose
status has changed. -/
def publishVersion (agentId : UUID) (version : Int) (now : Time) :
    Method PyError Tables AgentVersion := do
  let tables ← MonadState.get
  let published := (tables.versionsOf agentId).filter fun row => row.status = .published
  if 1 < published.length then
    throw (.external "MultipleResultsFound")
  match (tables.versionsOf agentId).find? fun row => row.version = version with
  | none => throw (.valueError s!"Version {version} not found for agent {agentId.str}")
  | some model =>
    let setStatus (status : AgentStatus) (row : AgentVersionRow) : AgentVersionRow :=
      if row.status = status then row else { row with status, updatedAt := now }
    let model := setStatus .published model
    modify fun tables => { tables with
      agentVersions := tables.agentVersions.map fun row =>
        if row.id = model.id then model
        else if published.any fun current => current.id = row.id then setStatus .archived row
        else row }
    Method.ofExcept lazyLoad
    let tables ← MonadState.get
    Method.ofExcept (versionToEntity tables model)

/-- List the versions of an agent by number. -/
def listVersions (agentId : UUID) : Method PyError Tables (List AgentVersion) := do
  let tables ← MonadState.get
  let rows := (tables.versionsOf agentId).insertionSort fun a b => a.version ≤ b.version
  Method.ofExcept (rows.mapM (versionToEntity tables))

/-! ## Decoding -/

/-- What the constructor is given for a row of `agent_versions`. -/
def versionEntity (row : AgentVersionRow) : AgentVersion :=
  { id := row.id, createdAt := row.createdAt, updatedAt := row.updatedAt, agentId := row.agentId,
    tenantId := row.tenantId, version := row.version, systemPrompt := row.systemPrompt,
    modelPolicy := row.modelPolicy, memoryMode := row.memoryMode, status := row.status }

/-- What the constructor is given for a row of `agents`. -/
def agentEntity (row : AgentRow) : Agent :=
  { id := row.id, createdAt := row.createdAt, updatedAt := row.updatedAt, tenantId := row.tenantId,
    name := row.name, description := row.description }

/-- No grant is decoded: a stored policy is a dictionary. -/
theorem ofDict_mapM_eq_ok {rows : List ToolGrantRow} {grants : List ToolGrant} :
    (rows.mapM fun grant => ToolGrant.ofDict grant.toolName grant.policy) = .ok grants ↔
      rows = [] ∧ grants = [] := by
  cases rows with
  | nil => simp [pure, Except.pure, eq_comm]
  | cons row rows =>
    obtain ⟨message, hmessage⟩ := ToolGrant.ofDict_eq_error row.toolName row.policy
    simp [List.mapM_cons, hmessage, bind, Except.bind]

/-- A version is decoded exactly if its constructor accepts the row and no grants are stored. -/
theorem versionToEntity_eq_ok {tables : Tables} {row : AgentVersionRow} {v : AgentVersion} :
    versionToEntity tables row = .ok v ↔ (versionEntity row).Valid ∧ tables.grantsOf row.id = [] ∧
      v = (versionEntity row).withDefaultPolicy := by
  have hnone : { (versionEntity row).withDefaultPolicy with toolGrants := [] } =
      (versionEntity row).withDefaultPolicy := by
    unfold AgentVersion.withDefaultPolicy
    split <;> rfl
  unfold versionToEntity
  rw [bind_eq_ok]
  constructor
  · rintro ⟨version, hversion, hrest⟩
    obtain ⟨toolGrants, htoolGrants, hv⟩ := bind_eq_ok.1 hrest
    obtain ⟨hvalid, rfl⟩ := AgentVersion.postInit_eq_ok.1 hversion
    obtain ⟨hrows, rfl⟩ := ofDict_mapM_eq_ok.1 htoolGrants
    exact ⟨hvalid, hrows, (Except.ok.inj hv).symm.trans hnone⟩
  · rintro ⟨hvalid, hrows, rfl⟩
    refine ⟨_, AgentVersion.postInit_eq_ok.2 ⟨hvalid, rfl⟩, bind_eq_ok.2 ⟨[], ?_, ?_⟩⟩
    · exact ofDict_mapM_eq_ok.2 ⟨hrows, rfl⟩
    · exact congrArg Except.ok hnone

/-- Decoding a version raises nothing but `ValueError`. -/
theorem versionToEntity_error {tables : Tables} {row : AgentVersionRow} {e : PyError}
    (h : versionToEntity tables row = .error e) : ∃ message, e = .valueError message := by
  unfold versionToEntity at h
  rcases bind_eq_error.1 h with hversion | ⟨version, -, hrest⟩
  · exact AgentVersion.postInit_error hversion
  · rcases bind_eq_error.1 hrest with hgrants | ⟨toolGrants, -, hreturn⟩
    · cases hrows : tables.grantsOf row.id with
      | nil => simp [hrows, pure, Except.pure] at hgrants
      | cons grant grants =>
        obtain ⟨message, hmessage⟩ := ToolGrant.ofDict_eq_error grant.toolName grant.policy
        refine ⟨message, ?_⟩
        simpa [hrows, List.mapM_cons, hmessage, bind, Except.bind, eq_comm] using hgrants
    · cases hreturn

/-- The agent that a row is decoded to, with its versions. -/
def loadedAgent (tables : Tables) (row : AgentRow) : Agent :=
  { agentEntity row with
    versions := (tables.versionsOf row.id).map fun version =>
      (versionEntity version).withDefaultPolicy }

/-- The row of an agent is decoded exactly if its name is acceptable and all its versions are
decoded. -/
theorem toEntity_eq_ok {tables : Tables} {row : AgentRow} {agent : Agent} :
    toEntity tables row = .ok agent ↔ (agentEntity row).Valid ∧
      (∀ version ∈ tables.versionsOf row.id,
        (versionEntity version).Valid ∧ tables.grantsOf version.id = []) ∧
      agent = loadedAgent tables row := by
  have hversion (version : AgentVersionRow) (v : AgentVersion) :
      versionToEntity tables version = .ok v ↔
        ((versionEntity version).Valid ∧ tables.grantsOf version.id = []) ∧
          v = (versionEntity version).withDefaultPolicy := by
    rw [versionToEntity_eq_ok, and_assoc]
  unfold toEntity
  rw [bind_eq_ok]
  constructor
  · rintro ⟨agent', hagent', hrest⟩
    obtain ⟨versions, hversions, hagent⟩ := bind_eq_ok.1 hrest
    obtain ⟨hvalid, rfl⟩ := Agent.postInit_eq_ok.1 hagent'
    obtain ⟨hrows, rfl⟩ := (mapM_eq_ok hversion).1 hversions
    exact ⟨hvalid, hrows, (Except.ok.inj hagent).symm⟩
  · rintro ⟨hvalid, hrows, rfl⟩
    refine ⟨_, Agent.postInit_eq_ok.2 ⟨hvalid, rfl⟩, bind_eq_ok.2 ⟨_, ?_, rfl⟩⟩
    exact (mapM_eq_ok hversion).2 ⟨hrows, rfl⟩

/-- What `get` returns: the agent that its row is decoded to, or nothing. It changes no table. -/
theorem get_on (agentId : UUID) (tables : Tables) :
    (get agentId).on tables = (match tables.findAgent agentId with
      | none => .ok none
      | some row => (toEntity tables row).map some, tables) := by
  simp only [get, Method.on_bind, Method.on_get]
  cases tables.findAgent agentId with
  | none => rfl
  | some row => simp

/-! ## Publishing -/

/-- `publishVersion` in one piece. -/
theorem publishVersion_on (agentId : UUID) (version : Int) (now : Time) (tables : Tables) :
    (publishVersion lazyLoad agentId version now).on tables =
      if 1 < (tables.publishedOf agentId).length then
        (.error (.external "MultipleResultsFound"), tables)
      else match (tables.versionsOf agentId).find? fun row => row.version = version with
        | none =>
          (.error (.valueError s!"Version {version} not found for agent {agentId.str}"), tables)
        | some model =>
          let tables' : Tables :=
            { tables with
              agentVersions := tables.agentVersions.map fun row =>
                if row.id = model.id then model.setStatus .published now
                else if (tables.publishedOf agentId).any fun current => current.id = row.id then
                  row.setStatus .archived now
                else row }
          (lazyLoad >>= fun _ =>
            versionToEntity tables' (model.setStatus .published now), tables') := by
  rw [publishVersion, Method.on_bind, Method.on_get]
  dsimp only
  rw [Method.on_ite]
  unfold Tables.publishedOf
  split_ifs with hmany
  · rfl
  · cases (tables.versionsOf agentId).find? fun row => row.version = version with
    | none => rfl
    | some model =>
      have hset : (if model.status = .published then model
          else { model with status := .published, updatedAt := now }) =
            model.setStatus .published now := rfl
      simp only [hset, AgentVersionRow.setStatus_id]
      cases lazyLoad with
      | error e => rfl
      | ok _ =>
        simp only [Method.on_bind, Method.on_modify, Method.on_ofExcept, Method.on_get]
        rfl

/-! ## Reads -/

section
variable {d : Tables}

/-- Loading an agent changes nothing. -/
theorem keeps_get (agentId : UUID) : (get agentId).Keeps fun tables => tables = d := by
  refine Method.keeps_get_bind fun tables _ => ?_
  split
  · exact Method.keeps_pure _
  · exact Method.keeps_map (Method.keeps_ofExcept _)

/-- Listing agents changes nothing. -/
theorem keeps_list (tenantId : UUID) (limit offset : Int) :
    (list lazyLoad tenantId limit offset).Keeps fun tables => tables = d := by
  refine Method.keeps_ite (fun _ => Method.keeps_throw _) fun _ => ?_
  refine Method.keeps_get_bind fun tables _ => Method.keeps_ite (fun _ => ?_) fun _ => ?_
  · exact Method.keeps_bind (Method.keeps_ofExcept _) fun _ => Method.keeps_ofExcept _
  · exact Method.keeps_ofExcept _

/-- Loading a version changes nothing. -/
theorem keeps_getVersion (agentId : UUID) (version : Int) :
    (getVersion agentId version).Keeps fun tables => tables = d := by
  refine Method.keeps_get_bind fun tables _ => ?_
  split
  · exact Method.keeps_pure _
  · exact Method.keeps_map (Method.keeps_ofExcept _)

/-- Listing versions changes nothing. -/
theorem keeps_listVersions (agentId : UUID) :
    (listVersions agentId).Keeps fun tables => tables = d :=
  Method.keeps_get_bind fun _ _ => Method.keeps_ofExcept _

end

end AgentRepository

end AgentRuntime
