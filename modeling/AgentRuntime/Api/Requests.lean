import AgentRuntime.UseCases.RunSession

/-!
# Requests and what they leave behind

The endpoints of the agents and the runs router (`app/api/v1/agents/router.py`,
`app/api/v1/runs/router.py`), each served with a session of its own. `getDbSession` is the dependency
`get_db_session`, written twice in the source and once more as `get_session`: it rolls back on an
exception, closes the session at the end, and never commits. As no use case commits either, a request
leaves the database as it found it (`served_tables`), also when it returns: the writes of a request
are found by no later one. `durable_iff` says for which sequences of requests this is no loss: those in
which no request but the last makes a change. A request that only reads makes none
(`Request.makesNoChange_of_isRead`).
-/

namespace AgentRuntime

open Interaction Session

/-- The session of a request. -/
def getDbSession {α : Type} (handler : Method PyError (Session Tables) α) :
    Method PyError (Session Tables) α := do
  try
    handler
  catch e =>
    rollback
    throw e
  finally
    close

/-! ## Endpoints -/

/-- A request of one of the two routers. `rejected` is one that a validator or the authentication
refuses. -/
inductive Endpoint where
  | createAgent (name : String) (description : Option String)
  | listAgents (limit offset : Int)
  | getAgent (agentId : UUID)
  | updateAgent (agentId : UUID) (name description : Option String)
  | deleteAgent (agentId : UUID)
  | createAgentVersion (agentId : UUID) (version : Int) (systemPrompt : String) (modelPolicy : Dict)
      (memoryMode : String)
  | listAgentVersions (agentId : UUID)
  | getAgentVersion (agentId : UUID) (version : Int)
  | updateAgentVersion (agentId : UUID) (version : Int) (systemPrompt : Option String)
      (modelPolicy : Option Dict) (memoryMode : Option String)
  | publishAgentVersion (agentId : UUID) (version : Int)
  | createToolGrant (agentId : UUID) (version : Int) (toolName : String) (policy : Dict)
  | createRun (agentId : UUID) (inputData : Dict) (idempotencyKey : String)
      (maxSteps maxCostMicrounits : Int)
  | getRunStatus (runId : UUID)
  | cancelRun (runId : UUID) (reason : Option String)
  | rejected (error : PyError)

/-- What a handler returns. -/
inductive Response where
  | agent (agent : Agent)
  | agents (agents : List Agent)
  | agentVersion (version : AgentVersion)
  | agentVersions (versions : List AgentVersion)
  | run (run : Run)
  | runStatus (status : RunUseCases.RunStatus)
  | noContent
  deriving Repr

/-- A request: the endpoint with its parameters, the tenant it is authenticated for, what it draws,
what the access to a relationship that was not loaded does, and how the conversion of the handler's
result to the response ends. -/
structure Request where
  endpoint : Endpoint
  tenantId : UUID
  drawn : Drawn
  lazyLoad : Except PyError Unit := .ok ()
  converted : Except PyError Unit := .ok ()

/-- The result of a use case, or `NotFoundError`. -/
def orNotFound {α : Type} (message : String) (useCase : Method PyError (Session Tables) (Option α)) :
    Method PyError (Session Tables) α := do
  match ← useCase with
  | some a => return a
  | none => throw (.notFound message)

namespace Request

/-- The function of the router. -/
def endpointHandler (self : Request) : Method PyError (Session Tables) Response :=
  let agentNotFound (agentId : UUID) := s!"Agent {agentId.str} not found"
  let versionNotFound (agentId : UUID) (version : Int) :=
    s!"Agent version {version} not found for agent {agentId.str}"
  let runNotFound (runId : UUID) := s!"Run {runId.str} not found"
  match self.endpoint with
  | .createAgent name description =>
    .agent <$> AgentUseCases.createAgent self.lazyLoad self.drawn self.tenantId name description
  | .listAgents limit offset =>
    .agents <$> AgentUseCases.listAgents self.lazyLoad self.tenantId (min limit 100) offset
  | .getAgent agentId =>
    .agent <$> orNotFound (agentNotFound agentId) (AgentUseCases.getAgent agentId self.tenantId)
  | .updateAgent agentId name description =>
    .agent <$> orNotFound (agentNotFound agentId)
      (AgentUseCases.updateAgent self.lazyLoad self.drawn agentId self.tenantId name description)
  | .deleteAgent agentId => do
    let deleted ← AgentUseCases.deleteAgent self.drawn agentId self.tenantId
    if deleted = false then
      throw (.notFound (agentNotFound agentId))
    else
      return .noContent
  | .createAgentVersion agentId version systemPrompt modelPolicy memoryMode =>
    .agentVersion <$> AgentUseCases.createAgentVersion self.drawn agentId self.tenantId version
      systemPrompt modelPolicy memoryMode
  | .listAgentVersions agentId =>
    .agentVersions <$> AgentUseCases.listAgentVersions agentId self.tenantId
  | .getAgentVersion agentId version =>
    .agentVersion <$> orNotFound (versionNotFound agentId version)
      (AgentUseCases.getAgentVersion agentId self.tenantId version)
  | .updateAgentVersion agentId version systemPrompt modelPolicy memoryMode =>
    .agentVersion <$> orNotFound (versionNotFound agentId version)
      (AgentUseCases.updateAgentVersion self.drawn agentId self.tenantId version systemPrompt
        modelPolicy memoryMode)
  | .publishAgentVersion agentId version =>
    .agentVersion <$> orNotFound (versionNotFound agentId version)
      (AgentUseCases.publishAgentVersion self.lazyLoad self.drawn agentId self.tenantId version)
  | .createToolGrant agentId version toolName policy =>
    .agentVersion <$> AgentUseCases.addToolGrant self.lazyLoad agentId self.tenantId version toolName
      policy
  | .createRun agentId inputData idempotencyKey maxSteps maxCostMicrounits =>
    .run <$> RunUseCases.createRun self.lazyLoad self.drawn self.tenantId agentId inputData idempotencyKey maxSteps
      maxCostMicrounits
  | .getRunStatus runId =>
    .runStatus <$> orNotFound (runNotFound runId)
      (RunUseCases.getRunStatus self.lazyLoad self.drawn runId self.tenantId)
  | .cancelRun runId reason =>
    .run <$> orNotFound (runNotFound runId)
      (RunUseCases.ofService self.lazyLoad self.drawn (RunUseCases.cancelRun runId self.tenantId reason))
  | .rejected error => throw error

/-- The handler: the endpoint, and the conversion of its result. -/
def handler (self : Request) : Method PyError (Session Tables) Response := do
  let response ← self.endpointHandler
  Method.ofExcept self.converted
  return response

/-- Serve the request on a database: its response or exception, and the database afterwards. -/
def served (self : Request) (tables : Tables) : Except PyError Response × Tables :=
  let (result, session) := (getDbSession self.handler).on { committed := tables }
  (result, session.committed)

/-- What the request should leave behind: its writes, if it returns. -/
def acknowledged (self : Request) (tables : Tables) : Tables :=
  match self.handler.on { committed := tables } with
  | (.ok _, session) => session.view
  | (.error _, _) => tables

end Request

/-- Every request finds the writes of the earlier requests that returned, and no others. -/
def Durable (requests : List Request) (tables : Tables) : Prop :=
  seen (fun request tables => (request.served tables).2) tables requests =
    seen Request.acknowledged tables requests

/-! ## No request commits -/

/-- What a use case keeps, it keeps where nothing is found. -/
theorem keeps_orNotFound {α : Type} {I : Session Tables → Prop} {message : String}
    {useCase : Method PyError (Session Tables) (Option α)} (h : useCase.Keeps I) :
    (orNotFound message useCase).Keeps I := by
  refine Method.keeps_bind h fun a => ?_
  cases a with
  | none => exact Method.keeps_throw _
  | some a => exact Method.keeps_pure _

/-- No endpoint commits: what is committed is the same at its end, whether it returns or raises. -/
theorem Request.keepsCommitted_endpointHandler (request : Request) {d : Tables} :
    KeepsCommitted d request.endpointHandler := by
  obtain ⟨endpoint, tenantId, drawn, lazyLoad, converted⟩ := request
  cases endpoint with
  | createAgent name description =>
    exact Method.keeps_map (AgentUseCases.keepsCommitted_createAgent _ _ _ _ _)
  | listAgents limit offset => exact Method.keeps_map (keepsCommitted_inTransaction _)
  | getAgent agentId =>
    exact Method.keeps_map (keeps_orNotFound (AgentUseCases.keepsCommitted_getAgent _ _))
  | updateAgent agentId name description =>
    exact Method.keeps_map
      (keeps_orNotFound (AgentUseCases.keepsCommitted_updateAgent _ _ _ _ _ _))
  | deleteAgent agentId =>
    exact Method.keeps_bind (AgentUseCases.keepsCommitted_deleteAgent _ _ _) fun _ =>
      Method.keeps_ite (fun _ => Method.keeps_throw _) fun _ => Method.keeps_pure _
  | createAgentVersion agentId version systemPrompt modelPolicy memoryMode =>
    exact Method.keeps_map (AgentUseCases.keepsCommitted_createAgentVersion _ _ _ _ _ _ _)
  | listAgentVersions agentId =>
    exact Method.keeps_map (AgentUseCases.keepsCommitted_listAgentVersions _ _)
  | getAgentVersion agentId version =>
    exact Method.keeps_map
      (keeps_orNotFound (AgentUseCases.keepsCommitted_getAgentVersion _ _ _))
  | updateAgentVersion agentId version systemPrompt modelPolicy memoryMode =>
    exact Method.keeps_map
      (keeps_orNotFound (AgentUseCases.keepsCommitted_updateAgentVersion _ _ _ _ _ _ _))
  | publishAgentVersion agentId version =>
    exact Method.keeps_map
      (keeps_orNotFound (AgentUseCases.keepsCommitted_publishAgentVersion _ _ _ _ _))
  | createToolGrant agentId version toolName policy =>
    exact Method.keeps_map (AgentUseCases.keepsCommitted_addToolGrant _ _ _ _ _ _)
  | createRun agentId inputData idempotencyKey maxSteps maxCostMicrounits =>
    exact Method.keeps_map (RunUseCases.keepsCommitted_createRun _ _ _ _ _ _ _ _)
  | getRunStatus runId =>
    exact Method.keeps_map (keeps_orNotFound (RunUseCases.keepsCommitted_getRunStatus _ _ _ _))
  | cancelRun runId reason =>
    exact Method.keeps_map (keeps_orNotFound (RunUseCases.keepsCommitted_ofService _ _ _))
  | rejected error => exact Method.keeps_throw _

/-- The conversion of the result to a response commits nothing either. -/
theorem Request.keepsCommitted_handler (request : Request) {d : Tables} :
    KeepsCommitted d request.handler :=
  Method.keeps_bind request.keepsCommitted_endpointHandler fun _ =>
    Method.keeps_bind (Method.keeps_ofExcept _) fun _ => Method.keeps_pure _

/-- The session of a request leaves the committed data alone when its handler does. -/
theorem keepsCommitted_getDbSession {α : Type} {d : Tables}
    {handler : Method PyError (Session Tables) α} (h : KeepsCommitted d handler) :
    KeepsCommitted d (getDbSession handler) := by
  intro s hs
  have hhandler := h s hs
  rw [getDbSession, Method.on_tryFinally, Method.on_tryCatch]
  rcases hrun : handler.on s with ⟨e | a, s'⟩ <;> rw [hrun] at hhandler
  · simpa [rollback, close] using hhandler
  · simpa [rollback, close] using hhandler

/-- A request leaves the database as it found it. -/
theorem Request.served_tables (request : Request) (tables : Tables) :
    (request.served tables).2 = tables :=
  keepsCommitted_getDbSession request.keepsCommitted_handler { committed := tables } rfl

/-! ## Which sequences lose nothing -/

/-- The request raises, or makes no change. -/
def Request.MakesNoChange (request : Request) (tables : Tables) : Prop :=
  ∀ response session, request.handler.on { committed := tables } = (.ok response, session) →
    session.view = tables

/-- Nothing that the caller was told would have to be stored exactly if the request makes no change. -/
theorem Request.acknowledged_eq_iff {request : Request} {tables : Tables} :
    request.acknowledged tables = tables ↔ request.MakesNoChange tables := by
  unfold acknowledged MakesNoChange
  rcases request.handler.on { committed := tables } with ⟨e | response, session⟩
  · simp
  · simp

/-- The requests that send no statement but reads. -/
def Endpoint.isRead : Endpoint → Bool
  | listAgents _ _ | getAgent _ | createAgentVersion _ _ _ _ _ | listAgentVersions _
  | getAgentVersion _ _ | getRunStatus _ | rejected _ => true
  | _ => false

/-- An endpoint that only reads leaves the open transaction as it found it. -/
theorem Request.keepsView_endpointHandler {request : Request} {d : Tables}
    (h : request.endpoint.isRead = true) : KeepsView d request.endpointHandler := by
  obtain ⟨endpoint, tenantId, drawn, lazyLoad, converted⟩ := request
  cases endpoint with
  | listAgents limit offset =>
    exact Method.keeps_map (AgentUseCases.keepsView_listAgents _ _ _ _)
  | getAgent agentId =>
    exact Method.keeps_map (keeps_orNotFound (AgentUseCases.keepsView_getAgent _ _))
  | createAgentVersion agentId version systemPrompt modelPolicy memoryMode =>
    exact Method.keeps_map (AgentUseCases.keepsView_createAgentVersion _ _ _ _ _ _ _)
  | listAgentVersions agentId =>
    exact Method.keeps_map (AgentUseCases.keepsView_listAgentVersions _ _)
  | getAgentVersion agentId version =>
    exact Method.keeps_map (keeps_orNotFound (AgentUseCases.keepsView_getAgentVersion _ _ _))
  | getRunStatus runId =>
    exact Method.keeps_map (keeps_orNotFound (RunUseCases.keepsView_getRunStatus _ _ _ _))
  | rejected error => exact Method.keeps_throw _
  | _ => cases h

/-- A request that only reads makes no change. -/
theorem Request.makesNoChange_of_isRead {request : Request} (h : request.endpoint.isRead = true)
    (tables : Tables) : request.MakesNoChange tables := by
  have hkeeps : KeepsView tables request.handler :=
    Method.keeps_bind (request.keepsView_endpointHandler h) fun _ =>
      Method.keeps_bind (Method.keeps_ofExcept _) fun _ => Method.keeps_pure _
  intro response session hrun
  have hview := hkeeps { committed := tables } rfl
  rw [hrun] at hview
  exact hview

/-- The acknowledged writes of a sequence of requests are found by the later ones exactly when no
request but the last both returns and makes a change. -/
theorem durable_iff (requests : List Request) (tables : Tables) :
    Durable requests tables ↔ ∀ request ∈ requests.dropLast, request.MakesNoChange tables := by
  rw [Durable, seen_eq_seen_iff Request.served_tables]
  exact forall₂_congr fun _ _ => Request.acknowledged_eq_iff

/-- An agent that is stored. -/
def AgentRow.sample : AgentRow :=
  { id := ⟨1⟩, createdAt := 0, updatedAt := 0, tenantId := ⟨3⟩, name := "agent", description := none }

/-- Delete the agent. -/
def deleteRequest : Request := { endpoint := .deleteAgent ⟨1⟩, tenantId := ⟨3⟩, drawn := ⟨⟨2⟩, 0⟩ }

/-- Get the agent. -/
def getRequest : Request := { endpoint := .getAgent ⟨1⟩, tenantId := ⟨3⟩, drawn := ⟨⟨2⟩, 0⟩ }

/-- The deletion returns, and the agent is found afterwards: nothing was committed. -/
theorem deleted_agent_is_found :
    let tables : Tables := { agents := [AgentRow.sample] }
    (deleteRequest.served tables).1 matches .ok .noContent ∧
      (getRequest.served (deleteRequest.served tables).2).1 matches .ok (.agent _) ∧
      ¬ Durable [deleteRequest, getRequest] tables := by
  intro tables
  have hacknowledged : (deleteRequest.acknowledged tables).agents = [] := by decide
  refine ⟨by decide, by decide, fun hdurable => ?_⟩
  have hseen : tables = deleteRequest.acknowledged tables := by
    simpa [Durable, seen, Request.served_tables] using hdurable
  rw [← hseen] at hacknowledged
  cases hacknowledged

end AgentRuntime
