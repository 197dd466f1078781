import AgentRuntime.Interaction.History
import AgentRuntime.UseCases.Agent

/-!
# Reading the versions that were written

A client calls the use cases on the versions of one agent, one after the other, and commits or rolls
back between them as it likes (`VersionCall`). A version that `create_agent_version` returns stays in
the agent that was loaded for the call, which is dropped: the next `get_agent_version` does not find
it, nor does a grant for it. So what is written is read exactly in the sequences in which every
`create_agent_version` is refused (`readsWrites_iff`).
-/

namespace AgentRuntime

open Interaction Session

namespace AgentUseCases

/-- A call of the use cases on the versions of an agent, or what a client does with the session
between two of them. -/
inductive VersionOperation where
  | createAgentVersion (version : Int) (systemPrompt : String) (modelPolicy : Dict)
      (memoryMode : String)
  | updateAgent (name description : Option String)
  | updateAgentVersion (version : Int) (systemPrompt : Option String) (modelPolicy : Option Dict)
      (memoryMode : Option String)
  | publishAgentVersion (version : Int)
  | addToolGrant (version : Int) (toolName : String) (policy : Dict)
  | commit
  | rollback

/-- An operation, with what it draws and what the access to a relationship that was not loaded
does. -/
structure VersionCall where
  op : VersionOperation
  drawn : Drawn
  lazyLoad : Except PyError Unit := .ok ()

variable (agentId tenantId : UUID)

/-- The call, with the version that it returns. -/
def VersionCall.method (call : VersionCall) :
    Method PyError (Session Tables) (Option AgentVersion) :=
  match call.op with
  | .createAgentVersion version systemPrompt modelPolicy memoryMode =>
    some <$> createAgentVersion call.drawn agentId tenantId version systemPrompt modelPolicy
      memoryMode
  | .updateAgent name description =>
    (fun _ => none) <$> updateAgent call.lazyLoad call.drawn agentId tenantId name description
  | .updateAgentVersion version systemPrompt modelPolicy memoryMode =>
    updateAgentVersion call.drawn agentId tenantId version systemPrompt modelPolicy memoryMode
  | .publishAgentVersion version =>
    publishAgentVersion call.lazyLoad call.drawn agentId tenantId version
  | .addToolGrant version toolName policy =>
    some <$> addToolGrant call.lazyLoad agentId tenantId version toolName policy
  | .commit => (fun _ => none) <$> commit
  | .rollback => (fun _ => none) <$> rollback

/-- The client's session, and the numbers of the versions that its calls have created, which are
committed and rolled back with the rest. -/
structure VersionClient where
  session : Session Tables
  created : Session (List Int) := { committed := [] }

/-- What a returned call adds to the numbers. -/
def VersionCall.recorded (call : VersionCall) : Method PyError (Session (List Int)) Unit :=
  match call.op with
  | .createAgentVersion version _ _ _ => inTransaction (modify fun numbers => version :: numbers)
  | .commit => commit
  | .rollback => rollback
  | _ => pure ()

/-- The client after the call. -/
def VersionCall.apply (call : VersionCall) (client : VersionClient) : VersionClient :=
  let (result, session) := (call.method agentId tenantId).on client.session
  match result with
  | .ok _ => { session, created := (call.recorded.on client.created).2 }
  | .error _ => { client with session }

/-- The number of the version that the call writes to, if it is one that writes a version or a
grant. -/
def VersionCall.written (call : VersionCall) : Option Int :=
  match call.op with
  | .createAgentVersion version _ _ _ => some version
  | .addToolGrant version _ _ => some version
  | _ => none

/-- What is written of a version. -/
structure SameWritten (v w : AgentVersion) : Prop where
  version : w.version = v.version
  systemPrompt : w.systemPrompt = v.systemPrompt
  modelPolicy : w.modelPolicy = v.modelPolicy
  memoryMode : w.memoryMode = v.memoryMode
  toolGrants : w.toolGrants = v.toolGrants

/-- What `create_agent_version` hands to the constructor. -/
def requestedVersion (drawn : Drawn) (version : Int) (systemPrompt : String) (modelPolicy : Dict)
    (memoryMode : String) : AgentVersion :=
  { id := drawn.id, createdAt := drawn.now, updatedAt := drawn.now, agentId, tenantId, version,
    systemPrompt, modelPolicy, memoryMode }

/-- The tables admit the creation of a version: its agent is loaded, its number is fresh and its
content acceptable. -/
structure Admits (tables : Tables) (requested : AgentVersion) : Prop where
  agent : ∃ row, Loads tables requested.agentId requested.tenantId row
  fresh : ∀ row ∈ tables.versionsOf requested.agentId, row.version ≠ requested.version
  valid : requested.Valid

/-- A legal call: a version with a fresh number, or a grant for a draft that was created. -/
def VersionCall.Legal (client : VersionClient) (call : VersionCall) : Prop :=
  match call.op with
  | .createAgentVersion version systemPrompt modelPolicy memoryMode =>
    version ∉ client.created.view ∧ Admits client.session.view
      (requestedVersion agentId tenantId call.drawn version systemPrompt modelPolicy memoryMode)
  | .addToolGrant version toolName _ => version ∈ client.created.view ∧ isBlank toolName = false
  | _ => False

/-- What is written by the call can be read, and a legal call returns. -/
structure ReadsWrites (client : VersionClient) (call : VersionCall) : Prop where
  read : ∀ version returned session', call.written = some version →
    (call.method agentId tenantId).on client.session = (.ok (some returned), session') →
    ∃ loaded, ((getAgentVersion agentId tenantId version).on session').1 = .ok (some loaded) ∧
      SameWritten returned loaded
  legal : call.Legal agentId tenantId client → ∃ returned session',
    (call.method agentId tenantId).on client.session = (.ok returned, session')

/-- The call is a `create_agent_version` that the tables admit. -/
def VersionCall.Creates (client : VersionClient) (call : VersionCall) : Prop :=
  match call.op with
  | .createAgentVersion version systemPrompt modelPolicy memoryMode => Admits client.session.view
      (requestedVersion agentId tenantId call.drawn version systemPrompt modelPolicy memoryMode)
  | _ => False

/-! ## What the use cases do -/

section
variable {agentId tenantId}

/-- A version that is returned has a row. -/
theorem getAgentVersion_eq_some {version : Int} {s : Session Tables} {v : AgentVersion}
    (h : ((getAgentVersion agentId tenantId version).on s).1 = .ok (some v)) :
    ∃ row ∈ s.view.versionsOf agentId, row.version = version := by
  rcases hon : (getAgentVersion agentId tenantId version).on s with ⟨result, s'⟩
  rw [hon] at h
  obtain rfl : result = .ok (some v) := h
  obtain ⟨agent, s₁, hagent, hversion⟩ := Method.on_bind_eq_ok.1 hon
  cases agent with
  | none => simp at hversion
  | some agent =>
    obtain ⟨row, hrow, rfl, rfl⟩ := getAgent_eq_some.1 hagent
    have hfound : (AgentRepository.loadedAgent s.view row).getVersion version = some v := by
      simpa using congrArg Prod.fst hversion
    have hid : row.id = agentId := by simpa using List.find?_some hrow.find
    obtain ⟨stored, hstored, rfl⟩ := List.mem_map.1 (List.mem_of_find?_eq_some hfound)
    refine ⟨stored, hid ▸ hstored, ?_⟩
    simpa [AgentRepository.versionEntity] using List.find?_some hfound

/-- A loaded agent hands to the constructor what was requested. -/
theorem newVersion_loadedAgent {tables : Tables} {row : AgentRow}
    (hrow : Loads tables agentId tenantId row) (drawn : Drawn) (version : Int) (systemPrompt : String)
    (modelPolicy : Dict) (memoryMode : String) :
    (AgentRepository.loadedAgent tables row).newVersion version systemPrompt modelPolicy memoryMode
      drawn.id drawn.now =
    requestedVersion agentId tenantId drawn version systemPrompt modelPolicy memoryMode := by
  have hid : row.id = agentId := by simpa using List.find?_some hrow.find
  subst hid
  rw [requestedVersion, ← hrow.tenantId]
  rfl

/-- The numbers of a loaded agent are those of its rows. -/
theorem fresh_loadedAgent {tables : Tables} {row : AgentRow}
    (hrow : Loads tables agentId tenantId row) (version : Int) :
    (∀ v ∈ (AgentRepository.loadedAgent tables row).versions, v.version ≠ version) ↔
      ∀ stored ∈ tables.versionsOf agentId, stored.version ≠ version := by
  have hid : row.id = agentId := by simpa using List.find?_some hrow.find
  subst hid
  simp [AgentRepository.loadedAgent, AgentRepository.versionEntity]

/-- A version is created exactly if the tables admit it. -/
theorem createAgentVersion_eq_ok {drawn : Drawn} {version : Int} {systemPrompt : String}
    {modelPolicy : Dict} {memoryMode : String} {s : Session Tables} :
    (∃ v s', (createAgentVersion drawn agentId tenantId version systemPrompt modelPolicy
      memoryMode).on s = (.ok v, s')) ↔
    Admits s.view (requestedVersion agentId tenantId drawn version systemPrompt modelPolicy
      memoryMode) := by
  constructor
  · rintro ⟨v, s', h⟩
    obtain ⟨agent, s₁, hagent, hrest⟩ := Method.on_bind_eq_ok.1 h
    cases agent with
    | none => simp at hrest
    | some agent =>
      obtain ⟨row, hrow, rfl, -⟩ := getAgent_eq_some.1 hagent
      obtain ⟨existing, s₂, -, hcreate⟩ := Method.on_bind_eq_ok.1 hrest
      rw [Method.on_ite] at hcreate
      split at hcreate
      · simp at hcreate
      · rw [Method.on_ofExcept, Prod.mk.injEq] at hcreate
        obtain ⟨hfresh, hvalid, -⟩ := Agent.createVersion_eq_ok.1 hcreate.1
        rw [newVersion_loadedAgent hrow] at hvalid
        exact ⟨⟨row, hrow⟩, (fresh_loadedAgent hrow version).1 hfresh, hvalid⟩
  · rintro ⟨⟨row, hrow⟩, hfresh, hvalid⟩
    replace hrow : Loads s.view agentId tenantId row := hrow
    have hagent := getAgent_eq_some.2 ⟨row, hrow, rfl, rfl⟩
    have hnone : ((s.view.versionsOf agentId).find? fun row => row.version = version) = none :=
      List.find?_eq_none.2 fun row hmem hnumber => hfresh row hmem (of_decide_eq_true hnumber)
    have hnew := newVersion_loadedAgent hrow drawn version systemPrompt modelPolicy memoryMode
    obtain ⟨v, hcreate⟩ : ∃ v, ((Agent.createVersion version systemPrompt modelPolicy memoryMode
        drawn.id drawn.now).on (AgentRepository.loadedAgent s.view row)).1 = .ok v :=
      ⟨_, Agent.createVersion_eq_ok.2
        ⟨(fresh_loadedAgent hrow version).2 hfresh, hnew.symm ▸ hvalid, rfl⟩⟩
    have hexisting : (inTransaction (AgentRepository.getVersion agentId version)).on
        { s with transaction := some s.view } =
          (.ok none, { s with transaction := some s.view }) := by
      simp [AgentRepository.getVersion, hnone]
    refine ⟨v, { s with transaction := some s.view }, ?_⟩
    refine Method.on_bind_eq_ok.2 ⟨_, _, hagent, Method.on_bind_eq_ok.2 ⟨_, _, hexisting, ?_⟩⟩
    rw [Method.on_ite, if_neg (by simp), Method.on_ofExcept, hcreate]

/-- A grant is refused: its policy is a dictionary. -/
theorem addToolGrant_ne_ok {lazyLoad : Except PyError Unit} {version : Int} {toolName : String}
    {policy : Dict} {s s' : Session Tables} {v : AgentVersion} :
    (addToolGrant lazyLoad agentId tenantId version toolName policy).on s ≠ (.ok v, s') := by
  intro h
  obtain ⟨agent, s₁, -, hgrant⟩ := Method.on_bind_eq_ok.1 h
  cases agent with
  | none => simp at hgrant
  | some agent =>
    dsimp only at hgrant
    split at hgrant
    · simp at hgrant
    · rw [Method.on_ite] at hgrant
      split at hgrant
      · simp at hgrant
      · obtain ⟨grant, s₂, hof, -⟩ := Method.on_bind_eq_ok.1 hgrant
        have hok : ToolGrant.ofDict toolName policy = .ok grant := by
          simpa using congrArg Prod.fst hof
        unfold ToolGrant.ofDict at hok
        split at hok <;> cases hok

end

/-! ## Sequences of calls -/

variable {agentId tenantId}

/-- No version has been created. -/
structure NoneCreated (client : VersionClient) : Prop where
  committed : client.created.committed = []
  view : client.created.view = []

/-- Only a creation that the tables admit records a version. -/
theorem NoneCreated.apply {client : VersionClient} (h : NoneCreated client) {call : VersionCall}
    (hcall : ¬call.Creates agentId tenantId client) :
    NoneCreated (call.apply agentId tenantId client) := by
  rcases hon : (call.method agentId tenantId).on client.session with ⟨e | v, session'⟩
  · rw [VersionCall.apply, hon]
    exact ⟨h.committed, h.view⟩
  · rw [VersionCall.apply, hon]
    obtain ⟨op, drawn, lazyLoad⟩ := call
    cases op with
    | createAgentVersion version systemPrompt modelPolicy memoryMode =>
      rw [VersionCall.method, Method.on_map, Prod.mk.injEq] at hon
      obtain ⟨w, hw, -⟩ := map_eq_ok.1 hon.1
      exact absurd (createAgentVersion_eq_ok.1 ⟨w, _, Prod.ext hw rfl⟩) hcall
    | commit => exact ⟨h.view, h.view⟩
    | rollback => exact ⟨h.committed, h.committed⟩
    | updateAgent _ _ => exact ⟨h.committed, h.view⟩
    | updateAgentVersion _ _ _ _ => exact ⟨h.committed, h.view⟩
    | publishAgentVersion _ => exact ⟨h.committed, h.view⟩
    | addToolGrant _ _ _ => exact ⟨h.committed, h.view⟩

/-- A version that is created is not read: the tables, which had none of its number, are as they
were. -/
theorem not_read_of_creates {client : VersionClient} {call : VersionCall}
    (hcall : call.Creates agentId tenantId client) : ¬ReadsWrites agentId tenantId client call := by
  intro h
  obtain ⟨op, drawn, lazyLoad⟩ := call
  cases op with
  | createAgentVersion version systemPrompt modelPolicy memoryMode =>
    obtain ⟨v, session', hon⟩ := createAgentVersion_eq_ok.2 hcall
    have hview : session'.view = client.session.view := by
      have hkeeps := keepsView_createAgentVersion drawn agentId tenantId version systemPrompt
        modelPolicy memoryMode client.session rfl
      rwa [hon] at hkeeps
    obtain ⟨loaded, hloaded, -⟩ := h.read version v session' rfl (by
      rw [VersionCall.method, Method.on_map, hon]
      rfl)
    obtain ⟨row, hrow, hnumber⟩ := getAgentVersion_eq_some hloaded
    rw [hview] at hrow
    exact hcall.fresh row hrow hnumber
  | _ => exact hcall

/-- As long as no version has been created, what a call writes is read exactly if it creates none. -/
theorem readsWrites_iff_not_creates {client : VersionClient} (hclient : NoneCreated client)
    (call : VersionCall) :
    ReadsWrites agentId tenantId client call ↔ ¬call.Creates agentId tenantId client := by
  refine ⟨fun h hcall => not_read_of_creates hcall h, fun hcall => ⟨?_, ?_⟩⟩
  · intro version returned session' hwritten hon
    obtain ⟨op, drawn, lazyLoad⟩ := call
    cases op with
    | createAgentVersion number systemPrompt modelPolicy memoryMode =>
      rw [VersionCall.method, Method.on_map, Prod.mk.injEq] at hon
      obtain ⟨w, hw, -⟩ := map_eq_ok.1 hon.1
      exact absurd (createAgentVersion_eq_ok.1 ⟨w, _, Prod.ext hw rfl⟩) hcall
    | addToolGrant number toolName policy =>
      rw [VersionCall.method, Method.on_map, Prod.mk.injEq] at hon
      obtain ⟨w, hw, -⟩ := map_eq_ok.1 hon.1
      exact (addToolGrant_ne_ok (Prod.ext hw rfl)).elim
    | _ => cases hwritten
  · intro hlegal
    obtain ⟨op, drawn, lazyLoad⟩ := call
    cases op with
    | createAgentVersion number systemPrompt modelPolicy memoryMode => exact absurd hlegal.2 hcall
    | addToolGrant number toolName policy =>
      have hcreated : number ∈ client.created.view := hlegal.1
      rw [hclient.view] at hcreated
      cases hcreated
    | _ => exact absurd hlegal id

/-- What is written is read, and every legal call returns, along exactly those sequences of calls in
which every `create_agent_version` is refused. -/
theorem readsWrites_iff (agentId tenantId : UUID) (session : Session Tables)
    (calls : List VersionCall) :
    Along (VersionCall.apply agentId tenantId) (ReadsWrites agentId tenantId) { session } calls ↔
      Along (VersionCall.apply agentId tenantId)
        (fun client call => ¬call.Creates agentId tenantId client) { session } calls := by
  refine along_iff (I := NoneCreated) ⟨rfl, rfl⟩ ?_ ?_
  · intro client call _ hclient
    exact readsWrites_iff_not_creates hclient call
  · intro client call _ hclient hreads
    exact hclient.apply ((readsWrites_iff_not_creates hclient call).1 hreads)

/-- An agent without versions, the only row of the database. -/
def newAgentRow : AgentRow :=
  { id := ⟨1⟩, createdAt := 0, updatedAt := 0, tenantId := ⟨3⟩, name := "a", description := none }

/-- Its first version is created and not read: `create_agent_version` returns what it has made and
stores nothing. -/
theorem not_readsWrites :
    ¬∀ (agentId tenantId : UUID) (session : Session Tables) (calls : List VersionCall),
      Along (VersionCall.apply agentId tenantId) (ReadsWrites agentId tenantId) { session } calls := by
  intro h
  have hadmits : Admits { agents := [newAgentRow] }
      (requestedVersion ⟨1⟩ ⟨3⟩ ⟨⟨5⟩, 1⟩ 1 "p" [] "m") := by
    refine ⟨⟨newAgentRow, rfl, rfl, ⟨by decide, by decide⟩, ?_⟩, ?_, ?_⟩
    · exact fun _ hversion => absurd hversion List.not_mem_nil
    · exact fun _ hversion => absurd hversion List.not_mem_nil
    · exact ⟨by decide, by decide, by decide, nofun⟩
  have hreads := h ⟨1⟩ ⟨3⟩ { committed := { agents := [newAgentRow] } }
    [{ op := .createAgentVersion 1 "p" [] "m", drawn := ⟨⟨5⟩, 1⟩ }]
  exact absurd hreads.1 (not_read_of_creates hadmits)

end AgentUseCases

end AgentRuntime
