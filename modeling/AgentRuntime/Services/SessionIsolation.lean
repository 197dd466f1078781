import AgentRuntime.Cache.SessionEntries
import AgentRuntime.Interaction.Noninterference
import AgentRuntime.Runtime.MemoryWorld
import AgentRuntime.Services.SessionMemoryService

/-!
# What one tenant's sessions see of the others

Requests of `SessionMemoryService` by several tenants, one after another. The rows of the database are
the tenant's own, but the keys of the cache are built from the session alone, so a tenant is served the
description and the conversation that another stored for a session of the same name. A tenant gets what
it would get if the others had done nothing, as long as no request of the others writes to the cache of a
session that the tenant uses (`isolated_of_spares`).
-/

namespace AgentRuntime

open Interaction SessionMemoryCache

/-- A request of the session memory service. -/
inductive SessionOperation where
  | createSession (sessionId : String) (metadata : Option Dict)
  | getSessionMeta (sessionId : String)
  | addToSession (sessionId role content : String) (metadata : Option Dict)
  | getSessionContext (sessionId : String) (limit : Int)
  | getFullHistory (sessionId : String)
  | summarizeSession (sessionId : String)
  | endSession (sessionId : String)
  | listSessions (limit offset : Int)
  | deleteSession (sessionId : String)

/-- The session that it is about. -/
def SessionOperation.sessionId : SessionOperation → Option String
  | createSession sessionId _ | getSessionMeta sessionId | addToSession sessionId _ _ _
  | getSessionContext sessionId _ | getFullHistory sessionId | summarizeSession sessionId
  | endSession sessionId | deleteSession sessionId => some sessionId
  | listSessions _ _ => none

/-- What it returns. -/
inductive SessionResult where
  | info (info : Option Json)
  | entries (entries : List Json)
  | summary (summary : Option SessionSummary)
  | deleted (deleted : Bool)

/-- A request of a tenant, what it meets, and whether its transaction is committed. -/
structure SessionStep where
  tenantId : UUID
  agentId : UUID
  operation : SessionOperation
  circumstances : Circumstances
  committed : Bool := true

namespace SessionStep

variable (code : UInt8 → Int) (service : SessionMemoryService) (self : SessionStep)

def program : MemoryService SessionResult :=
  match self.operation with
  | .createSession sessionId metadata =>
    (fun info => .info (some info)) <$> service.createSession self.tenantId self.agentId sessionId metadata
  | .getSessionMeta sessionId =>
    .info <$> service.getSessionMeta self.tenantId self.agentId sessionId
  | .addToSession sessionId role content metadata =>
    (fun info => .info (some info)) <$>
      service.addToSession self.tenantId self.agentId sessionId role content metadata
  | .getSessionContext sessionId limit =>
    .entries <$> service.getSessionContext self.tenantId self.agentId sessionId limit
  | .getFullHistory sessionId => .entries <$> SessionMemoryService.getFullHistory sessionId
  | .summarizeSession sessionId =>
    .summary <$> service.summarizeSession self.tenantId self.agentId sessionId
  | .endSession sessionId =>
    (fun info => .info (some info)) <$> service.endSession self.tenantId self.agentId sessionId
  | .listSessions limit offset =>
    .entries <$> SessionMemoryService.listSessions self.tenantId self.agentId limit offset
  | .deleteSession sessionId =>
    .deleted <$> SessionMemoryService.deleteSession self.tenantId self.agentId sessionId

/-- The run of the request. -/
def exec (world : MemoryWorld) : Prog.Exec MemoryCall MemoryState (Except PyError SessionResult × Unit) :=
  ((self.program service).on ()).exec (self.circumstances.env code) { world with }

/-- What the request returns or raises. -/
def returns (world : MemoryWorld) : Option (Except PyError SessionResult) :=
  (self.exec code service world).result.map Prod.fst

/-- What is stored after it. -/
def step (world : MemoryWorld) : MemoryWorld where
  keyspace := (self.exec code service world).state.keyspace
  tables := if self.committed then (self.exec code service world).state.tables else world.tables

end SessionStep

/-! ## What a tenant sees -/

/-- The keys of the sessions. -/
def keysOf (sessionIds : List String) : List String :=
  sessionIds.flatMap fun sessionId => [makeKey sessionId "meta", makeListKey sessionId]

/-- A session's keys name it. -/
theorem redisKey_inj (slot : Slot) {sessionId sessionId' : String} :
    slot.redisKey sessionId = slot.redisKey sessionId' ↔ sessionId = sessionId' := by
  constructor
  · intro h
    have hlist := congrArg String.toList h
    rw [toList_redisKey, toList_redisKey, List.append_right_inj, List.append_left_inj] at hlist
    exact String.toList_inj.1 hlist
  · exact congrArg slot.redisKey

/-- The description of a session is under a key of the sessions exactly if the session is one of them. -/
theorem makeKey_mem_keysOf {sessionIds : List String} {sessionId : String} :
    makeKey sessionId "meta" ∈ keysOf sessionIds ↔ sessionId ∈ sessionIds := by
  simp only [keysOf, List.mem_flatMap, List.mem_cons, List.not_mem_nil, or_false]
  constructor
  · rintro ⟨sessionId', hmem, hkey | hkey⟩
    · rwa [(redisKey_inj (.key "meta")).1 hkey]
    · exact absurd hkey (makeKey_ne_makeListKey _ _)
  · exact fun h => ⟨sessionId, h, .inl rfl⟩

/-- So is its conversation. -/
theorem makeListKey_mem_keysOf {sessionIds : List String} {sessionId : String} :
    makeListKey sessionId ∈ keysOf sessionIds ↔ sessionId ∈ sessionIds := by
  simp only [keysOf, List.mem_flatMap, List.mem_cons, List.not_mem_nil, or_false]
  constructor
  · rintro ⟨sessionId', hmem, hkey | hkey⟩
    · exact absurd hkey.symm (makeKey_ne_makeListKey _ _)
    · rwa [(redisKey_inj .history).1 hkey]
  · exact fun h => ⟨sessionId, h, .inr rfl⟩

/-- The tenant cannot tell the two apart: they have the same rows of it, and the same in the cache for
the sessions that it uses. -/
structure SameFor (tenantId : UUID) (sessionIds : List String) (world world' : MemoryWorld) : Prop where
  cache : Redis.Agree (· ∈ keysOf sessionIds) world.keyspace.store world'.keyspace.store
  rows : world.tables.ofTenant tenantId = world'.tables.ofTenant tenantId

/-- Nor can a request of the tenant that has made the same draws. -/
def SeenAlike (tenantId : UUID) (sessionIds : List String) (s s' : MemoryState) : Prop :=
  SameFor tenantId sessionIds s.toMemoryWorld s'.toMemoryWorld ∧ s.draws = s'.draws

/-- A statement about the rows of a tenant, or a draw. -/
def TenantCall (tenantId : UUID) : MemoryCall → Prop
  | .policyByTenantScope tenantId' _ | .countByTenant tenantId' _ | .storageMb tenantId'
  | .generateEmbedding _ tenantId' | .encrypt _ tenantId' | .summaryBySessionId tenantId' _ _
  | .summaryDelete tenantId' _ _ | .summariesByAgent tenantId' _ _ _
  | .searchByVector tenantId' _ _ _ _ _ _ => tenantId' = tenantId
  | .recordCreate record => record.tenantId = tenantId
  | .summaryCreate summary => summary.tenantId = tenantId
  | .outboxCreate _ _ _ _ | .now | .newUUID => True
  | _ => False

/-- A command on the description or the conversation of a session. -/
def CacheCall (sessionId : String) : MemoryCall → Prop
  | .setex key _ _ | .get key => key = makeKey sessionId "meta"
  | .append key _ _ _ | .lrange key _ _ => key = makeListKey sessionId
  | _ => False

section
variable {code : UInt8 → Int} {c : Circumstances} {tenantId tenantId' : UUID} {sessionIds : List String}
  {sessionId : String} {o : MemoryCall}

/-- A statement about its rows is answered to a tenant by its rows alone. -/
theorem answeredAlike_of_tenantCall (h : TenantCall tenantId o) :
    Prog.AnsweredAlike (c.env code) (SeenAlike tenantId sessionIds) o := by
  rintro s s' ⟨hsame, hdraws⟩
  have hrows := hsame.rows
  cases o with
  | policyByTenantScope tenantId' scope =>
    cases h
    refine ⟨congrArg (c.query _) ?_, hsame, hdraws⟩
    rw [← MemoryTables.getByTenantScope_ofTenant, hrows, MemoryTables.getByTenantScope_ofTenant]
  | countByTenant tenantId' scope =>
    cases h
    refine ⟨congrArg (fun count => c.query _ (.ok count)) ?_, hsame, hdraws⟩
    rw [← MemoryTables.countByTenant_ofTenant, hrows, MemoryTables.countByTenant_ofTenant]
  | storageMb tenantId' =>
    cases h
    refine ⟨congrArg (fun size => c.query _ (.ok size)) ?_, hsame, hdraws⟩
    rw [← MemoryTables.storageMb_ofTenant, hrows, MemoryTables.storageMb_ofTenant]
  | summaryBySessionId tenantId' agentId sessionId =>
    cases h
    refine ⟨congrArg (c.query _) ?_, hsame, hdraws⟩
    rw [← MemoryTables.getBySessionId_ofTenant, hrows, MemoryTables.getBySessionId_ofTenant]
  | summariesByAgent tenantId' agentId limit offset =>
    cases h
    refine ⟨congrArg (c.query _) ?_, hsame, hdraws⟩
    rw [← MemoryTables.listByAgent_ofTenant, hrows, MemoryTables.listByAgent_ofTenant]
  | searchByVector tenantId' agentId queryEmbedding ns scope limit sessionId =>
    cases h
    refine ⟨congrArg (c.query _) ?_, hsame, hdraws⟩
    rw [← MemoryTables.searchByVector_ofTenant, hrows, MemoryTables.searchByVector_ofTenant]
  | summaryDelete tenantId' agentId sessionId =>
    cases h
    simp only [Circumstances.env, Circumstances.execute]
    split
    · exact ⟨rfl, hsame, hdraws⟩
    · have hdelete := s.tables.deleteBySessionId_ofTenant tenantId agentId sessionId
      have hdelete' := s'.tables.deleteBySessionId_ofTenant tenantId agentId sessionId
      refine ⟨congrArg Except.ok ?_, ⟨hsame.cache, ?_⟩, hdraws⟩
      · exact hdelete.1.symm.trans ((congrArg (fun rows : MemoryTables =>
          (rows.deleteBySessionId tenantId agentId sessionId).1) hrows).trans hdelete'.1)
      · exact hdelete.2.trans ((congrArg (fun rows : MemoryTables =>
          (rows.deleteBySessionId tenantId agentId sessionId).2) hrows).trans hdelete'.2.symm)
  | summaryCreate summary =>
    cases h
    simp only [Circumstances.env, Circumstances.execute]
    split
    · exact ⟨rfl, hsame, hdraws⟩
    · have hcreate := s.tables.createSummary_ofTenant summary
      have hcreate' := s'.tables.createSummary_ofTenant summary
      refine ⟨?_, ⟨hsame.cache, ?_⟩, hdraws⟩
      · exact hcreate.1.symm.trans ((congrArg (fun rows : MemoryTables =>
          (rows.createSummary summary).1) hrows).trans hcreate'.1)
      · exact hcreate.2.trans ((congrArg (fun rows : MemoryTables =>
          (rows.createSummary summary).2) hrows).trans hcreate'.2.symm)
  | recordCreate record =>
    cases h
    simp only [Circumstances.env, Circumstances.execute]
    split
    · exact ⟨rfl, hsame, hdraws⟩
    · refine ⟨rfl, ⟨hsame.cache, ?_⟩, hdraws⟩
      dsimp only
      rw [MemoryTables.ofTenant_createRecord, MemoryTables.ofTenant_createRecord, if_pos rfl, if_pos rfl,
        hrows]
  | outboxCreate eventType aggregateId aggregateType payload => exact ⟨rfl, hsame, hdraws⟩
  | generateEmbedding text tenantId' =>
    exact ⟨congrArg (c.embedding · text tenantId') hdraws, hsame, congrArg (· + 1) hdraws⟩
  | encrypt text tenantId' =>
    exact ⟨congrArg (c.ciphertext · text tenantId') hdraws, hsame, congrArg (· + 1) hdraws⟩
  | now => exact ⟨congrArg c.clock hdraws, hsame, congrArg (· + 1) hdraws⟩
  | newUUID => exact ⟨congrArg c.uuid hdraws, hsame, congrArg (· + 1) hdraws⟩
  | _ => exact h.elim

/-- So is a command on a session that it uses, by what is stored for its sessions. -/
theorem answeredAlike_of_cacheCall (h : CacheCall sessionId o) (hmem : sessionId ∈ sessionIds) :
    Prog.AnsweredAlike (c.env code) (SeenAlike tenantId sessionIds) o := by
  rintro s s' ⟨hsame, hdraws⟩
  have hcache := hsame.cache
  have hmeta : makeKey sessionId "meta" ∈ keysOf sessionIds := makeKey_mem_keysOf.2 hmem
  have hlist : makeListKey sessionId ∈ keysOf sessionIds := makeListKey_mem_keysOf.2 hmem
  cases o with
  | setex key seconds value =>
    cases h
    simp only [Circumstances.env, Circumstances.redis, MemoryKeyspace.env]
    split
    · exact ⟨rfl, hsame, hdraws⟩
    · unfold MemoryKeyspace.setex
      split
      · exact ⟨rfl, hsame, hdraws⟩
      · exact ⟨rfl, ⟨hcache.set _ _, hsame.rows⟩, hdraws⟩
  | get key =>
    cases h
    simp only [Circumstances.env, Circumstances.redis, MemoryKeyspace.env]
    split
    · exact ⟨rfl, hsame, hdraws⟩
    · exact ⟨congrArg MemoryKeyspace.answered (hcache.getString_eq hmeta), hsame, hdraws⟩
  | append key entry maxEntries seconds =>
    cases h
    simp only [Circumstances.env, Circumstances.redis, MemoryKeyspace.env]
    split
    · exact ⟨rfl, hsame, hdraws⟩
    · obtain ⟨hpushed, hpush⟩ := hcache.rpush c.redisTime hlist entry
      obtain ⟨htrimmed, htrim⟩ := hpush.ltrim c.redisTime hlist (-maxEntries) (-1)
      refine ⟨?_, ⟨htrim.expire hlist seconds, hsame.rows⟩, hdraws⟩
      exact congrArg MemoryKeyspace.answered (by rw [hpushed, htrimmed])
  | lrange key start stop =>
    cases h
    simp only [Circumstances.env, Circumstances.redis, MemoryKeyspace.env]
    split
    · exact ⟨rfl, hsame, hdraws⟩
    · refine ⟨congrArg MemoryKeyspace.answered ?_, hsame, hdraws⟩
      rw [hcache.listOf_eq hlist]
  | _ => exact h.elim

/-- A call that leaves the rows of a tenant and the cache of its sessions alone. -/
def Harmless (c : Circumstances) (tenantId : UUID) (sessionIds : List String) : MemoryCall → Prop
  | .setex key seconds value =>
    key ∈ keysOf sessionIds → (c.refuses (.setex key seconds value)).isSome = true
  | .append key entry maxEntries seconds =>
    key ∈ keysOf sessionIds → (c.refuses (.append key entry maxEntries seconds)).isSome = true
  | .get _ | .lrange _ _ _ => True
  | .recordCreate record => record.tenantId ≠ tenantId
  | .summaryCreate summary => summary.tenantId ≠ tenantId
  | .summaryDelete tenantId' _ _ => tenantId' ≠ tenantId
  | .scan _ | .delete _ | .expire _ _ | .recordGet _ | .recordsByTenantAgent _ _ _ _
  | .searchByMetadata _ _ _ _ _ _ | .deleteExpired _ | .decrypt _ _ => False
  | .policyByTenantScope _ _ | .countByTenant _ _ | .storageMb _ | .generateEmbedding _ _ | .encrypt _ _
  | .summaryBySessionId _ _ _ | .summariesByAgent _ _ _ _ | .searchByVector _ _ _ _ _ _ _
  | .outboxCreate _ _ _ _ | .now | .newUUID => True

/-- So are the calls about another tenant's rows. -/
theorem harmless_of_tenantCall (h : TenantCall tenantId' o) (hne : tenantId' ≠ tenantId) :
    Harmless c tenantId sessionIds o := by
  cases o with
  | recordCreate record => exact fun heq => hne (h.symm.trans heq)
  | summaryCreate summary => exact fun heq => hne (h.symm.trans heq)
  | summaryDelete tenantId' agentId sessionId => exact fun heq => hne (h.symm.trans heq)
  | policyByTenantScope _ _ | countByTenant _ _ | storageMb _ | generateEmbedding _ _ | encrypt _ _
  | summaryBySessionId _ _ _ | summariesByAgent _ _ _ _ | searchByVector _ _ _ _ _ _ _
  | outboxCreate _ _ _ _ | now | newUUID => trivial
  | _ => exact h.elim

/-- And the commands on a session that the tenant does not use. -/
theorem harmless_of_cacheCall (h : CacheCall sessionId o) (hmem : sessionId ∉ sessionIds) :
    Harmless c tenantId sessionIds o := by
  cases o with
  | setex key seconds value =>
    cases h
    exact fun hkey => absurd (makeKey_mem_keysOf.1 hkey) hmem
  | append key entry maxEntries seconds =>
    cases h
    exact fun hkey => absurd (makeListKey_mem_keysOf.1 hkey) hmem
  | get _ | lrange _ _ _ => trivial
  | _ => exact h.elim

/-- A harmless call leaves the tenant what it can see. -/
theorem SameFor.harmless {world : MemoryWorld} {s : MemoryState}
    (hsame : SameFor tenantId sessionIds s.toMemoryWorld world) (h : Harmless c tenantId sessionIds o) :
    SameFor tenantId sessionIds (c.env code o s).2.toMemoryWorld world := by
  cases o with
  | setex key seconds value =>
    simp only [Circumstances.env, Circumstances.redis, MemoryKeyspace.env]
    split
    · exact hsame
    · next hanswered =>
      replace hanswered : c.refuses (.setex key seconds value) = none := hanswered
      have hkey : key ∉ keysOf sessionIds := fun hkey => by
        have hrefused := h hkey
        rw [hanswered] at hrefused
        cases hrefused
      unfold MemoryKeyspace.setex
      split
      · exact hsame
      · refine ⟨fun key' hkey' => ?_, hsame.rows⟩
        have hne : key' ≠ key := fun heq => hkey (heq ▸ hkey')
        exact (Redis.set_of_ne hne _ _).trans (hsame.cache key' hkey')
  | append key entry maxEntries seconds =>
    simp only [Circumstances.env, Circumstances.redis, MemoryKeyspace.env]
    split
    · exact hsame
    · next hanswered =>
      replace hanswered : c.refuses (.append key entry maxEntries seconds) = none := hanswered
      have hkey : key ∉ keysOf sessionIds := fun hkey => by
        have hrefused := h hkey
        rw [hanswered] at hrefused
        cases hrefused
      refine ⟨fun key' hkey' => ?_, hsame.rows⟩
      have hne : key' ≠ key := fun heq => hkey (heq ▸ hkey')
      exact (MemoryKeyspace.append_of_ne hne _ _ _).trans (hsame.cache key' hkey')
  | get key =>
    rw [c.env_get]
    exact hsame
  | lrange key start stop =>
    rw [c.env_lrange]
    exact hsame
  | recordCreate record =>
    simp only [Circumstances.env, Circumstances.execute]
    split
    · exact hsame
    · refine ⟨hsame.cache, Eq.trans ?_ hsame.rows⟩
      dsimp only
      rw [MemoryTables.ofTenant_createRecord, if_neg h]
  | summaryCreate summary =>
    simp only [Circumstances.env, Circumstances.execute]
    split
    · exact hsame
    · exact ⟨hsame.cache, (MemoryTables.ofTenant_createSummary_of_ne _ _ h).trans hsame.rows⟩
  | summaryDelete tenantId' agentId sessionId =>
    simp only [Circumstances.env, Circumstances.execute]
    split
    · exact hsame
    · exact ⟨hsame.cache, (MemoryTables.ofTenant_deleteBySessionId_of_ne _ _ _ h _).trans hsame.rows⟩
  | policyByTenantScope _ _ | countByTenant _ _ | storageMb _ | generateEmbedding _ _ | encrypt _ _
  | summaryBySessionId _ _ _ | summariesByAgent _ _ _ _ | searchByVector _ _ _ _ _ _ _
  | outboxCreate _ _ _ _ | now | newUUID => exact hsame
  | _ => exact h.elim

end

/-! ## Clearing a session -/

/-- Clearing the session removes the key. -/
def Clears (code : UInt8 → Int) (c : Circumstances) (sessionId : String) (keyspace : MemoryKeyspace)
    (key : String) : Prop :=
  (c.refuses (.scan (pattern sessionId)) = none ∧ c.refuses (.delete []) = none) ∧
    (Redis.lookup c.redisTime key keyspace.store).isSome = true ∧
      Redis.Glob.globMatches code (pattern sessionId) key = true

/-- What clearing a session leaves. -/
structure Cleared (code : UInt8 → Int) (c : Circumstances) (sessionId : String) (before : MemoryState)
    (after : Prog.Exec MemoryCall MemoryState (Except PyError Nat × Unit)) : Prop where
  result : ∃ n, after.result = some (.ok n, ())
  draws : after.state.draws = before.draws
  tables : after.state.tables = before.tables
  removed : ∀ key, Clears code c sessionId before.keyspace key → after.state.keyspace.store key = none
  kept : ∀ key, ¬Clears code c sessionId before.keyspace key →
    after.state.keyspace.store key = before.keyspace.store key

section
variable {code : UInt8 → Int} {c : Circumstances} {tenantId : UUID} {sessionIds : List String}

/-- A scan changes nothing. -/
theorem env_scan (pattern : String) (s : MemoryState) :
    c.env code (.scan pattern) s =
      (c.query (.scan pattern) (.ok (s.keyspace.scan code c.redisTime pattern)), s) := by
  simp only [Circumstances.env, Circumstances.redis, MemoryKeyspace.env, MemoryCall.command,
    Circumstances.query]
  cases c.refuses (.scan pattern) with
  | some e => rfl
  | none => rfl

/-- A delete is refused, or removes the keys. -/
theorem env_delete (keys : List String) (s : MemoryState) :
    c.env code (.delete keys) s = match c.refuses (.delete []) with
      | some e => (.error e, s)
      | none => (.ok (s.keyspace.delete c.redisTime keys).1,
          { s with keyspace := (s.keyspace.delete c.redisTime keys).2 }) := by
  simp only [Circumstances.env, Circumstances.redis, MemoryKeyspace.env, MemoryCall.command]
  cases c.refuses (.delete []) with
  | some e => rfl
  | none => rfl

/-- Clearing a session leaves what `Cleared` says. -/
theorem cleared (code : UInt8 → Int) (c : Circumstances) (sessionId : String) (s : MemoryState) :
    Cleared code c sessionId s (((clearSession sessionId).on ()).exec (c.env code) s) := by
  have hkeep (after : Prog.Exec MemoryCall MemoryState (Except PyError Nat × Unit))
      (hresult : ∃ n, after.result = some (.ok n, ())) (hstate : after.state = s)
      (hnone : ∀ key, ¬Clears code c sessionId s.keyspace key) : Cleared code c sessionId s after :=
    ⟨hresult, by rw [hstate], by rw [hstate], fun key hkey => absurd hkey (hnone key),
      fun key _ => by rw [hstate]⟩
  rw [on_clearSession]
  simp only [Prog.exec_call, env_scan, Circumstances.query]
  cases hscan : c.refuses (.scan (pattern sessionId)) with
  | some e =>
    refine hkeep _ ⟨0, rfl⟩ rfl fun key hkey => ?_
    rw [hkey.1.1] at hscan
    cases hscan
  | none =>
    cases hkeys : s.keyspace.scan code c.redisTime (pattern sessionId) with
    | nil =>
      refine hkeep _ ⟨0, rfl⟩ rfl fun key hkey => ?_
      have hmem := Redis.Keyspace.mem_scan.2 hkey.2
      rw [hkeys] at hmem
      cases hmem
    | cons key keys =>
      simp only [Prog.exec_call, Prog.exec_ret, env_delete]
      cases hdelete : c.refuses (.delete []) with
      | some e =>
        refine hkeep _ ⟨0, rfl⟩ rfl fun key hkey => ?_
        rw [hkey.1.2] at hdelete
        cases hdelete
      | none =>
        have hiff (key' : String) : Clears code c sessionId s.keyspace key' ↔ key' ∈ key :: keys := by
          rw [← hkeys, Redis.Keyspace.mem_scan]
          exact and_iff_right ⟨hscan, hdelete⟩
        refine ⟨⟨_, rfl⟩, rfl, rfl, fun key' hkey' => ?_, fun key' hkey' => ?_⟩
        · exact if_pos ((hiff key').1 hkey')
        · exact if_neg fun hmem => hkey' ((hiff key').2 hmem)

/-- A tenant that uses the session, or another whose keys its pattern matches, sees it cleared alike. -/
theorem alike_clearSession (sessionId : String) :
    Prog.Alike (c.env code) (SeenAlike tenantId sessionIds)
      (fun r r' => ∃ n n', r = (.ok n, ()) ∧ r' = (.ok n', ()))
      ((clearSession sessionId).on ()) ((clearSession sessionId).on ()) := by
  rintro s s' ⟨hsame, hdraws⟩
  have h := cleared code c sessionId s
  have h' := cleared code c sessionId s'
  obtain ⟨n, hn⟩ := h.result
  obtain ⟨n', hn'⟩ := h'.result
  refine ⟨?_, ⟨fun key hkey => ?_, ?_⟩, ?_⟩
  · rw [hn, hn']
    exact .some ⟨n, n', rfl, rfl⟩
  · have hiff : Clears code c sessionId s.keyspace key ↔ Clears code c sessionId s'.keyspace key := by
      unfold Clears
      rw [hsame.cache.lookup_eq hkey]
    by_cases hclears : Clears code c sessionId s.keyspace key
    · rw [h.removed key hclears, h'.removed key (hiff.1 hclears)]
    · rw [h.kept key hclears, h'.kept key fun hclears' => hclears (hiff.2 hclears')]
      exact hsame.cache key hkey
  · rw [h.tables, h'.tables]
    exact hsame.rows
  · rw [h.draws, h'.draws]
    exact hdraws

/-- A session whose pattern matches no key of the tenant's is cleared without its notice. -/
theorem preserves_clearSession {sessionId : String} {world : MemoryWorld}
    (h : ∀ key ∈ keysOf sessionIds, ¬Clears code c sessionId world.keyspace key) :
    Prog.Preserves (c.env code) (fun s => SameFor tenantId sessionIds s.toMemoryWorld world)
      ((clearSession sessionId).on ()) := by
  intro s hsame
  have hcleared := cleared code c sessionId s
  refine ⟨fun key hkey => ?_, ?_⟩
  · refine (hcleared.kept key fun hclears => h key hkey ?_).trans (hsame.cache key hkey)
    unfold Clears at hclears ⊢
    rwa [← hsame.cache.lookup_eq hkey]
  · rw [hcleared.tables]
    exact hsame.rows

end

/-! ## The calls of a request -/

open Proc (keeps_bind keeps_tryCall keeps_call keeps_pure keeps_ofExcept)

/-- Writing memory asks about the tenant's rows. -/
theorem tenantCall_of_writeCall {tenantId : UUID} {o : MemoryCall}
    (h : MemoryWriteService.WriteCall tenantId o) : TenantCall tenantId o := by
  cases o with
  | policyByTenantScope _ _ | countByTenant _ _ | storageMb _ | generateEmbedding _ _ | encrypt _ _
  | recordCreate _ | outboxCreate _ _ _ _ | now | newUUID => exact h
  | _ => exact h.elim

/-- A statement about the tenant's rows, a draw, or a command on the session in the cache. -/
def SessionCall (tenantId : UUID) (sessionId : String) (o : MemoryCall) : Prop :=
  TenantCall tenantId o ∨ CacheCall sessionId o

/-- A message, whose content is a text. -/
def IsMessage (message : Json) : Prop :=
  ∃ (entries : Dict) (content : String), message = .dict entries ∧
    entries.get? "content" = some (.str content)

/-- The same, if what is stored in the cache is a dictionary as the description and a message in the
conversation. -/
def StoringCall (tenantId : UUID) (sessionId : String) : MemoryCall → Prop
  | .setex key _ value => key = makeKey sessionId "meta" ∧ ∃ entries, value = .dict entries
  | .append key entry _ _ => key = makeListKey sessionId ∧ IsMessage entry
  | o => SessionCall tenantId sessionId o

/-- A call that stores only descriptions and messages is one on the session. -/
theorem StoringCall.sessionCall {tenantId : UUID} {sessionId : String} {o : MemoryCall}
    (h : StoringCall tenantId sessionId o) : SessionCall tenantId sessionId o := by
  cases o with
  | setex key seconds value => exact .inr h.1
  | append key entry maxEntries seconds => exact .inr h.1
  | _ => exact h

namespace SessionMemoryService

section
variable {P : MemoryCall → Prop} (cache : SessionMemoryCache) (sessionId key : String)

/-- Reading a value is one command. -/
theorem makes_get (h : P (.get (makeKey sessionId key))) : (SessionMemoryCache.get sessionId key).Makes P := by
  intro _ _
  rw [on_get]
  exact ⟨h, fun _ _ => trivial⟩

/-- So is storing it. -/
theorem makes_set (value : Json) (ttl : Option Int)
    (h : P (.setex (makeKey sessionId key) (cache.lifetime ttl) value)) :
    (cache.set sessionId key value ttl).Makes P := by
  intro _ _
  rw [on_set]
  exact ⟨h, fun _ _ => trivial⟩

/-- So is appending a message. -/
theorem makes_appendToHistory (entry : Json) (maxEntries : Int) (ttl : Option Int)
    (h : P (.append (makeListKey sessionId) entry maxEntries (cache.lifetime ttl))) :
    (cache.appendToHistory sessionId entry maxEntries ttl).Makes P := by
  intro _ _
  rw [on_appendToHistory]
  exact ⟨h, fun _ _ => trivial⟩

/-- So is reading the recent messages. -/
theorem makes_getRecentHistory (limit : Int) (h : P (.lrange (makeListKey sessionId) (-limit) (-1))) :
    (getRecentHistory sessionId limit).Makes P := by
  intro _ _
  rw [on_getRecentHistory]
  exact ⟨h, fun _ _ => trivial⟩

/-- So is reading them all. -/
theorem makes_getAllHistory (h : P (.lrange (makeListKey sessionId) 0 (-1))) :
    (getAllHistory sessionId).Makes P := by
  intro _ _
  rw [on_getAllHistory]
  exact ⟨h, fun _ _ => trivial⟩

end

variable (self : SessionMemoryService) (tenantId agentId : UUID) (sessionId : String)

/-- Creating a session stores a dictionary as its description, and nothing of another tenant. -/
theorem stores_createSession (metadata : Option Dict) :
    (self.createSession tenantId agentId sessionId metadata).Makes (StoringCall tenantId sessionId) := by
  refine keeps_bind (makes_get sessionId "meta" (.inr rfl)) fun existing => ?_
  split
  · exact keeps_pure _
  · refine keeps_bind (keeps_tryCall (.inl rfl)) fun _ => ?_
    refine keeps_bind (keeps_call (.inl trivial)) fun createdAt => ?_
    refine keeps_bind (keeps_call (.inl trivial)) fun updatedAt => ?_
    exact keeps_bind (makes_set _ sessionId "meta" _ _ ⟨rfl, _, rfl⟩) fun _ => keeps_pure _

/-- Reading the description stores one only where it restores it from the summary. -/
theorem stores_getSessionMeta :
    (self.getSessionMeta tenantId agentId sessionId).Makes (StoringCall tenantId sessionId) := by
  refine keeps_bind (makes_get sessionId "meta" (.inr rfl)) fun sessionMeta => ?_
  dsimp only
  split
  · exact keeps_pure _
  · refine keeps_bind (keeps_tryCall (.inl rfl)) fun summary => ?_
    split
    · exact keeps_pure _
    · exact keeps_bind (makes_set _ sessionId "meta" _ _ ⟨rfl, _, rfl⟩) fun _ => keeps_pure _

/-- Adding a message stores the message, and a description with a new count. -/
theorem stores_addToSession (role content : String) (metadata : Option Dict) :
    (self.addToSession tenantId agentId sessionId role content metadata).Makes
      (StoringCall tenantId sessionId) := by
  have hinfo : (self.getOrCreateSession tenantId agentId sessionId).Makes
      (StoringCall tenantId sessionId) := by
    refine keeps_bind (stores_getSessionMeta self tenantId agentId sessionId) fun sessionMeta => ?_
    split
    · exact keeps_pure _
    · exact stores_createSession self tenantId agentId sessionId none
  refine keeps_bind hinfo fun sessionMeta => ?_
  refine keeps_bind (keeps_call (.inl trivial)) fun timestamp => ?_
  refine keeps_bind (makes_appendToHistory _ sessionId _ _ _ ⟨rfl, _, content, rfl, rfl⟩) fun _ => ?_
  refine keeps_bind (keeps_ofExcept _) fun entries => ?_
  refine keeps_bind (keeps_ofExcept _) fun messageCount => ?_
  refine keeps_bind (keeps_call (.inl trivial)) fun updatedAt => ?_
  exact keeps_bind (makes_set _ sessionId "meta" _ _ ⟨rfl, _, rfl⟩) fun _ => keeps_pure _

/-- Creating a session makes only calls on it. -/
theorem makes_createSession (metadata : Option Dict) :
    (self.createSession tenantId agentId sessionId metadata).Makes (SessionCall tenantId sessionId) :=
  (self.stores_createSession tenantId agentId sessionId metadata).mono fun _ => StoringCall.sessionCall

/-- So does reading its description. -/
theorem makes_getSessionMeta :
    (self.getSessionMeta tenantId agentId sessionId).Makes (SessionCall tenantId sessionId) :=
  (self.stores_getSessionMeta tenantId agentId sessionId).mono fun _ => StoringCall.sessionCall

/-- So does adding a message. -/
theorem makes_addToSession (role content : String) (metadata : Option Dict) :
    (self.addToSession tenantId agentId sessionId role content metadata).Makes
      (SessionCall tenantId sessionId) :=
  (self.stores_addToSession tenantId agentId sessionId role content metadata).mono
    fun _ => StoringCall.sessionCall

/-- So does restoring its conversation. -/
theorem makes_appendEach (history : List Json) :
    (self.appendEach sessionId history).Makes (SessionCall tenantId sessionId) := by
  induction history with
  | nil => exact keeps_pure _
  | cons msg history ih =>
    exact keeps_bind (makes_appendToHistory _ sessionId _ _ _ (.inr rfl)) fun _ => ih

/-- So does reading its context. -/
theorem makes_getSessionContext (limit : Int) :
    (self.getSessionContext tenantId agentId sessionId limit).Makes
      (SessionCall tenantId sessionId) := by
  refine keeps_bind (makes_getRecentHistory sessionId limit (.inr rfl)) fun history => ?_
  refine Proc.keeps_ite (fun _ => ?_) fun _ => keeps_pure _
  refine keeps_bind (keeps_tryCall (.inl rfl)) fun records => ?_
  exact keeps_bind (makes_appendEach self tenantId sessionId _) fun _ => keeps_pure _

/-- Summarizing reads the cache, and writes to the database alone. -/
theorem makes_summarizeSession :
    (self.summarizeSession tenantId agentId sessionId).Makes
      fun o => TenantCall tenantId o ∨ o = .lrange (makeListKey sessionId) 0 (-1) := by
  refine keeps_bind (makes_getAllHistory sessionId (.inr rfl)) fun history => ?_
  refine Proc.keeps_ite (fun _ => keeps_pure _) fun _ => ?_
  refine keeps_bind (keeps_ofExcept _) fun summaryContent => ?_
  refine keeps_bind (keeps_call (.inl trivial)) fun summarizedAt => ?_
  refine keeps_bind (keeps_call (.inl trivial)) fun id => ?_
  refine keeps_bind (keeps_call (.inl trivial)) fun createdAt => ?_
  refine keeps_bind (keeps_call (.inl trivial)) fun updatedAt => ?_
  refine keeps_bind (keeps_tryCall (.inl rfl)) fun savedSummary => ?_
  refine keeps_bind ((MemoryWriteService.makes_writeMemory _ tenantId agentId _ _ _ _ _).mono
    fun _ h => .inl (tenantCall_of_writeCall h)) fun _ => ?_
  exact keeps_pure _

end SessionMemoryService

/-! ## The tenant's own requests -/

section
variable {code : UInt8 → Int} {c : Circumstances} {tenantId agentId : UUID} {sessionIds : List String}
  {sessionId : String} {α β : Type}

/-- The coroutine ends alike for the tenant. -/
abbrev MemoryService.Alike (code : UInt8 → Int) (c : Circumstances) (tenantId : UUID)
    (sessionIds : List String) (m : MemoryService α) : Prop :=
  Prog.Alike (c.env code) (SeenAlike tenantId sessionIds) (fun r r' => r = r') (m.on ()) (m.on ())

/-- A program that makes only calls on its own session runs alike in worlds that are the same for
the tenant. -/
theorem alike_of_makes {m : MemoryService α} (h : m.Makes (SessionCall tenantId sessionId))
    (hmem : sessionId ∈ sessionIds) : m.Alike code c tenantId sessionIds :=
  (h () trivial).alike fun _ ho => ho.elim answeredAlike_of_tenantCall
    fun hcache => answeredAlike_of_cacheCall hcache hmem

/-- Two parts that run alike do so one after the other. -/
theorem alike_bind {m : MemoryService α} {f : α → MemoryService β}
    (hm : m.Alike code c tenantId sessionIds) (hf : ∀ a, (f a).Alike code c tenantId sessionIds) :
    (m >>= f).Alike code c tenantId sessionIds := by
  rw [MemoryService.Alike, Proc.on_bind]
  refine Prog.Alike.bind hm fun r r' hr => ?_
  subst hr
  obtain ⟨e | a, _⟩ := r
  · exact Prog.alike_ret rfl
  · exact hf a

/-- A function of the value changes nothing of that. -/
theorem alike_map {m : MemoryService α} (hm : m.Alike code c tenantId sessionIds) (f : α → β) :
    (f <$> m).Alike code c tenantId sessionIds := by
  rw [map_eq_pure_bind]
  exact alike_bind hm fun a => Prog.alike_ret rfl

/-- What follows the clearing of a session does not depend on how many keys it removed. -/
theorem alike_clearSession_bind {m : MemoryService α} (hm : m.Alike code c tenantId sessionIds) :
    (clearSession sessionId >>= fun _ => m).Alike code c tenantId sessionIds := by
  rw [MemoryService.Alike, Proc.on_bind]
  refine (alike_clearSession sessionId).bind ?_
  rintro _ _ ⟨n, n', rfl, rfl⟩
  exact hm

/-- Summarising a session runs alike. -/
theorem alike_summarizeSession (service : SessionMemoryService) (hmem : sessionId ∈ sessionIds) :
    (service.summarizeSession tenantId agentId sessionId).Alike code c tenantId sessionIds := by
  refine alike_of_makes ((service.makes_summarizeSession _ _ _).mono fun o ho => ?_) hmem
  rcases ho with ho | rfl
  · exact .inl ho
  · exact .inr rfl

/-- So does ending it, which clears only what the pattern of its own session matches. -/
theorem alike_endSession (service : SessionMemoryService) (hmem : sessionId ∈ sessionIds) :
    (service.endSession tenantId agentId sessionId).Alike code c tenantId sessionIds := by
  refine alike_bind (alike_summarizeSession service hmem) fun summary => ?_
  refine alike_bind (alike_of_makes (SessionMemoryService.makes_get sessionId "meta" (.inr rfl)) hmem)
    fun sessionMeta => alike_clearSession_bind ?_
  refine alike_of_makes (keeps_bind (keeps_call (.inl trivial)) fun endedAt => ?_) hmem
  exact keeps_bind (keeps_ofExcept _) fun _ => keeps_pure _

/-- So does deleting it. -/
theorem alike_deleteSession (hmem : sessionId ∈ sessionIds) :
    (SessionMemoryService.deleteSession tenantId agentId sessionId).Alike code c tenantId sessionIds :=
  alike_clearSession_bind (alike_of_makes (keeps_tryCall (.inl rfl)) hmem)

/-- The tenant's requests on the sessions that it uses end alike. -/
theorem SessionStep.alike_program (service : SessionMemoryService) (self : SessionStep)
    (h : ∀ sessionId, self.operation.sessionId = some sessionId → sessionId ∈ sessionIds) :
    (self.program service).Alike code c self.tenantId sessionIds := by
  unfold SessionStep.program
  cases hoperation : self.operation with
  | createSession sessionId metadata =>
    rw [hoperation] at h
    exact alike_map (alike_of_makes (service.makes_createSession _ _ _ _) (h _ rfl)) _
  | getSessionMeta sessionId =>
    rw [hoperation] at h
    exact alike_map (alike_of_makes (service.makes_getSessionMeta _ _ _) (h _ rfl)) _
  | addToSession sessionId role content metadata =>
    rw [hoperation] at h
    exact alike_map (alike_of_makes (service.makes_addToSession _ _ _ _ _ _) (h _ rfl)) _
  | getSessionContext sessionId limit =>
    rw [hoperation] at h
    exact alike_map (alike_of_makes (service.makes_getSessionContext _ _ _ _) (h _ rfl)) _
  | getFullHistory sessionId =>
    rw [hoperation] at h
    exact alike_map (alike_of_makes (SessionMemoryService.makes_getAllHistory sessionId (.inr rfl))
      (h _ rfl)) _
  | summarizeSession sessionId =>
    rw [hoperation] at h
    exact alike_map (alike_summarizeSession service (h _ rfl)) _
  | endSession sessionId =>
    rw [hoperation] at h
    exact alike_map (alike_endSession service (h _ rfl)) _
  | listSessions limit offset =>
    refine alike_map ?_ _
    have hmakes : (SessionMemoryService.listSessions self.tenantId self.agentId limit offset).Makes
        (TenantCall self.tenantId) := keeps_bind (keeps_tryCall rfl) fun _ => keeps_pure _
    exact (hmakes () trivial).alike fun _ => answeredAlike_of_tenantCall
  | deleteSession sessionId =>
    rw [hoperation] at h
    exact alike_map (alike_deleteSession (h _ rfl)) _

end

/-! ## The requests of others -/

/-- A command that writes to the cache. -/
def Writes : MemoryCall → Prop
  | .setex _ _ _ | .append _ _ _ _ | .delete _ => True
  | _ => False

/-- Redis refuses every command that writes. -/
def Circumstances.RefusesWrites (c : Circumstances) : Prop :=
  ∀ o, Writes o → (c.refuses o.command).isSome = true

namespace SessionStep

variable (code : UInt8 → Int) (self : SessionStep) (world : MemoryWorld) (sessionId : String)

/-- What a call is answered by in this state. -/
def answer (o : MemoryCall) : o.Ans := (self.circumstances.env code o { world with }).1

/-- The description of the session in the cache. -/
def cachedInfo : Option Json :=
  ((self.answer code world (.get (makeKey sessionId "meta"))).toOption.getD none).filter Json.truthy

/-- The summary of the session in the database. -/
def storedSummary : Except PyError (Option SessionSummary) :=
  self.answer code world (.summaryBySessionId self.tenantId self.agentId sessionId)

/-- The latest messages of the session in the cache. -/
def cachedHistory (limit : Int) : List Json :=
  (self.answer code world (.lrange (makeListKey sessionId) (-limit) (-1))).toOption.getD []

/-- The records of the conversation in the database. -/
def storedHistory (limit : Int) : Except PyError (List (MemoryRecord × PyFloat)) :=
  self.answer code world (.searchByVector self.tenantId self.agentId (List.replicate 1536 0) "conversation"
    .session limit (some sessionId))

/-- The request does not write to the cache of the sessions: it is about another session, finds what it
looks for in the cache, has nothing to write, or is refused; or its pattern matches none of their keys. -/
def Spares (sessionIds : List String) : Prop :=
  self.circumstances.RefusesWrites ∨
    match self.operation with
    | .createSession sessionId _ => sessionId ∈ sessionIds →
      (self.cachedInfo code world sessionId).isSome = true ∨
        ∃ e, self.storedSummary code world sessionId = .error e
    | .getSessionMeta sessionId => sessionId ∈ sessionIds →
      (self.cachedInfo code world sessionId).isSome = true ∨
        ∀ summary, self.storedSummary code world sessionId ≠ .ok (some summary)
    | .addToSession sessionId _ _ _ => sessionId ∈ sessionIds →
      self.cachedInfo code world sessionId = none ∧
        ∃ e, self.storedSummary code world sessionId = .error e
    | .getSessionContext sessionId limit => sessionId ∈ sessionIds →
      (self.cachedHistory code world sessionId limit).isEmpty = false ∨
        ∀ records, self.storedHistory code world sessionId limit = .ok records → records = []
    | .endSession sessionId | .deleteSession sessionId =>
      ∀ key ∈ keysOf sessionIds, ¬Clears code self.circumstances sessionId world.keyspace key
    | .getFullHistory _ | .summarizeSession _ | .listSessions _ _ => True

end SessionStep

section
variable {code : UInt8 → Int} {c : Circumstances} {tenantId tenantId' agentId : UUID}
  {sessionIds : List String} {sessionId : String} {world : MemoryWorld} {α β : Type}

/-- The coroutine leaves the tenant what it sees. -/
abbrev MemoryService.Leaves (code : UInt8 → Int) (c : Circumstances) (tenantId : UUID)
    (sessionIds : List String) (world : MemoryWorld) (m : MemoryService α) : Prop :=
  Prog.Preserves (c.env code) (fun s => SameFor tenantId sessionIds s.toMemoryWorld world) (m.on ())

/-- Two parts that leave the tenant its own do so one after the other. -/
theorem leaves_bind {m : MemoryService α} {f : α → MemoryService β}
    (hm : m.Leaves code c tenantId sessionIds world)
    (hf : ∀ a, (f a).Leaves code c tenantId sessionIds world) :
    (m >>= f).Leaves code c tenantId sessionIds world := by
  rw [MemoryService.Leaves, Proc.on_bind]
  refine Prog.Preserves.bind _ hm ?_
  rintro ⟨e | a, _⟩
  · exact fun _ => id
  · exact hf a

/-- A function of the value changes nothing of that. -/
theorem leaves_map {m : MemoryService α} (hm : m.Leaves code c tenantId sessionIds world) (f : α → β) :
    (f <$> m).Leaves code c tenantId sessionIds world := by
  rw [map_eq_pure_bind]
  exact leaves_bind hm fun a _ => id

/-- Harmless calls leave the tenant its own. -/
theorem leaves_of_makes {m : MemoryService α} (h : m.Makes (Harmless c tenantId sessionIds)) :
    m.Leaves code c tenantId sessionIds world :=
  (h () trivial).preserves _ fun _ _ ho hsame => SameFor.harmless hsame ho

/-- A request on a session that the tenant does not use, or whose writes are refused, is harmless. -/
theorem harmless_of_sessionCall {o : MemoryCall} (h : SessionCall tenantId' sessionId o)
    (hne : tenantId' ≠ tenantId) (hcache : sessionId ∉ sessionIds ∨ c.RefusesWrites) :
    Harmless c tenantId sessionIds o := by
  rcases h with h | h
  · exact harmless_of_tenantCall h hne
  · rcases hcache with hmem | hrefuses
    · exact harmless_of_cacheCall h hmem
    · cases o with
      | setex key seconds value => exact fun _ => hrefuses (.setex key seconds value) trivial
      | append key entry maxEntries seconds =>
        exact fun _ => hrefuses (.append key entry maxEntries seconds) trivial
      | get _ | lrange _ _ _ => trivial
      | _ => exact h.elim

/-- The calls of another tenant do, if its session is none of the tenant's or the cache refuses what
it writes. -/
theorem leaves_of_sessionCall {m : MemoryService α} (h : m.Makes (SessionCall tenantId' sessionId))
    (hne : tenantId' ≠ tenantId) (hcache : sessionId ∉ sessionIds ∨ c.RefusesWrites) :
    m.Leaves code c tenantId sessionIds world :=
  leaves_of_makes (h.mono fun _ ho => harmless_of_sessionCall ho hne hcache)

/-- Where the cache refuses writes, nothing is cleared. -/
theorem not_clears_of_refusesWrites (h : c.RefusesWrites) (key : String) :
    ¬Clears code c sessionId world.keyspace key := by
  rintro ⟨⟨-, hdelete⟩, -⟩
  have hrefused := h (.delete []) trivial
  rw [MemoryCall.command, hdelete] at hrefused
  cases hrefused

/-- Summarising a session of another tenant leaves the tenant its own: it stores a row of the other. -/
theorem leaves_summarizeSession (service : SessionMemoryService) (hne : tenantId' ≠ tenantId) :
    (service.summarizeSession tenantId' agentId sessionId).Leaves code c tenantId sessionIds world := by
  refine leaves_of_makes ((service.makes_summarizeSession _ _ _).mono fun o ho => ?_)
  rcases ho with ho | rfl
  · exact harmless_of_tenantCall ho hne
  · trivial

/-- So does ending it, if its pattern matches no key of the tenant's sessions. -/
theorem leaves_endSession (service : SessionMemoryService) (hne : tenantId' ≠ tenantId)
    (h : ∀ key ∈ keysOf sessionIds, ¬Clears code c sessionId world.keyspace key) :
    (service.endSession tenantId' agentId sessionId).Leaves code c tenantId sessionIds world := by
  refine leaves_bind (leaves_summarizeSession service hne) fun summary => ?_
  refine leaves_bind (leaves_of_makes (SessionMemoryService.makes_get sessionId "meta" trivial))
    fun sessionMeta => ?_
  refine leaves_bind (preserves_clearSession h) fun _ => leaves_of_makes ?_
  refine keeps_bind (keeps_call trivial) fun endedAt => ?_
  exact keeps_bind (keeps_ofExcept _) fun _ => keeps_pure _

/-- So does deleting it, on the same condition. -/
theorem leaves_deleteSession (hne : tenantId' ≠ tenantId)
    (h : ∀ key ∈ keysOf sessionIds, ¬Clears code c sessionId world.keyspace key) :
    (SessionMemoryService.deleteSession tenantId' agentId sessionId).Leaves code c tenantId sessionIds
      world :=
  leaves_bind (preserves_clearSession h) fun _ => leaves_of_makes (keeps_tryCall hne)

end

/-! ## Requests that find what they look for -/

/-- A call that changes nothing that is stored. -/
def Reads : MemoryCall → Prop
  | .get _ | .lrange _ _ _ | .summaryBySessionId _ _ _ | .searchByVector _ _ _ _ _ _ _ => True
  | _ => False

section
variable {code : UInt8 → Int} {self : SessionStep} {world : MemoryWorld} {sessionId : String} {α : Type}

/-- The answer to a call in this state. -/
def SessionStep.Answers (code : UInt8 → Int) (self : SessionStep) (world : MemoryWorld) (o : MemoryCall)
    (r : o.Ans) : Prop :=
  r = self.answer code world o

/-- A call that only reads is answered from the world, which it leaves. -/
theorem answers_of_reads {o : MemoryCall} {s : MemoryState} (ho : Reads o) (hs : s = { world with }) :
    self.Answers code world o (self.circumstances.env code o s).1 ∧
      (self.circumstances.env code o s).2 = { world with } := by
  subst hs
  refine ⟨rfl, ?_⟩
  cases o with
  | get key => exact Circumstances.env_get _ _ _ _
  | lrange key start stop => exact Circumstances.env_lrange _ _ _ _ _ _
  | summaryBySessionId _ _ _ | searchByVector _ _ _ _ _ _ _ => rfl
  | _ => exact ho.elim

/-- A coroutine that only reads changes nothing that is stored. -/
theorem exec_of_reads {m : MemoryService α}
    (h : (m.on ()).Guar (self.Answers code world) Reads fun _ => True) :
    ((m.on ()).exec (self.circumstances.env code) { world with }).state = { world with } :=
  h.exec_answered (I := fun s : MemoryState => s = { world with }) _ (fun _ _ => answers_of_reads) rfl

/-- After a value was read, the program goes on with what is stored there. -/
theorem reads_get_bind {Q : Except PyError α × Unit → Prop} {key : String}
    {f : Option Json → MemoryService α}
    (h : ((f ((self.answer code world (.get (makeKey sessionId key))).toOption.getD none)).on ()).Guar
      (self.Answers code world) Reads Q) :
    ((SessionMemoryCache.get sessionId key >>= f).on ()).Guar (self.Answers code world) Reads Q := by
  rw [Proc.on_bind, SessionMemoryCache.on_get]
  refine ⟨trivial, fun r hr => ?_⟩
  subst hr
  exact h

/-- After a call that only reads, the program goes on with its answer. -/
theorem reads_tryCall_bind {β : Type} {Q : Except PyError α × Unit → Prop} {o : MemoryCall}
    {f : o.Ans → Except PyError β} {g : β → MemoryService α} (ho : Reads o)
    (h : ∀ a, f (self.answer code world o) = .ok a →
      ((g a).on ()).Guar (self.Answers code world) Reads Q) (herror : ∀ e, Q (.error e, ())) :
    (((Proc.tryCall o f : MemoryService β) >>= g).on ()).Guar (self.Answers code world) Reads Q := by
  refine Proc.guar_tryCall_bind ho (fun r a hr ha => ?_) fun _ e _ _ => herror e
  subst hr
  exact h a ha

open SessionMemoryService

variable {service : SessionMemoryService}

/-- Creating a session only reads if the session is there, or its summary cannot be read. -/
theorem reads_createSession {metadata : Option Dict}
    (h : (self.cachedInfo code world sessionId).isSome = true ∨
      ∃ e, self.storedSummary code world sessionId = .error e) :
    ((service.createSession self.tenantId self.agentId sessionId metadata).on ()).Guar
      (self.Answers code world) Reads fun _ => True := by
  refine reads_get_bind ?_
  split
  · trivial
  · next hnone =>
    refine reads_tryCall_bind trivial (fun summary hsummary => ?_) fun _ => trivial
    obtain ⟨e, he⟩ := h.resolve_left (by rw [SessionStep.cachedInfo, hnone]; exact Bool.false_ne_true)
    cases hsummary.symm.trans he

/-- Reading its description only reads if it is there, or there is no summary to restore it from. -/
theorem reads_getSessionMeta
    (h : (self.cachedInfo code world sessionId).isSome = true ∨
      ∀ summary, self.storedSummary code world sessionId ≠ .ok (some summary)) :
    ((service.getSessionMeta self.tenantId self.agentId sessionId).on ()).Guar
      (self.Answers code world) Reads fun _ => True := by
  refine reads_get_bind ?_
  split
  · trivial
  · next hnone =>
    refine reads_tryCall_bind trivial (fun summary hsummary => ?_) fun _ => trivial
    split
    · trivial
    · next summary =>
      have hno := h.resolve_left (by rw [SessionStep.cachedInfo, hnone]; exact Bool.false_ne_true)
      exact absurd hsummary (hno summary)

/-- Adding a message only reads if neither a description nor a summary can be had. -/
theorem reads_addToSession {role content : String} {metadata : Option Dict}
    (hinfo : self.cachedInfo code world sessionId = none)
    (hsummary : ∃ e, self.storedSummary code world sessionId = .error e) :
    ((service.addToSession self.tenantId self.agentId sessionId role content metadata).on ()).Guar
      (self.Answers code world) Reads fun _ => True := by
  have hraises : ((service.getSessionMeta self.tenantId self.agentId sessionId).on ()).Guar
      (self.Answers code world) Reads fun r => ∃ e, r.1 = .error e := by
    obtain ⟨e, he⟩ := hsummary
    refine reads_get_bind ?_
    split
    · next existing hsome => cases hinfo.symm.trans hsome
    · refine reads_tryCall_bind trivial (fun summary hfound => ?_) fun e => ⟨e, rfl⟩
      cases hfound.symm.trans he
  have hinfo' : ((service.getOrCreateSession self.tenantId self.agentId sessionId).on ()).Guar
      (self.Answers code world) Reads fun r => ∃ e, r.1 = .error e := by
    rw [getOrCreateSession, Proc.on_bind]
    exact Proc.guar_bind hraises (fun _ _ h => h.elim fun _ he => by cases he) fun e _ _ => ⟨e, rfl⟩
  rw [addToSession, Proc.on_bind]
  exact Proc.guar_bind hinfo' (fun _ _ h => h.elim fun _ he => by cases he) fun _ _ _ => trivial

/-- Reading the context only reads if there are messages, or nothing to restore them from. -/
theorem reads_getSessionContext {limit : Int}
    (h : (self.cachedHistory code world sessionId limit).isEmpty = false ∨
      ∀ records, self.storedHistory code world sessionId limit = .ok records → records = []) :
    ((service.getSessionContext self.tenantId self.agentId sessionId limit).on ()).Guar
      (self.Answers code world) Reads fun _ => True := by
  rw [getSessionContext, Proc.on_bind, on_getRecentHistory]
  refine ⟨trivial, fun r hr => ?_⟩
  subst hr
  change ((if (self.cachedHistory code world sessionId limit).isEmpty then _ else _ :
    MemoryService _).on ()).Guar _ _ _
  split
  · next hempty =>
    refine reads_tryCall_bind trivial (fun records hrecords => ?_) fun _ => trivial
    have hnone := h.resolve_left (by rw [hempty]; exact Bool.noConfusion) records hrecords
    subst hnone
    trivial
  · trivial

end

/-! ## Runs -/

section
variable {code : UInt8 → Int} {service : SessionMemoryService} {tenantId : UUID}
  {sessionIds : List String} {world world' : MemoryWorld}

/-- A world is the same as itself for a tenant. -/
theorem SameFor.refl (world : MemoryWorld) : SameFor tenantId sessionIds world world :=
  ⟨fun _ _ => rfl, rfl⟩

/-- Worlds that are the same as a third are the same. -/
theorem SameFor.trans {world'' : MemoryWorld} (h : SameFor tenantId sessionIds world world')
    (h' : SameFor tenantId sessionIds world' world'') : SameFor tenantId sessionIds world world'' :=
  ⟨fun key hkey => (h.cache key hkey).trans (h'.cache key hkey), h.rows.trans h'.rows⟩

namespace SessionStep

variable {self : SessionStep}

/-- A request of the tenant on a session that it uses returns the same, and leaves it the same. -/
theorem step_alike (htenant : self.tenantId = tenantId)
    (hmem : ∀ sessionId, self.operation.sessionId = some sessionId → sessionId ∈ sessionIds)
    (hsame : SameFor tenantId sessionIds world world') :
    self.returns code service world = self.returns code service world' ∧
      SameFor tenantId sessionIds (self.step code service world) (self.step code service world') := by
  subst htenant
  have halike : (self.program service).Alike code self.circumstances self.tenantId sessionIds :=
    self.alike_program service hmem
  have hstart : SeenAlike self.tenantId sessionIds { world with } { world' with } := ⟨hsame, rfl⟩
  have hresult := halike.result_eq hstart
  obtain ⟨hstate, -⟩ := (halike _ _ hstart).2
  refine ⟨congrArg (Option.map Prod.fst) hresult, hstate.cache, ?_⟩
  unfold step
  cases self.committed with
  | false => exact hsame.rows
  | true => exact hstate.rows

/-- A request of another that spares the tenant's sessions leaves the tenant what it sees. -/
theorem exec_of_spares (hne : self.tenantId ≠ tenantId) (h : self.Spares code world sessionIds) :
    SameFor tenantId sessionIds (self.exec code service world).state.toMemoryWorld world := by
  have hleaves {α : Type} {m : MemoryService α} {f : α → SessionResult}
      (hprogram : self.program service = f <$> m)
      (hm : m.Leaves code self.circumstances tenantId sessionIds world) :
      SameFor tenantId sessionIds (self.exec code service world).state.toMemoryWorld world := by
    rw [exec, hprogram]
    exact leaves_map hm f { world with } (SameFor.refl world)
  have hreads {α : Type} {m : MemoryService α} {f : α → SessionResult}
      (hprogram : self.program service = f <$> m)
      (hm : (m.on ()).Guar (self.Answers code world) Reads fun _ => True) :
      SameFor tenantId sessionIds (self.exec code service world).state.toMemoryWorld world := by
    rw [exec, hprogram, exec_of_reads (Proc.guar_map hm)]
    exact SameFor.refl world
  -- A request on one session writes to another's cache, is refused, or writes nothing at all.
  have hsession {α : Type} {m : MemoryService α} {f : α → SessionResult} {sessionId : String}
      (hprogram : self.program service = f <$> m) (hm : m.Makes (SessionCall self.tenantId sessionId))
      (h : self.circumstances.RefusesWrites ∨ (sessionId ∈ sessionIds →
        (m.on ()).Guar (self.Answers code world) Reads fun _ => True)) :
      SameFor tenantId sessionIds (self.exec code service world).state.toMemoryWorld world := by
    by_cases hmem : sessionId ∈ sessionIds
    · rcases h with hrefuses | hguar
      · exact hleaves hprogram (leaves_of_sessionCall hm hne (.inr hrefuses))
      · exact hreads hprogram (hguar hmem)
    · exact hleaves hprogram (leaves_of_sessionCall hm hne (.inl hmem))
  have hclears (sessionId : String) (h : self.circumstances.RefusesWrites ∨
      ∀ key ∈ keysOf sessionIds, ¬Clears code self.circumstances sessionId world.keyspace key) :
      ∀ key ∈ keysOf sessionIds, ¬Clears code self.circumstances sessionId world.keyspace key :=
    h.elim (fun hrefuses key _ => not_clears_of_refusesWrites hrefuses key) id
  unfold Spares at h
  cases hoperation : self.operation with
  | createSession sessionId metadata =>
    rw [hoperation] at h
    exact hsession (by rw [program, hoperation]) (service.makes_createSession _ _ _ _)
      (h.imp_right fun h hmem => reads_createSession (h hmem))
  | getSessionMeta sessionId =>
    rw [hoperation] at h
    exact hsession (by rw [program, hoperation]) (service.makes_getSessionMeta _ _ _)
      (h.imp_right fun h hmem => reads_getSessionMeta (h hmem))
  | addToSession sessionId role content metadata =>
    rw [hoperation] at h
    exact hsession (by rw [program, hoperation]) (service.makes_addToSession _ _ _ _ _ _)
      (h.imp_right fun h hmem => reads_addToSession (h hmem).1 (h hmem).2)
  | getSessionContext sessionId limit =>
    rw [hoperation] at h
    exact hsession (by rw [program, hoperation]) (service.makes_getSessionContext _ _ _ _)
      (h.imp_right fun h hmem => reads_getSessionContext (h hmem))
  | getFullHistory sessionId =>
    exact hleaves (m := SessionMemoryService.getFullHistory sessionId) (by rw [program, hoperation])
      (leaves_of_makes (SessionMemoryService.makes_getAllHistory sessionId trivial))
  | summarizeSession sessionId =>
    exact hleaves (by rw [program, hoperation]) (leaves_summarizeSession service hne)
  | endSession sessionId =>
    rw [hoperation] at h
    exact hleaves (by rw [program, hoperation]) (leaves_endSession service hne (hclears sessionId h))
  | listSessions limit offset =>
    refine hleaves (m := SessionMemoryService.listSessions self.tenantId self.agentId limit offset)
      (by rw [program, hoperation]) (leaves_of_makes ?_)
    exact keeps_bind (keeps_tryCall trivial) fun _ => keeps_pure _
  | deleteSession sessionId =>
    rw [hoperation] at h
    exact hleaves (by rw [program, hoperation]) (leaves_deleteSession hne (hclears sessionId h))

/-- A request of another tenant that spares the sessions leaves the world the same for the tenant. -/
theorem step_of_spares (hne : self.tenantId ≠ tenantId) (h : self.Spares code world sessionIds) :
    SameFor tenantId sessionIds (self.step code service world) world := by
  have hexec : SameFor tenantId sessionIds (self.exec code service world).state.toMemoryWorld world :=
    exec_of_spares hne h
  refine ⟨hexec.cache, ?_⟩
  unfold step
  cases self.committed with
  | false => rfl
  | true => exact hexec.rows

end SessionStep

end

/-- The sessions that the tenant uses. -/
def sessionsOf (tenantId : UUID) (steps : List SessionStep) : List String :=
  (steps.filter fun step => step.tenantId = tenantId).filterMap fun step => step.operation.sessionId

/-- The tenant gets from its requests what it gets if the others make none, and cannot tell what is stored
afterwards apart. -/
def Isolated (code : UInt8 → Int) (service : SessionMemoryService) (tenantId : UUID) (world : MemoryWorld)
    (steps : List SessionStep) : Prop :=
  Unaffected (fun step world => step.step code service world)
    (fun step world => step.returns code service world) (fun step => step.tenantId = tenantId)
    (SameFor tenantId (sessionsOf tenantId steps)) world steps

/-- A tenant is isolated from the others in every run in which their requests spare the sessions that it
uses. -/
theorem isolated_of_spares (code : UInt8 → Int) (service : SessionMemoryService) (tenantId : UUID)
    (world : MemoryWorld) (steps : List SessionStep)
    (h : Along (fun step world => step.step code service world)
      (fun world step => step.tenantId ≠ tenantId →
        step.Spares code world (sessionsOf tenantId steps)) world steps) :
    Isolated code service tenantId world steps := by
  refine unaffected (SameFor.refl world) (fun step hstep htenant s s' hsame => ?_)
    (h.imp fun s step _ hspares hne s' hsame => ?_)
  · refine step.step_alike htenant (fun sessionId hsession => ?_) hsame
    exact List.mem_filterMap.2 ⟨step, List.mem_filter.2 ⟨hstep, decide_eq_true htenant⟩, hsession⟩
  · exact (step.step_of_spares hne (hspares hne)).trans hsame

/-! ## Two tenants -/

namespace SessionIsolation

/-- Tenant 1 creates a session, and then tenant 2 asks for the description of its own. -/
def steps (sessionId sessionId' : String) : List SessionStep :=
  [⟨⟨1⟩, ⟨1⟩, .createSession sessionId (some [("owner", .str "first")]), .calm 0, true⟩,
    ⟨⟨2⟩, ⟨2⟩, .getSessionMeta sessionId', .calm 0, true⟩]

/-- The request returned a description. -/
def givesInfo : Option (Except PyError SessionResult) → Bool
  | some (.ok (.info info)) => info.isSome
  | _ => false

end SessionIsolation

/-- If tenant 1 creates a session of the same name, tenant 2 is given its description: the keys of the cache
do not name the tenant. -/
theorem not_isolated : ¬Isolated (fun _ => 0) .plain ⟨2⟩ {}
    (SessionIsolation.steps "s" "s") := by
  rintro ⟨houtputs, -⟩
  have hgiven := congrArg (List.map SessionIsolation.givesInfo) houtputs
  revert hgiven
  decide +kernel

/-- Sessions of other names do not meet. -/
theorem isolated_of_spares_other : Isolated (fun _ => 0) .plain ⟨2⟩ {}
    (SessionIsolation.steps "s" "t") := by
  have hother : "s" ∉ sessionsOf ⟨2⟩ (SessionIsolation.steps "s" "t") := by decide
  refine isolated_of_spares _ _ _ _ _
    ⟨fun _ => .inr fun hmem => absurd hmem hother, fun htenant => absurd rfl htenant, trivial⟩

end AgentRuntime
