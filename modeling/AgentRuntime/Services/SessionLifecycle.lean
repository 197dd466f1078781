import AgentRuntime.Interaction.History
import AgentRuntime.Services.SessionIsolation
import AgentRuntime.Services.StoredSummaries

/-!
# Adding, summarizing and ending, again and again

A session is summarized whenever it is asked for and whenever it is ended, and each time a row is inserted;
the table takes one row a session. So a session is summarized once: a second summary of it is refused, and an
end with it, unless its conversation is empty by then. `composes_iff` says of every sequence of calls that
they compose exactly if none of them has a second summary to store, and every end finds the keys of its
session.
-/

namespace AgentRuntime

open Interaction SessionMemoryCache Proc

/-! ## Summaries can be built of messages -/

namespace SessionMemoryService

/-- The contents of a role are texts. -/
theorem contentsOf_of_messages (role : String) {history : List Json}
    (h : ∀ message ∈ history, IsMessage message) :
    ∃ contents : List String, contentsOf role history = .ok (contents.map .str) := by
  induction history with
  | nil => exact ⟨[], rfl⟩
  | cons message history ih =>
    obtain ⟨contents, hcontents⟩ := ih fun message' hmem => h message' (List.mem_cons_of_mem _ hmem)
    obtain ⟨entries, content, rfl, hcontent⟩ := h message List.mem_cons_self
    cases hrole : hasRole role entries with
    | true =>
      refine ⟨content :: contents, ?_⟩
      simp only [contentsOf, Json.asDict, bind, Except.bind, hrole, if_true, hcontent, hcontents]
      rfl
    | false =>
      refine ⟨contents, ?_⟩
      simp only [contentsOf, Json.asDict, bind, Except.bind, hrole, Bool.false_eq_true, if_false, hcontents]

/-- Contents that are texts are taken as they are. -/
theorem texts_of_strings (item : Nat) (contents : List String) :
    texts item (contents.map .str) = .ok contents := by
  induction contents generalizing item with
  | nil => rfl
  | cons content contents ih =>
    rw [List.map_cons, texts, ih]
    rfl

/-- A part of a summary can be made of them. -/
theorem summaryPart_of_strings (heading : String) (contents : List String) :
    ∃ part, summaryPart heading (contents.map .str) = .ok part := by
  unfold summaryPart
  split
  · exact ⟨[], rfl⟩
  · rw [← List.map_take, joined, texts_of_strings]
    exact ⟨_, rfl⟩

/-- A summary can be built of every conversation that consists of messages. -/
theorem createExtractiveSummary_of_messages {history : List Json}
    (h : ∀ message ∈ history, IsMessage message) :
    ∃ summary, createExtractiveSummary history = .ok summary := by
  obtain ⟨userMessages, huser⟩ := contentsOf_of_messages "user" h
  obtain ⟨assistantMessages, hassistant⟩ := contentsOf_of_messages "assistant" h
  obtain ⟨asked, hasked⟩ := summaryPart_of_strings "User asked about: " userMessages
  obtain ⟨responded, hresponded⟩ := summaryPart_of_strings "Assistant responded to: " assistantMessages
  simp only [createExtractiveSummary, huser, hassistant, bind, Except.bind, hasked, hresponded]
  exact ⟨_, rfl⟩

end SessionMemoryService

/-! ## Calls on one session -/

inductive LifecycleOperation where
  | addToSession (role content : String) (metadata : Option Dict)
  | summarizeSession
  | endSession

/-- An operation on the session, and what it meets. -/
structure LifecycleCall where
  operation : LifecycleOperation
  circumstances : Circumstances

/-- What is in the cache for a session: a dictionary as its description, and messages as its conversation. -/
structure HoldsSession (sessionId : String) (keyspace : MemoryKeyspace) : Prop where
  description : Redis.Holds (Redis.StringOf fun value => ∃ entries, value = .dict entries)
    (makeKey sessionId "meta") keyspace.store
  conversation : Redis.Holds (Redis.ListOf IsMessage) (makeListKey sessionId) keyspace.store

namespace LifecycleCall

open SessionMemoryService (storedHistory createExtractiveSummary)

variable (code : UInt8 → Int) (service : SessionMemoryService) (tenantId agentId : UUID) (sessionId : String)
  (world : MemoryWorld) (call : LifecycleCall)

def program : MemoryService Unit :=
  match call.operation with
  | .addToSession role content metadata =>
    (fun _ => ()) <$> service.addToSession tenantId agentId sessionId role content metadata
  | .summarizeSession => (fun _ => ()) <$> service.summarizeSession tenantId agentId sessionId
  | .endSession => (fun _ => ()) <$> service.endSession tenantId agentId sessionId

/-- What is stored after the call, whether it returns or raises. -/
def step : MemoryWorld :=
  (((call.program service tenantId agentId sessionId).on ()).exec (call.circumstances.env code)
    { world with }).state.toMemoryWorld

/-- The call returns. -/
def Returns : Prop :=
  ∃ s, Ends (call.circumstances.env code) { world with } (call.program service tenantId agentId sessionId)
    (.ok ()) s

/-- The conversation at the call. -/
def history : List Json := storedHistory code call.circumstances sessionId world

/-- If there is a conversation, the summary that is stored of the session is the one for it. -/
def StoresSummary (tables : MemoryTables) : Prop :=
  call.history code sessionId world ≠ [] →
    ∃ summary row, createExtractiveSummary (call.history code sessionId world) = .ok summary ∧
      tables.getBySessionId tenantId agentId sessionId = .ok (some row) ∧ row.summaryCiphertext = summary ∧
        row.metadata.get? "message_count" = some (.int (call.history code sessionId world).length)

/-- No entry of the session is left in the cache. -/
def Gone (keyspace : MemoryKeyspace) : Prop :=
  ∀ slot : Slot, Redis.lookup call.circumstances.redisTime (slot.redisKey sessionId) keyspace.store = none

/-- The call does what it is to: summarizing and ending return and store the summary, and nothing is left of a
session that was ended. -/
def Composes : Prop :=
  match call.operation with
  | .addToSession _ _ _ => True
  | .summarizeSession =>
    call.Returns code service tenantId agentId sessionId world ∧
      call.StoresSummary code tenantId agentId sessionId world
        (call.step code service tenantId agentId sessionId world).tables
  | .endSession =>
    call.Returns code service tenantId agentId sessionId world ∧
      call.StoresSummary code tenantId agentId sessionId world
        (call.step code service tenantId agentId sessionId world).tables ∧
      call.Gone sessionId (call.step code service tenantId agentId sessionId world).keyspace

/-- Cache and database answer, and the memory of a summary is written. -/
structure Works : Prop where
  answers : ∀ o, call.circumstances.refuses o = none
  writes : ∀ (s : MemoryState) metadata summary, s.tables.records = world.tables.records →
    s.tables.policies = world.tables.policies →
    createExtractiveSummary (call.history code sessionId world) = .ok summary →
    ∃ records s', Ends (call.circumstances.env code) s (service.writeService.writeMemory tenantId agentId
      .durable "session_summary" metadata (some sessionId) summary) (.ok records) s'

/-- There is no conversation in the cache, or no summary of the session in the database. -/
def MaySummarize : Prop :=
  Redis.lookup call.circumstances.redisTime (makeListKey sessionId) world.keyspace.store = none ∨
    world.tables.summaries.any (MemoryTables.OfSession tenantId agentId sessionId) = false

/-- The pattern of the session matches its own keys that are there. -/
def FindsOwn : Prop :=
  ∀ slot : Slot, (Redis.lookup call.circumstances.redisTime (slot.redisKey sessionId)
    world.keyspace.store).isSome = true →
      Redis.Glob.globMatches code (pattern sessionId) (slot.redisKey sessionId) = true

/-- What the call needs: nothing for adding, and for summarizing that no summary was stored before. -/
def Allowed : Prop :=
  match call.operation with
  | .addToSession _ _ _ => True
  | .summarizeSession => call.MaySummarize tenantId agentId sessionId world
  | .endSession => call.MaySummarize tenantId agentId sessionId world ∧ call.FindsOwn code sessionId world

end LifecycleCall

/-! ## What the calls leave in the cache -/

section
variable {code : UInt8 → Int} {c : Circumstances} {tenantId agentId : UUID} {sessionId : String}
  {o : MemoryCall}

/-- Statements leave the cache alone. -/
theorem Circumstances.keyspace_of_tenantCall (h : TenantCall tenantId o) (s : MemoryState) :
    (c.env code o s).2.keyspace = s.keyspace := by
  cases o with
  | recordCreate _ | summaryCreate _ | summaryDelete _ _ _ =>
    simp only [env, execute]
    split
    · rfl
    · rfl
  | policyByTenantScope _ _ | countByTenant _ _ | storageMb _ | generateEmbedding _ _ | encrypt _ _
  | summaryBySessionId _ _ _ | summariesByAgent _ _ _ _ | searchByVector _ _ _ _ _ _ _
  | outboxCreate _ _ _ _ | now | newUUID => rfl
  | _ => exact h.elim

namespace HoldsSession

/-- A dictionary under the key of the description is one. -/
theorem setex {keyspace : MemoryKeyspace} (h : HoldsSession sessionId keyspace) (now : Nat) (seconds : Int)
    (entries : Dict) :
    HoldsSession sessionId (keyspace.setex now (makeKey sessionId "meta") seconds (.dict entries)).2 := by
  unfold MemoryKeyspace.setex
  split
  · exact h
  · refine ⟨Redis.Holds.set_self ⟨_, rfl, entries, rfl⟩ _, h.conversation.of_eq ?_⟩
    exact Redis.set_of_ne (makeKey_ne_makeListKey sessionId sessionId).symm _ _

/-- A message that is appended is one of the conversation. -/
theorem append {keyspace : MemoryKeyspace} (h : HoldsSession sessionId keyspace) (now : Nat)
    (maxEntries seconds : Int) {message : Json} (hmessage : IsMessage message) :
    HoldsSession sessionId
      (keyspace.append now (makeListKey sessionId) message maxEntries seconds).2 := by
  refine ⟨h.description.of_eq ?_, ((h.conversation.rpush hmessage).ltrim _ _).expire _⟩
  exact MemoryKeyspace.append_of_ne (makeKey_ne_makeListKey sessionId sessionId) _ _ _

/-- Every command on the session keeps it what it is. -/
theorem env {s : MemoryState} (h : HoldsSession sessionId s.keyspace)
    (ho : StoringCall tenantId sessionId o ∨ SessionEntries.Removes o) :
    HoldsSession sessionId (c.env code o s).2.keyspace := by
  cases o with
  | setex key seconds value =>
    obtain ⟨rfl, entries, rfl⟩ := ho.resolve_right id
    simp only [Circumstances.env, Circumstances.redis, MemoryKeyspace.env]
    split
    · exact h
    · exact h.setex _ _ _
  | append key entry maxEntries seconds =>
    obtain ⟨rfl, hmessage⟩ := ho.resolve_right id
    simp only [Circumstances.env, Circumstances.redis, MemoryKeyspace.env]
    split
    · exact h
    · exact h.append _ _ _ hmessage
  | get key =>
    rw [c.env_get]
    exact h
  | lrange key start stop =>
    rw [c.env_lrange]
    exact h
  | scan pattern =>
    rw [env_scan]
    exact h
  | delete keys =>
    rw [env_delete]
    split
    · exact h
    · exact ⟨h.description.del c.redisTime keys, h.conversation.del c.redisTime keys⟩
  | expire key seconds =>
    simp only [Circumstances.env, Circumstances.redis, MemoryKeyspace.env]
    split
    · exact h
    · exact ⟨h.description.expire _, h.conversation.expire _⟩
  | _ =>
    rw [Circumstances.keyspace_of_tenantCall ((ho.resolve_right id).resolve_right id)]
    exact h

end HoldsSession

end

namespace LifecycleCall

open SessionMemoryService (storedHistory createExtractiveSummary summaryRow finalMessageCount
  ends_getFullHistory createExtractiveSummary_of_messages makes_get)

variable {code : UInt8 → Int} {service : SessionMemoryService} {tenantId agentId : UUID} {sessionId : String}
  {world : MemoryWorld} {call : LifecycleCall}

/-- What a call makes. -/
theorem makes_program (call : LifecycleCall) :
    (call.program service tenantId agentId sessionId).Makes
      fun o => StoringCall tenantId sessionId o ∨ SessionEntries.Removes o := by
  have hsummarize : (service.summarizeSession tenantId agentId sessionId).Makes
      fun o => StoringCall tenantId sessionId o ∨ SessionEntries.Removes o := by
    refine (service.makes_summarizeSession tenantId agentId sessionId).mono fun o ho => .inl ?_
    rcases ho with ho | rfl
    · cases o with
      | setex _ _ _ | append _ _ _ _ => exact ho.elim
      | _ => exact .inl ho
    · exact .inr rfl
  obtain ⟨operation, c⟩ := call
  cases operation with
  | addToSession role content metadata =>
    refine keeps_map ?_
    exact (service.stores_addToSession tenantId agentId sessionId role content metadata).mono fun _ => .inl
  | summarizeSession => exact keeps_map hsummarize
  | endSession =>
    refine keeps_map ?_
    refine keeps_bind hsummarize fun summary => ?_
    refine keeps_bind (makes_get sessionId "meta" (.inl (.inr rfl))) fun sessionMeta => ?_
    refine keeps_bind ?_ fun _ => ?_
    · intro _ _
      rw [on_clearSession]
      refine ⟨.inr trivial, fun r _ => ?_⟩
      rcases r with e | _ | ⟨key, keys⟩
      · trivial
      · trivial
      · exact ⟨.inr trivial, fun _ _ => trivial⟩
    · refine keeps_bind (keeps_call (.inl (.inl trivial))) fun endedAt => ?_
      exact keeps_bind (keeps_ofExcept _) fun finalMessageCount => keeps_pure _

/-- Every call keeps the session's part of the cache what it is. -/
theorem holdsSession_step (h : HoldsSession sessionId world.keyspace) :
    HoldsSession sessionId (call.step code service tenantId agentId sessionId world).keyspace :=
  (call.makes_program () trivial).exec_state (I := fun s : MemoryState => HoldsSession sessionId s.keyspace) _
    (fun _ _ ho hs => hs.env ho) h

/-! ## One call -/

/-- The conversation is read from the cache, and consists of messages. -/
theorem history_spec (code : UInt8 → Int) (hholds : HoldsSession sessionId world.keyspace)
    (hanswers : ∀ o, call.circumstances.refuses o = none) :
    (call.history code sessionId world = [] ↔
      Redis.lookup call.circumstances.redisTime (makeListKey sessionId) world.keyspace.store = none) ∧
    ∀ message ∈ call.history code sessionId world, IsMessage message := by
  have hlist : ∃ messages, Redis.listOf call.circumstances.redisTime (makeListKey sessionId)
      world.keyspace.store = .ok messages ∧ (messages = [] ↔ Redis.lookup call.circumstances.redisTime
        (makeListKey sessionId) world.keyspace.store = none) ∧ ∀ message ∈ messages, IsMessage message :=
    hholds.conversation.listOf_eq
  obtain ⟨messages, hmessages, hspec⟩ := hlist
  have hhistory : call.history code sessionId world = messages := by
    simp only [history, storedHistory, Circumstances.env, Circumstances.redis,
      MemoryKeyspace.env, MemoryCall.command, hanswers, hmessages, Except.map, Redis.range_all]
    rfl
  rwa [hhistory]

/-- An insert is answered by the table. -/
theorem ends_summaryCreate (code : UInt8 → Int) (hanswers : ∀ o, call.circumstances.refuses o = none)
    (summary : SessionSummary) (s : MemoryState) :
    Ends (call.circumstances.env code) s (tryCall (.summaryCreate summary) id)
      (s.tables.createSummary summary).1 { s with tables := (s.tables.createSummary summary).2 } := by
  have hends : Ends (call.circumstances.env code) s
      (tryCall (.summaryCreate summary) id : MemoryService SessionSummary) _ _ := ends_tryCall _ _
  have hanswer : call.circumstances.env code (.summaryCreate summary) s =
      ((s.tables.createSummary summary).1, { s with tables := (s.tables.createSummary summary).2 }) :=
    Circumstances.execute_of_answered (hanswers _) s _
  rwa [hanswer] at hends

/-- The memory of a summary changes neither the cache nor the summaries. -/
theorem kept_of_writeMemory {s s' : MemoryState} {metadata : Dict} {content : String}
    {x : Except PyError (List MemoryRecord)}
    (h : Ends (call.circumstances.env code) s (service.writeService.writeMemory tenantId agentId .durable
      "session_summary" metadata (some sessionId) content) x s') :
    s'.keyspace = s.keyspace ∧ s'.tables.summaries = s.tables.summaries := by
  rw [← h.2]
  refine (service.writeService.makes_writeMemory tenantId agentId .durable "session_summary" metadata
    (some sessionId) content () trivial).exec_state
    (I := fun s' : MemoryState => s'.keyspace = s.keyspace ∧ s'.tables.summaries = s.tables.summaries) _
    (fun o s' ho hs' => ⟨?_, ?_⟩) ⟨rfl, rfl⟩
  · exact (Circumstances.keyspace_of_tenantCall (tenantCall_of_writeCall ho) s').trans hs'.1
  · exact (Circumstances.env_writeCall ho s').trans hs'.2

section
variable (hholds : HoldsSession sessionId world.keyspace)
  (hworks : call.Works code service tenantId agentId sessionId world)
include hholds hworks

/-- A conversation is summarized up to its insert. -/
theorem exists_summary (hhistory : call.history code sessionId world ≠ []) :
    ∃ summary, createExtractiveSummary (call.history code sessionId world) =
        .ok summary ∧
      ∀ x s', Ends (call.circumstances.env code) { world with draws := 4 }
        (tryCall (.summaryCreate (summaryRow call.circumstances tenantId agentId
            sessionId (call.history code sessionId world) summary)) id >>= fun savedSummary => do
          let _ ← service.writeService.writeMemory tenantId agentId .durable "session_summary"
            [("session_id", .str sessionId), ("summary_id", .str savedSummary.id.str),
              ("message_count", .int (call.history code sessionId world).length)] (some sessionId) summary
          return some savedSummary) x s' →
        Ends (call.circumstances.env code) { world with }
          (service.summarizeSession tenantId agentId sessionId) x s' := by
  have hmessages : ∀ message ∈ call.history code sessionId world, IsMessage message :=
    (history_spec code hholds hworks.answers).2
  obtain ⟨summary, hsummary⟩ := createExtractiveSummary_of_messages hmessages
  have hbuilt (s : MemoryState) : Ends (call.circumstances.env code) s
      (Proc.ofExcept (createExtractiveSummary (call.history code sessionId world)))
      (.ok summary) s := by
    rw [hsummary]
    exact ends_ofExcept _
  have hempty : ¬(storedHistory code call.circumstances sessionId world).isEmpty =
      true := fun h => hhistory (List.isEmpty_iff.1 h)
  refine ⟨summary, hsummary, fun x s' hends => ?_⟩
  refine ends_getFullHistory.bind ?_
  rw [if_neg hempty]
  refine (hbuilt _).bind ?_
  exact (ends_call _).bind ((ends_call _).bind ((ends_call _).bind ((ends_call _).bind hends)))

/-- A session is summarized whose conversation is empty, or of which no summary is stored. -/
theorem ends_summarizeSession (hmay : call.MaySummarize tenantId agentId sessionId world) :
    ∃ summary s', Ends (call.circumstances.env code) { world with }
      (service.summarizeSession tenantId agentId sessionId) (.ok summary) s' ∧
        s'.keyspace = world.keyspace ∧
          call.StoresSummary code tenantId agentId sessionId world s'.tables := by
  have hspec := history_spec code hholds hworks.answers
  by_cases hhistory : call.history code sessionId world = []
  · refine ⟨none, { world with }, ?_, rfl, fun hne => absurd hhistory hne⟩
    refine ends_getFullHistory.bind ?_
    have hempty : (storedHistory code call.circumstances sessionId world).isEmpty =
        true := List.isEmpty_iff.2 hhistory
    rw [if_pos hempty]
    exact ends_pure none
  · have hfirst : world.tables.summaries.any (MemoryTables.OfSession tenantId agentId sessionId) = false :=
      hmay.resolve_left fun hnone => hhistory (hspec.1.2 hnone)
    obtain ⟨summary, hsummary, hends⟩ := exists_summary hholds hworks hhistory
    let row : SessionSummary := summaryRow call.circumstances tenantId agentId sessionId
      (call.history code sessionId world) summary
    have hcreate : world.tables.createSummary row =
        (.ok row, { world.tables with summaries := world.tables.summaries ++ [row] }) :=
      if_neg (Bool.eq_false_iff.1 hfirst)
    have hinsert := ends_summaryCreate code hworks.answers row { world with draws := 4 }
    rw [hcreate] at hinsert
    obtain ⟨records, s', hwrite⟩ := hworks.writes
      { world with tables := { world.tables with summaries := world.tables.summaries ++ [row] }, draws := 4 }
      [("session_id", .str sessionId), ("summary_id", .str row.id.str),
        ("message_count", .int (call.history code sessionId world).length)] summary rfl rfl hsummary
    obtain ⟨hkeyspace, hsummaries⟩ := kept_of_writeMemory hwrite
    refine ⟨some row, s', hends _ _ (hinsert.bind (hwrite.bind (ends_pure (some row)))), hkeyspace, ?_⟩
    refine fun _ => ⟨summary, row, hsummary, ?_, rfl, rfl⟩
    have hnone : world.tables.summaries.filter (MemoryTables.OfSession tenantId agentId sessionId) = [] := by
      rw [List.filter_eq_nil_iff]
      exact List.any_eq_false.1 hfirst
    have hrow : [row].filter (MemoryTables.OfSession tenantId agentId sessionId) = [row] :=
      List.filter_cons_of_pos (decide_eq_true ⟨rfl, rfl, rfl⟩)
    rw [MemoryTables.getBySessionId, hsummaries, List.filter_append, hnone, hrow]
    rfl

/-- Otherwise the second summary is refused. -/
theorem raises_summarizeSession (hmay : ¬call.MaySummarize tenantId agentId sessionId world) :
    ∃ e s', Ends (call.circumstances.env code) { world with }
      (service.summarizeSession tenantId agentId sessionId) (.error e) s' := by
  have hspec := history_spec code hholds hworks.answers
  obtain ⟨hlookup, hany⟩ := not_or.1 hmay
  obtain ⟨summary, -, hends⟩ := exists_summary hholds hworks fun hnil => hlookup (hspec.1.1 hnil)
  let row : SessionSummary := summaryRow call.circumstances tenantId agentId sessionId
    (call.history code sessionId world) summary
  have hcreate : world.tables.createSummary row = (.error (.external "IntegrityError"), world.tables) :=
    if_pos (Bool.not_eq_false _ ▸ hany)
  have hinsert := ends_summaryCreate code hworks.answers row { world with draws := 4 }
  rw [hcreate] at hinsert
  exact ⟨_, _, hends _ _ hinsert.bind_error⟩

end

/-- The description is read, and is a dictionary if there is one. -/
theorem ends_getDescription (code : UInt8 → Int) {s : MemoryState} (hholds : HoldsSession sessionId s.keyspace)
    (hanswers : ∀ o, call.circumstances.refuses o = none) :
    ∃ sessionMeta count, Ends (call.circumstances.env code) s (SessionMemoryCache.get sessionId "meta")
        (.ok sessionMeta) s ∧ finalMessageCount sessionMeta = .ok count := by
  have hread : ∃ found, Redis.getString call.circumstances.redisTime (makeKey sessionId "meta")
      s.keyspace.store = .ok found ∧ ∀ value ∈ found, ∃ entries, value = .dict entries :=
    hholds.description.getString_eq
  obtain ⟨found, hfound, hdict⟩ := hread
  have hends : Ends (call.circumstances.env code) s (SessionMemoryCache.get sessionId "meta")
      (.ok found) s := by
    unfold Ends
    simp only [SessionMemoryCache.on_get, Prog.exec_call, Prog.exec_ret, Circumstances.env,
      Circumstances.redis, MemoryKeyspace.env, MemoryCall.command, hanswers, hfound, and_true]
    rfl
  unfold finalMessageCount
  cases hfilter : found.filter Json.truthy with
  | none => exact ⟨found, _, hends, by rw [hfilter]⟩
  | some sessionMeta =>
    obtain ⟨entries, rfl⟩ := hdict sessionMeta (Option.filter_eq_some_iff.1 hfilter).1
    exact ⟨found, _, hends, by rw [hfilter]; rfl⟩

/-- Nothing is left of the session exactly if its pattern matches all of its keys. -/
theorem gone_iff {s : MemoryState} (hanswers : ∀ o, call.circumstances.refuses o = none)
    (hkeyspace : s.keyspace = world.keyspace) :
    call.Gone sessionId
        (((clearSession sessionId).on ()).exec (call.circumstances.env code) s).state.keyspace ↔
      call.FindsOwn code sessionId world := by
  have hcleared := cleared code call.circumstances sessionId s
  rw [Gone, FindsOwn, ← hkeyspace]
  refine forall_congr' fun slot => ?_
  by_cases hclears : Clears code call.circumstances sessionId s.keyspace (slot.redisKey sessionId)
  · refine iff_of_true ?_ fun _ => hclears.2.2
    rw [Redis.lookup, hcleared.removed _ hclears]
    rfl
  · rw [Redis.lookup, hcleared.kept _ hclears]
    change Redis.lookup call.circumstances.redisTime (slot.redisKey sessionId) s.keyspace.store = none ↔ _
    constructor
    · intro hnone hsome
      rw [hnone] at hsome
      cases hsome
    · intro hmatches
      refine Option.not_isSome_iff_eq_none.1 fun hsome => hclears ?_
      exact ⟨⟨hanswers _, hanswers _⟩, hsome, hmatches hsome⟩

section
variable {α : Type} {m : MemoryService α} {s : MemoryState}
  (hprogram : call.program service tenantId agentId sessionId = (fun _ => ()) <$> m)
include hprogram

/-- A call whose program returns leaves what that has left. -/
theorem returns_of_ok {a : α} (hm : Ends (call.circumstances.env code) { world with } m (.ok a) s) :
    call.Returns code service tenantId agentId sessionId world ∧
      call.step code service tenantId agentId sessionId world = s.toMemoryWorld := by
  have hends := hm.map fun _ => ()
  rw [← hprogram] at hends
  exact ⟨⟨s, hends⟩, congrArg MemoryState.toMemoryWorld hends.2⟩

/-- A call whose program raises does not return. -/
theorem not_returns_of_error {e : PyError}
    (hm : Ends (call.circumstances.env code) { world with } m (.error e) s) :
    ¬call.Returns code service tenantId agentId sessionId world := by
  rintro ⟨s', hreturns⟩
  have hends := hm.map fun _ => ()
  rw [← hprogram] at hends
  cases (hends.unique hreturns).1

end

section
variable (hholds : HoldsSession sessionId world.keyspace)
  (hworks : call.Works code service tenantId agentId sessionId world)
include hholds hworks

/-- A session that may be summarized is ended. -/
theorem ends_endSession (hmay : call.MaySummarize tenantId agentId sessionId world) :
    ∃ info s', Ends (call.circumstances.env code) { world with }
      (service.endSession tenantId agentId sessionId) (.ok info) s' ∧
        call.StoresSummary code tenantId agentId sessionId world s'.tables ∧
          (call.Gone sessionId s'.keyspace ↔ call.FindsOwn code sessionId world) := by
  obtain ⟨summary, s, hsummarize, hkeyspace, hstores⟩ := ends_summarizeSession hholds hworks hmay
  obtain ⟨sessionMeta, count, hread, hcount⟩ :=
    ends_getDescription code (hkeyspace.symm ▸ hholds) hworks.answers
  have hcleared := cleared code call.circumstances sessionId s
  obtain ⟨n, hn⟩ := hcleared.result
  let s' : MemoryState := (((clearSession sessionId).on ()).exec (call.circumstances.env code) s).state
  have hclear : Ends (call.circumstances.env code) s (clearSession sessionId) (.ok n) s' := ⟨hn, rfl⟩
  have hfinal : Ends (call.circumstances.env code) s'.drawn
      (Proc.ofExcept (finalMessageCount sessionMeta)) (.ok count) s'.drawn := by
    rw [hcount]
    exact ends_ofExcept _
  have hends : ∃ info, Ends (call.circumstances.env code) { world with }
      (service.endSession tenantId agentId sessionId) (.ok info) s'.drawn :=
    ⟨_, hsummarize.bind (hread.bind (hclear.bind ((ends_call MemoryCall.now).bind
      (hfinal.bind (ends_pure _)))))⟩
  obtain ⟨info, hends⟩ := hends
  refine ⟨info, s'.drawn, hends, ?_, gone_iff hworks.answers hkeyspace⟩
  change call.StoresSummary code tenantId agentId sessionId world s'.tables
  rwa [hcleared.tables]

/-- Summarising a session does what it is to exactly if a summary may be stored. -/
theorem composes_summarizeSession (hoperation : call.operation = .summarizeSession) :
    call.Composes code service tenantId agentId sessionId world ↔
      call.MaySummarize tenantId agentId sessionId world := by
  have hprogram : call.program service tenantId agentId sessionId =
      (fun _ => ()) <$> service.summarizeSession tenantId agentId sessionId := by
    rw [program, hoperation]
  unfold Composes
  rw [hoperation]
  constructor
  · rintro ⟨hreturns, -⟩
    by_contra hmay
    obtain ⟨e, s, hraises⟩ := raises_summarizeSession hholds hworks hmay
    exact not_returns_of_error hprogram hraises hreturns
  · intro hmay
    obtain ⟨summary, s, hends, -, hstores⟩ := ends_summarizeSession hholds hworks hmay
    obtain ⟨hreturns, hstep⟩ := returns_of_ok hprogram hends
    rw [hstep]
    exact ⟨hreturns, hstores⟩

/-- Ending a session does exactly if a summary may be stored, and the pattern of the session matches its
own keys. -/
theorem composes_endSession (hoperation : call.operation = .endSession) :
    call.Composes code service tenantId agentId sessionId world ↔
      call.MaySummarize tenantId agentId sessionId world ∧ call.FindsOwn code sessionId world := by
  have hprogram : call.program service tenantId agentId sessionId =
      (fun _ => ()) <$> service.endSession tenantId agentId sessionId := by
    rw [program, hoperation]
  unfold Composes
  rw [hoperation]
  by_cases hmay : call.MaySummarize tenantId agentId sessionId world
  · obtain ⟨info, s, hends, hstores, hgone⟩ := ends_endSession hholds hworks hmay
    obtain ⟨hreturns, hstep⟩ := returns_of_ok hprogram hends
    rw [hstep]
    constructor
    · rintro ⟨-, -, hnothing⟩
      exact ⟨hmay, hgone.1 hnothing⟩
    · rintro ⟨-, hfinds⟩
      exact ⟨hreturns, hstores, hgone.2 hfinds⟩
  · -- The end raises what its summary raises.
    obtain ⟨e, s, hraises⟩ := raises_summarizeSession hholds hworks hmay
    constructor
    · rintro ⟨hreturns, -⟩
      exact absurd hreturns (not_returns_of_error hprogram hraises.bind_error)
    · rintro ⟨hmay', -⟩
      exact absurd hmay' hmay

/-- A call does what it is to exactly if it is allowed. -/
theorem composes_iff_allowed :
    call.Composes code service tenantId agentId sessionId world ↔
      call.Allowed code tenantId agentId sessionId world := by
  unfold Allowed
  cases hoperation : call.operation with
  | addToSession role content metadata =>
    unfold Composes
    rw [hoperation]
  | summarizeSession => exact composes_summarizeSession hholds hworks hoperation
  | endSession => exact composes_endSession hholds hworks hoperation

end

/-- The pattern of an identifier without special bytes matches all keys of its session. -/
theorem findsOwn_of_plain (h : ∀ b ∈ Redis.bytes sessionId, Redis.Glob.Plain b) :
    call.FindsOwn code sessionId world := by
  intro slot _
  rw [globMatches_pattern_iff h, Redis.bytes_append (sessionId ++ ":")]
  exact List.prefix_append ..

end LifecycleCall

/-- In every sequence of calls on one session, all of them do what they are to exactly if all are allowed:
whenever the session is summarized or ended, there is no conversation of it or no summary yet, and its pattern
matches its keys when it is ended. -/
theorem composes_iff (code : UInt8 → Int) (service : SessionMemoryService) (tenantId agentId : UUID)
    (sessionId : String) (world : MemoryWorld) (calls : List LifecycleCall)
    (hholds : HoldsSession sessionId world.keyspace)
    (hworks : Along (fun call world => call.step code service tenantId agentId sessionId world)
      (fun world call => call.Works code service tenantId agentId sessionId world) world calls) :
    Along (fun call world => call.step code service tenantId agentId sessionId world)
        (fun world call => call.Composes code service tenantId agentId sessionId world) world calls ↔
      Along (fun call world => call.step code service tenantId agentId sessionId world)
        (fun world call => call.Allowed code tenantId agentId sessionId world) world calls := by
  induction calls generalizing world with
  | nil => exact Iff.rfl
  | cons call calls ih =>
    have hcall := LifecycleCall.composes_iff_allowed hholds hworks.1
    exact and_congr hcall (ih _ (LifecycleCall.holdsSession_step hholds) hworks.2)

/-! ## A session that is ended, and one that is summarized twice -/

namespace SessionLifecycle

def add : LifecycleCall where
  operation := .addToSession "user" "my diagnosis" none
  circumstances := PlainSummary.circumstances

def summarize : LifecycleCall where
  operation := .summarizeSession
  circumstances := PlainSummary.circumstances

def finish : LifecycleCall where
  operation := .endSession
  circumstances := PlainSummary.circumstances

/-- Where there are no policies, everything works. -/
theorem works {call : LifecycleCall} {world : MemoryWorld}
    (hcalm : call.circumstances = PlainSummary.circumstances)
    (hpolicies : world.tables.policies.isEmpty = true) :
    call.Works (fun _ => 0) SessionMemoryService.plain ⟨1⟩ ⟨2⟩ "s" world := by
  refine ⟨fun o => by rw [hcalm]; rfl, fun s metadata summary _ hsame _ => ?_⟩
  rw [List.isEmpty_iff.1 hpolicies] at hsame
  obtain ⟨⟨keyspace, ⟨records, summaries, policies⟩⟩, draws⟩ := s
  subst hsame
  rw [hcalm]
  exact ⟨_, _, rfl, rfl⟩

/-- A cache without keys holds nothing that is no session. -/
theorem holdsSession_empty (sessionId : String) : HoldsSession sessionId .empty := ⟨nofun, nofun⟩

end SessionLifecycle

open SessionLifecycle in
/-- A session to which a message was added is ended twice. -/
theorem composes_ended :
    Along (fun call world => call.step (fun _ => 0) SessionMemoryService.plain ⟨1⟩ ⟨2⟩ "s" world)
      (fun world call => call.Composes (fun _ => 0) SessionMemoryService.plain ⟨1⟩ ⟨2⟩ "s" world) {}
      [add, finish, finish] := by
  have hplain : ∀ b ∈ Redis.bytes "s", Redis.Glob.Plain b := by decide +kernel
  refine (composes_iff (fun _ => 0) SessionMemoryService.plain ⟨1⟩ ⟨2⟩ "s" {} [add, finish, finish]
    (holdsSession_empty "s") ⟨works rfl rfl, works rfl ?_, works rfl ?_, trivial⟩).2
    ⟨trivial, ⟨.inr ?_, LifecycleCall.findsOwn_of_plain hplain⟩,
      ⟨.inl (Option.isNone_iff_eq_none.1 ?_), LifecycleCall.findsOwn_of_plain hplain⟩, trivial⟩
  · decide +kernel
  · decide +kernel
  · decide +kernel
  · decide +kernel

open SessionLifecycle in
/-- The second summary of a session is refused. -/
theorem not_composes :
    ¬∀ (code : UInt8 → Int) (service : SessionMemoryService) (tenantId agentId : UUID) (sessionId : String)
      (world : MemoryWorld) (calls : List LifecycleCall), HoldsSession sessionId world.keyspace →
      Along (fun call world => call.step code service tenantId agentId sessionId world)
        (fun world call => call.Works code service tenantId agentId sessionId world) world calls →
      Along (fun call world => call.step code service tenantId agentId sessionId world)
        (fun world call => call.Composes code service tenantId agentId sessionId world) world calls := by
  intro h
  have hcomposes := h (fun _ => 0) SessionMemoryService.plain ⟨1⟩ ⟨2⟩ "s" {} [add, summarize, summarize]
    (holdsSession_empty "s")
    ⟨works rfl rfl, works rfl (by decide +kernel), works rfl (by decide +kernel), trivial⟩
  obtain ⟨-, -, ⟨⟨s, hreturns⟩, -⟩, -⟩ := hcomposes
  have hreturned := congrArg (Option.map fun r => r.1.toBool) hreturns.1
  revert hreturned
  decide +kernel

end AgentRuntime
