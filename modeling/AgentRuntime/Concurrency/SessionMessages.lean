import AgentRuntime.Cache.SessionEntries
import AgentRuntime.Interaction.Protocol
import AgentRuntime.Services.SessionMemoryService

/-!
# Message counts under concurrency

`add_to_session` reads the description of a session, appends a message to its conversation, and writes the
description with one message more: three commands of Redis, each of which other calls may come between. Of
two calls that read the same count, one is lost; a message that is not appended is counted all the same. While
every description that is written finds the count that its caller read, and is written exactly if the message
was appended, the count grows by the messages (`messageCount_eq_of_inStep`).
-/

namespace AgentRuntime

open Interaction SessionMemoryCache SessionMemoryService

/-- `meta.get("message_count", 0)`, of a description. -/
def messageCount : Json → Int
  | .dict entries =>
    match Dict.get? entries "message_count" with
    | some (.int n) => n
    | _ => 0
  | _ => 0

/-- The count of a summary that a session is restored from. -/
def summaryCount : Option SessionSummary → Int
  | none => 0
  | some summary => messageCount (.dict summary.metadata)

/-- The count of the session: that of its description, or of the summary that it would be restored from. -/
def sessionCount (sessionId : String) (summary : Option SessionSummary) (keyspace : MemoryKeyspace) : Int :=
  match (keyspace.store (makeKey sessionId "meta")).map Redis.Entry.value with
  | some (.string sessionMeta) => messageCount sessionMeta
  | _ => summaryCount summary

/-- A description, with the number of messages. -/
def Describes (sessionMeta : Json) : Prop :=
  ∃ (entries : Dict) (n : Int), sessionMeta = .dict entries ∧ entries ≠ [] ∧
    (entries.get? "message_count").getD (.int 0) = .int n

/-- What is in Redis, how many messages were appended, the count that each call found last, and whether its
message was appended, until the description is written. -/
structure SessionMessages where
  keyspace : MemoryKeyspace
  clock : Nat := 0
  appended : Int := 0
  seen : Nat → Int := fun _ => 0
  outcome : Nat → Option Bool := fun _ => none

/-- The time of day, and what a command fails with, if it does. -/
structure MessageChoice where
  now : Time := 0
  fails : Option PyError := none

section
variable (code : UInt8 → Int) (sessionId : String) (summary : Option SessionSummary)

/-- Nothing is read in vain; every other command of Redis may fail. -/
def MessageChoice.refuses (c : MessageChoice) : MemoryCall → Option PyError
  | .get _ => none
  | _ => c.fails

/-- The clock, and the database, which has the summary. -/
def MessageChoice.outside (c : MessageChoice) : (o : MemoryCall) → o.Ans
  | .now => c.now
  | .summaryBySessionId _ _ _ =>
    match c.fails with
    | some e => .error e
    | none => .ok summary
  | o => noOutside o

/-- What is kept of a command beside Redis. -/
def SessionMessages.noted (s : SessionMessages) (i : Nat) : (o : MemoryCall) → o.Ans → SessionMessages
  | .get _, _ => { s with seen := Function.update s.seen i (sessionCount sessionId summary s.keyspace) }
  | .append _ _ _ _, .ok _ =>
    { s with appended := s.appended + 1, outcome := Function.update s.outcome i (some true) }
  | .append _ _ _ _, .error _ => { s with outcome := Function.update s.outcome i (some false) }
  | .setex _ _ _, .ok _ => { s with outcome := Function.update s.outcome i none }
  | _, _ => s

/-- The commands are answered by Redis; outside only time passes. -/
def messageRules : Rules MemoryCall MemoryCall.Ans SessionMessages MessageChoice Nat where
  answer c i o s :=
    let r := MemoryKeyspace.env code s.clock c.refuses (c.outside summary) o s.keyspace
    (r.1, { s.noted sessionId summary i o r.1 with keyspace := r.2 })
  outside ms s := { s with clock := s.clock + ms }

end

/-- A message that is added. -/
structure SessionMessage where
  role : String
  content : String
  metadata : Option Dict := none

abbrev MessagePool := Pool MemoryCall MemoryCall.Ans (Except PyError Json × Unit) SessionMessages

/-- Calls of `add_to_session` for one session. -/
def messagePool (service : SessionMemoryService) (tenantId agentId : UUID) (sessionId : String)
    (messages : List SessionMessage) (keyspace : MemoryKeyspace) : MessagePool where
  threads := messages.map fun message =>
    (service.addToSession tenantId agentId sessionId message.role message.content message.metadata).on ()
  shared := { keyspace }

/-- The description has not expired. -/
def DescriptionLives (sessionId : String) (_ : MessageChoice) (_ : Nat) (_ : MemoryCall)
    (s : SessionMessages) : Prop :=
  Redis.Unexpired s.clock (makeKey sessionId "meta") s.keyspace.store

/-- The call writes a description. -/
def writesDescription : MemoryCall → Bool
  | .setex _ _ _ => true
  | _ => false

/-- A description that is written finds the count that its caller read, and the caller's message was not
refused before; one that is not written is that of a call whose message was not appended. -/
def InStep (sessionId : String) (summary : Option SessionSummary) (c : MessageChoice) (i : Nat)
    (o : MemoryCall) (s : SessionMessages) : Prop :=
  writesDescription o = true →
    if c.fails.isNone then
      sessionCount sessionId summary s.keyspace = s.seen i ∧ s.outcome i ≠ some false
    else s.outcome i ≠ some true

instance (sessionId : String) (c : MessageChoice) (i : Nat) (o : MemoryCall) (s : SessionMessages) :
    Decidable (DescriptionLives sessionId c i o s) :=
  decidable_of_iff ((s.keyspace.store (makeKey sessionId "meta")).all fun entry => entry.Alive s.clock)
    (by simp [DescriptionLives, Redis.Unexpired, Option.all_eq_true])

instance (sessionId : String) (summary : Option SessionSummary) (c : MessageChoice) (i : Nat)
    (o : MemoryCall) (s : SessionMessages) : Decidable (InStep sessionId summary c i o s) :=
  inferInstanceAs (Decidable (_ → ite _ _ _))

/-! ## The phases of a call -/

/-- Where a call is in its work: it has not read a description, found none, holds one with a count, or has
tried to append its message. -/
inductive MessagePhase where
  | start
  | absent
  | holding (n : Int)
  | tried (appended : Bool) (n : Int)
  | done

/-- The call has appended a message that is not counted yet. -/
def MessagePhase.uncounted : MessagePhase → Int
  | tried true _ => 1
  | _ => 0

/-- The phase that the answer to reading the description leads to. -/
def phaseOfRead : Except PyError (Option Json) → MessagePhase
  | .ok (some sessionMeta) => .holding (messageCount sessionMeta)
  | _ => .absent

/-- A call that has read the description has appended nothing that is not counted. -/
theorem uncounted_phaseOfRead (r : Except PyError (Option Json)) : (phaseOfRead r).uncounted = 0 := by
  rcases r with e | _ | sessionMeta
  · rfl
  · rfl
  · rfl

/-- What a call may do in each phase: a description is read; if there is none, it is made or restored, and
written; the message is appended, and the description is written with one message more. -/
inductive MessageDue (cache : SessionMemoryCache) (sessionId : String) (summary : Option SessionSummary) :
    MessagePhase → MemoryCall → Prop
  | now (g : MessagePhase) : MessageDue cache sessionId summary g .now
  | read : MessageDue cache sessionId summary .start (.get (makeKey sessionId "meta"))
  | readAgain : MessageDue cache sessionId summary .absent (.get (makeKey sessionId "meta"))
  | summary (tenantId agentId : UUID) :
      MessageDue cache sessionId summary .absent (.summaryBySessionId tenantId agentId sessionId)
  | create {sessionMeta : Json} (hdescribes : Describes sessionMeta)
      (hcount : messageCount sessionMeta = summaryCount summary) :
      MessageDue cache sessionId summary .absent
        (.setex (makeKey sessionId "meta") (cache.lifetime none) sessionMeta)
  | append (n : Int) (message : Json) :
      MessageDue cache sessionId summary (.holding n)
        (.append (makeListKey sessionId) message 100 (cache.lifetime none))
  | count (appended : Bool) {n : Int} {sessionMeta : Json} (hdescribes : Describes sessionMeta)
      (hcount : messageCount sessionMeta = n + 1) :
      MessageDue cache sessionId summary (.tried appended n)
        (.setex (makeKey sessionId "meta") (cache.lifetime none) sessionMeta)

def messageProtocol (cache : SessionMemoryCache) (sessionId : String) (summary : Option SessionSummary) :
    Protocol MemoryCall MemoryCall.Ans (Except PyError Json × Unit) MessagePhase where
  may := MessageDue cache sessionId summary
  next
    | _, .get _, r => phaseOfRead r
    | .absent, .setex _ _ _, _ => .holding (summaryCount summary)
    | .holding n, .append _ _ _ _, r => .tried r.toBool n
    | .tried _ _, .setex _ _ _, _ => .done
    | g, _, _ => g
  returns g _ := g.uncounted = 0

/-! ## Descriptions -/

/-- The description that is made for a session is one, and has the count that it was made with. -/
theorem describes_description (sessionId : String) (tenantId agentId : UUID) (createdAt updatedAt : Json)
    (n : Int) (metadata : Dict) :
    Describes (description sessionId tenantId agentId createdAt updatedAt (.int n) metadata) ∧
      messageCount (description sessionId tenantId agentId createdAt updatedAt (.int n) metadata) = n :=
  ⟨⟨_, n, rfl, List.cons_ne_nil _ _, rfl⟩, rfl⟩

/-- A description is taken for one, has an integer count, and can be counted on. -/
theorem Describes.spec {sessionMeta : Json} (h : Describes sessionMeta) :
    ∃ entries : Dict, sessionMeta = .dict entries ∧ sessionMeta.truthy = true ∧
      (entries.get? "message_count").getD (.int 0) = .int (messageCount sessionMeta) := by
  obtain ⟨entries, n, rfl, hne, hcount⟩ := h
  refine ⟨entries, rfl, ?_, ?_⟩
  · cases entries with
    | nil => exact absurd rfl hne
    | cons entry entries => rfl
  · dsimp only [messageCount]
    cases hget : entries.get? "message_count" with
    | none => rfl
    | some value =>
      rw [hget, Option.getD_some] at hcount
      rw [hcount]
      rfl

/-- What `add_to_session` writes. -/
theorem describes_counted (entries : Dict) (n : Int) (updatedAt : Json) :
    Describes (.dict ((entries.set "message_count" (.int n)).set "updated_at" updatedAt)) ∧
      messageCount (.dict ((entries.set "message_count" (.int n)).set "updated_at" updatedAt)) = n := by
  have hother : ("message_count" : String) ≠ "updated_at" := by decide
  have hcount : Dict.get? ((entries.set "message_count" (.int n)).set "updated_at" updatedAt)
      "message_count" = some (.int n) := by
    rw [Dict.get?_set_of_ne hother, Dict.get?_set_self]
  refine ⟨⟨_, n, rfl, Dict.set_ne_nil _ _ _, by rw [hcount]; rfl⟩, ?_⟩
  dsimp only [messageCount]
  rw [hcount]

/-- What is read is a description, and the database answers with the summary if it does not fail. -/
def MessageAnswers (summary : Option SessionSummary) : (o : MemoryCall) → o.Ans → Prop
  | .get _, r => ∀ sessionMeta, r = .ok (some sessionMeta) → Describes sessionMeta
  | .summaryBySessionId _ _ _, r => ∀ found, r = .ok found → found = summary
  | _, _ => True

/-- The number of messages of a summary, if there is one. -/
def CountsSummary (summary : Option SessionSummary) : Prop :=
  ∀ found ∈ summary, ∃ n, (found.metadata.get? "message_count").getD (.int 0) = .int n

/-- What a session is restored as has the count of the summary. -/
theorem CountsSummary.getD_eq {found : SessionSummary} (h : CountsSummary (some found)) :
    (found.metadata.get? "message_count").getD (.int 0) = .int (summaryCount (some found)) := by
  obtain ⟨n, hn⟩ := h found rfl
  dsimp only [summaryCount, messageCount]
  cases hget : found.metadata.get? "message_count" with
  | none => rfl
  | some value =>
    rw [hget, Option.getD_some] at hn
    rw [hn]
    rfl

/-! ## Following the protocol -/

/-- What a call that looks for a description has, and the phase it is in. -/
def Found (summary : Option SessionSummary) : MessagePhase → Option Json → Unit → Prop
  | g, some sessionMeta, _ => g = .holding (messageCount sessionMeta) ∧ Describes sessionMeta
  | g, none, _ => g = .absent ∧ summary = none

/-- The call has appended nothing. -/
def NothingAppended : MessagePhase → PyError → Unit → Prop := fun g _ _ => g.uncounted = 0

section
variable {service : SessionMemoryService} {tenantId agentId : UUID} {sessionId : String}
  {summary : Option SessionSummary}

/-- What was read: a description, or nothing. -/
theorem read_cases {key : String} {r : Except PyError (Option Json)}
    (h : MessageAnswers summary (.get key) r) :
    (∃ sessionMeta, Describes sessionMeta ∧ (r.toOption.getD none).filter Json.truthy = some sessionMeta ∧
      phaseOfRead r = .holding (messageCount sessionMeta)) ∨
    (r.toOption.getD none).filter Json.truthy = none ∧ phaseOfRead r = .absent := by
  rcases r with e | _ | sessionMeta
  · exact .inr ⟨rfl, rfl⟩
  · exact .inr ⟨rfl, rfl⟩
  · have hdescribes : Describes sessionMeta := h sessionMeta rfl
    obtain ⟨-, -, htruthy, -⟩ := hdescribes.spec
    refine .inl ⟨sessionMeta, hdescribes, ?_, rfl⟩
    exact (Option.filter_some).trans (if_pos htruthy)

/-- Reading the description tells the caller the count of the session, and appends nothing. -/
theorem follows_getSessionMeta (hsummary : CountsSummary summary) :
    ((service.getSessionMeta tenantId agentId sessionId).on ()).Follows (MessageAnswers summary)
      ((messageProtocol service.sessionCache sessionId summary).returning
        (Proc.byEnding (Found summary) NothingAppended)) .start := by
  simp only [getSessionMeta, Proc.on_bind, on_get, Prog.call_bind, Prog.ret_bind, Proc.thenOn_ok,
    Prog.follows_call]
  refine ⟨.read, fun r hr => ?_⟩
  rcases read_cases hr with ⟨sessionMeta, hdescribes, hread, hphase⟩ | ⟨hread, hphase⟩
  · simp only [hread]
    exact ⟨hphase, hdescribes⟩
  · have hnext : (messageProtocol service.sessionCache sessionId summary).next .start
        (.get (makeKey sessionId "meta")) r = .absent := hphase
    simp only [hread]
    change Prog.Follows _ _ ((messageProtocol service.sessionCache sessionId summary).next .start
        (.get (makeKey sessionId "meta")) r) _
    rw [hnext]
    refine Proc.follows_tryCall_bind (.summary tenantId agentId) (fun r found hr hfound => ?_)
      fun r e _ _ => rfl
    obtain rfl : found = summary := hr found hfound
    cases found with
    | none => exact ⟨rfl, rfl⟩
    | some summary =>
      simp only [hsummary.getD_eq, Proc.on_bind, on_set, Prog.call_bind, Prog.ret_bind, Proc.thenOn_ok,
        Prog.follows_call]
      obtain ⟨hdescribes, hcount⟩ := describes_description sessionId tenantId agentId
        (MemoryService.isoformat summary.createdAt) (MemoryService.isoformat summary.updatedAt)
        (summaryCount (some summary)) summary.metadata
      refine ⟨.create hdescribes hcount, fun r _ => ⟨?_, hdescribes⟩⟩
      rw [hcount]
      rfl

/-- A session is created where there is none, and no summary of it. -/
theorem follows_createSession (hnone : summary = none) :
    ((service.createSession tenantId agentId sessionId none).on ()).Follows (MessageAnswers summary)
      ((messageProtocol service.sessionCache sessionId summary).returning
        (Proc.byEnding
          (fun g sessionMeta _ => g = .holding (messageCount sessionMeta) ∧ Describes sessionMeta)
          NothingAppended)) .absent := by
  simp only [createSession, Proc.on_bind, on_get, Prog.call_bind, Prog.ret_bind, Proc.thenOn_ok,
    Prog.follows_call]
  refine ⟨.readAgain, fun r hr => ?_⟩
  rcases read_cases hr with ⟨sessionMeta, hdescribes, hread, hphase⟩ | ⟨hread, hphase⟩
  · simp only [hread]
    exact ⟨hphase, hdescribes⟩
  · have hnext : (messageProtocol service.sessionCache sessionId summary).next .absent
        (.get (makeKey sessionId "meta")) r = .absent := hphase
    simp only [hread]
    change Prog.Follows _ _ ((messageProtocol service.sessionCache sessionId summary).next .absent
        (.get (makeKey sessionId "meta")) r) _
    rw [hnext]
    refine Proc.follows_tryCall_bind (.summary tenantId agentId) (fun r found _ _ => ?_) fun r e _ _ => rfl
    simp only [MemoryService.now, Proc.on_bind, Proc.on_call, on_set, Prog.call_bind, Prog.ret_bind,
      Proc.thenOn_ok, Prog.follows_call]
    refine ⟨.now _, fun createdAt _ => ⟨.now _, fun updatedAt _ => ?_⟩⟩
    obtain ⟨hdescribes, hcount⟩ := describes_description sessionId tenantId agentId
      (MemoryService.isoformat createdAt) (MemoryService.isoformat updatedAt) 0 []
    have hzero : summaryCount summary = 0 := by rw [hnone]; rfl
    refine ⟨.create hdescribes (hcount.trans hzero.symm), fun r _ => ⟨?_, hdescribes⟩⟩
    exact congrArg MessagePhase.holding (hzero.trans hcount.symm)

/-- Where there is none, it is created with a count of zero; either way the caller holds the count. -/
theorem follows_getOrCreateSession (hsummary : CountsSummary summary) :
    ((service.getOrCreateSession tenantId agentId sessionId).on ()).Follows (MessageAnswers summary)
      ((messageProtocol service.sessionCache sessionId summary).returning
        (Proc.byEnding
          (fun g sessionMeta _ => g = .holding (messageCount sessionMeta) ∧ Describes sessionMeta)
          NothingAppended)) .start := by
  refine Proc.follows_bind (follows_getSessionMeta hsummary) (fun g found s hfound => ?_)
    fun g e s he => he
  cases found with
  | none =>
    obtain ⟨rfl, hnone⟩ := hfound
    exact follows_createSession hnone
  | some sessionMeta =>
    obtain ⟨rfl, hdescribes⟩ := hfound
    obtain ⟨-, -, htruthy, -⟩ := hdescribes.spec
    have hfilter : (some sessionMeta).filter Json.truthy = some sessionMeta :=
      Option.filter_some.trans (if_pos htruthy)
    simp only [hfilter]
    exact ⟨rfl, hdescribes⟩

/-- A call appends its message, and counts it. -/
theorem follows_addToSession (hsummary : CountsSummary summary) (role content : String)
    (metadata : Option Dict) :
    ((service.addToSession tenantId agentId sessionId role content metadata).on ()).Follows
      (MessageAnswers summary) (messageProtocol service.sessionCache sessionId summary) .start := by
  refine Proc.follows_bind (follows_getOrCreateSession hsummary) (fun g sessionMeta s hfound => ?_)
    fun g e s he => he
  obtain ⟨⟩ := s
  obtain ⟨rfl, hdescribes⟩ := hfound
  obtain ⟨entries, rfl, -, hcount⟩ := hdescribes.spec
  simp only [MemoryService.now, Proc.on_bind, Proc.on_call, on_appendToHistory, Proc.on_ofExcept, on_set,
    Prog.call_bind, Prog.ret_bind, Proc.thenOn_ok, Json.asDict, hcount, addOne, Prog.follows_call]
  refine ⟨.now _, fun timestamp _ => ⟨.append _ _, fun r _ => ⟨.now _, fun updatedAt _ => ?_⟩⟩⟩
  obtain ⟨hcounted, hmore⟩ := describes_counted entries (messageCount (.dict entries) + 1)
    (MemoryService.isoformat updatedAt)
  exact ⟨.count _ hcounted hmore, fun _ _ => rfl⟩

end

/-! ## The count -/

/-- What a call knows of the count and of its message, in each phase. -/
def MessagePhase.Agrees (summary : Option SessionSummary) : MessagePhase → Int → Option Bool → Prop
  | start, _, outcome => outcome = none
  | absent, seen, outcome => seen = summaryCount summary ∧ outcome = none
  | holding n, seen, outcome => seen = n ∧ outcome = none
  | tried appended n, seen, outcome => seen = n ∧ outcome = some appended
  | done, _, _ => True

/-- The messages that the calls have appended and not counted. -/
def uncountedMessages (calls : Nat) (phase : Nat → MessagePhase) : Int :=
  ∑ i ∈ Finset.range calls, (phase i).uncounted

/-- The count is the initial one with the messages that were appended, but for those that are not counted
yet. -/
structure CountsMessages (sessionId : String) (summary : Option SessionSummary) (calls : Nat) (initial : Int)
    (phase : Nat → MessagePhase) (s : SessionMessages) : Prop where
  described : ∀ entry, s.keyspace.store (makeKey sessionId "meta") = some entry →
    ∃ sessionMeta, entry.value = .string sessionMeta ∧ Describes sessionMeta
  count : sessionCount sessionId summary s.keyspace + uncountedMessages calls phase = initial + s.appended
  agrees : ∀ i, (phase i).Agrees summary (s.seen i) (s.outcome i)
  idle : ∀ i, calls ≤ i → phase i = .done

/-- The messages that are not counted change with the phase of one call alone. -/
theorem uncountedMessages_update {calls i : Nat} (hi : i < calls) (phase : Nat → MessagePhase)
    (next : MessagePhase) :
    uncountedMessages calls (Function.update phase i next) =
      uncountedMessages calls phase - (phase i).uncounted + next.uncounted := by
  have hterm (j : Nat) : (Function.update phase i next j).uncounted =
      (phase j).uncounted + if j = i then next.uncounted - (phase i).uncounted else 0 := by
    by_cases hj : j = i
    · subst hj
      rw [Function.update_self, if_pos rfl]
      omega
    · rw [Function.update_of_ne hj, if_neg hj, add_zero]
  unfold uncountedMessages
  rw [Finset.sum_congr rfl fun j _ => hterm j, Finset.sum_add_distrib, Finset.sum_ite_eq',
    if_pos (Finset.mem_range.2 hi)]
  omega

section
variable {code : UInt8 → Int} {sessionId : String} {summary : Option SessionSummary} {calls : Nat}
  {initial : Int} {phase : Nat → MessagePhase} {s : SessionMessages} {i : Nat} {keyspace : MemoryKeyspace}

/-- The count depends on the description alone. -/
theorem sessionCount_congr
    (h : keyspace.store (makeKey sessionId "meta") = s.keyspace.store (makeKey sessionId "meta")) :
    sessionCount sessionId summary keyspace = sessionCount sessionId summary s.keyspace := by
  unfold sessionCount
  rw [h]

/-- A call goes on, and what is counted changes with what it has not counted. -/
theorem CountsMessages.next (h : CountsMessages sessionId summary calls initial phase s) (hi : i < calls)
    (next : MessagePhase) {s' : SessionMessages}
    (hdescribed : ∀ entry, s'.keyspace.store (makeKey sessionId "meta") = some entry →
      ∃ sessionMeta, entry.value = .string sessionMeta ∧ Describes sessionMeta)
    (hcount : sessionCount sessionId summary s'.keyspace - s'.appended + next.uncounted =
      sessionCount sessionId summary s.keyspace - s.appended + (phase i).uncounted)
    (hagrees : next.Agrees summary (s'.seen i) (s'.outcome i))
    (hseen : ∀ j, j ≠ i → s'.seen j = s.seen j) (houtcome : ∀ j, j ≠ i → s'.outcome j = s.outcome j) :
    CountsMessages sessionId summary calls initial (Function.update phase i next) s' := by
  refine ⟨hdescribed, ?_, fun j => ?_, fun j hj => ?_⟩
  · rw [uncountedMessages_update hi]
    have hbefore := h.count
    omega
  · by_cases hji : j = i
    · subst hji
      rwa [Function.update_self]
    · rw [Function.update_of_ne hji, hseen j hji, houtcome j hji]
      exact h.agrees j
  · have hji : j ≠ i := by omega
    rw [Function.update_of_ne hji]
    exact h.idle j hj

/-- A command that leaves the description and the count of appended messages as they are. -/
theorem CountsMessages.same (h : CountsMessages sessionId summary calls initial phase s)
    {next : MessagePhase} (hi : i < calls) (huncounted : next.uncounted = (phase i).uncounted)
    {s' : SessionMessages}
    (hstore : s'.keyspace.store (makeKey sessionId "meta") = s.keyspace.store (makeKey sessionId "meta"))
    (happended : s'.appended = s.appended) (hagrees : next.Agrees summary (s'.seen i) (s'.outcome i))
    (hseen : ∀ j, j ≠ i → s'.seen j = s.seen j) (houtcome : ∀ j, j ≠ i → s'.outcome j = s.outcome j) :
    CountsMessages sessionId summary calls initial (Function.update phase i next) s' := by
  refine h.next hi next (fun entry hentry => h.described entry (hstore ▸ hentry)) ?_ hagrees hseen houtcome
  rw [sessionCount_congr hstore, huncounted, happended]

/-- The description is read. -/
theorem CountsMessages.read (h : CountsMessages sessionId summary calls initial phase s)
    (hlives : Redis.Unexpired s.clock (makeKey sessionId "meta") s.keyspace.store) :
    let r := MemoryKeyspace.answered (Redis.getString s.clock (makeKey sessionId "meta") s.keyspace.store)
    MessageAnswers summary (.get (makeKey sessionId "meta")) r ∧
      (phaseOfRead r).Agrees summary (sessionCount sessionId summary s.keyspace) none := by
  intro r
  cases hentry : s.keyspace.store (makeKey sessionId "meta") with
  | none =>
    have hr : r = .ok none := by
      dsimp only [r]
      rw [Redis.getString, Redis.get, hlives.lookup_eq, hentry]
      rfl
    have hcount : sessionCount sessionId summary s.keyspace = summaryCount summary := by
      rw [sessionCount, hentry]
      rfl
    rw [hr]
    refine ⟨fun found hfound => ?_, hcount, rfl⟩
    cases hfound
  | some entry =>
    obtain ⟨sessionMeta, hvalue, hdescribes⟩ := h.described entry hentry
    have hr : r = .ok (some sessionMeta) := by
      dsimp only [r]
      rw [Redis.getString, Redis.get, hlives.lookup_eq, hentry, Option.map_some, hvalue]
      rfl
    have hcount : sessionCount sessionId summary s.keyspace = messageCount sessionMeta := by
      rw [sessionCount, hentry, Option.map_some, hvalue]
    rw [hr]
    refine ⟨fun found hfound => ?_, hcount, rfl⟩
    obtain rfl := Option.some.inj (Except.ok.inj hfound)
    exact hdescribes

/-- The description that is written is there. -/
theorem store_setex {key : String} {seconds : Int} (hseconds : 0 < seconds) (value : Json) (now : Nat) :
    (keyspace.setex now key seconds value).1 = .ok () ∧
      ((keyspace.setex now key seconds value).2.store key).map Redis.Entry.value = some (.string value) := by
  rw [MemoryKeyspace.setex, if_neg (Int.not_le.2 hseconds)]
  dsimp only [Redis.Keyspace.put]
  rw [Redis.set, Function.update_self]
  exact ⟨rfl, rfl⟩

/-- A message is appended under another key. -/
theorem store_append (keyspace : MemoryKeyspace) (now : Nat) (entry : Json) (maxEntries seconds : Int) :
    (keyspace.append now (makeListKey sessionId) entry maxEntries seconds).2.store
        (makeKey sessionId "meta") = keyspace.store (makeKey sessionId "meta") :=
  MemoryKeyspace.append_of_ne (makeKey_ne_makeListKey sessionId sessionId) _ _ _

/-- The description is written with the count of the session and what its caller has not counted. -/
theorem CountsMessages.written (h : CountsMessages sessionId summary calls initial phase s) (hi : i < calls)
    (next : MessagePhase) {sessionMeta : Json} (hdescribes : Describes sessionMeta)
    (hmore : messageCount sessionMeta =
      sessionCount sessionId summary s.keyspace + (phase i).uncounted - next.uncounted)
    (hstore : (keyspace.store (makeKey sessionId "meta")).map Redis.Entry.value = some (.string sessionMeta))
    (hagrees : next.Agrees summary (s.seen i) none) :
    CountsMessages sessionId summary calls initial (Function.update phase i next)
      { s with keyspace, outcome := Function.update s.outcome i none } := by
  have hcount : sessionCount sessionId summary keyspace = messageCount sessionMeta := by
    rw [sessionCount, hstore]
  refine h.next hi next (fun entry hentry => ?_) ?_ ?_ (fun _ _ => rfl)
    fun j hj => Function.update_of_ne hj _ _
  · rw [hentry] at hstore
    exact ⟨sessionMeta, Option.some.inj hstore, hdescribes⟩
  · dsimp only
    omega
  · dsimp only
    rwa [Function.update_self]

/-- A call in step that stores the description finds the count that it read, and its message was
not refused. -/
theorem InStep.of_served {c : MessageChoice} {o : MemoryCall} (h : InStep sessionId summary c i o s)
    (ho : writesDescription o = true) (hserved : c.fails = none) :
    sessionCount sessionId summary s.keyspace = s.seen i ∧ s.outcome i ≠ some false := by
  have hcondition := h ho
  rwa [if_pos (by rw [hserved]; rfl)] at hcondition

/-- A call in step whose store fails has not appended its message. -/
theorem InStep.of_fails {c : MessageChoice} {o : MemoryCall} (h : InStep sessionId summary c i o s)
    (ho : writesDescription o = true) {e : PyError} (hfails : c.fails = some e) :
    s.outcome i ≠ some true := by
  have hcondition := h ho
  rwa [if_neg (by rw [hfails]; nofun)] at hcondition

/-- A description that is written. -/
theorem answer_setex {c : MessageChoice} {key : String} {seconds : Int} (hseconds : 0 < seconds)
    (value : Json) (hserved : c.fails = none) :
    (messageRules code sessionId summary).answer c i (.setex key seconds value) s =
      (.ok (), { s with
        keyspace := (s.keyspace.setex s.clock key seconds value).2
        outcome := Function.update s.outcome i none }) := by
  have hanswer : MemoryKeyspace.env code s.clock c.refuses (c.outside summary) (.setex key seconds value)
      s.keyspace = (.ok (), (s.keyspace.setex s.clock key seconds value).2) := by
    dsimp only [MemoryKeyspace.env, MessageChoice.refuses]
    rw [hserved]
    exact Prod.ext (store_setex hseconds value s.clock).1 rfl
  dsimp only [messageRules]
  rw [hanswer]
  rfl

/-- A description that is not written. -/
theorem answer_setex_of_fails {c : MessageChoice} (key : String) (seconds : Int) (value : Json) {e : PyError}
    (hfails : c.fails = some e) :
    (messageRules code sessionId summary).answer c i (.setex key seconds value) s = (.error e, s) := by
  have hanswer : MemoryKeyspace.env code s.clock c.refuses (c.outside summary) (.setex key seconds value)
      s.keyspace = (.error e, s.keyspace) := by
    dsimp only [MemoryKeyspace.env, MessageChoice.refuses]
    rw [hfails]
  dsimp only [messageRules]
  rw [hanswer]
  rfl

/-- A message is appended, or it is not. -/
theorem answer_append (c : MessageChoice) (entry : Json) (maxEntries seconds : Int) :
    ∃ (r : Except PyError Unit) (keyspace : MemoryKeyspace),
      keyspace.store (makeKey sessionId "meta") = s.keyspace.store (makeKey sessionId "meta") ∧
      (messageRules code sessionId summary).answer c i
          (.append (makeListKey sessionId) entry maxEntries seconds) s =
        (r, { s with
          keyspace
          appended := s.appended + if r.toBool then 1 else 0
          outcome := Function.update s.outcome i (some r.toBool) }) := by
  obtain ⟨r, keyspace, hanswer, hstore⟩ : ∃ (r : Except PyError Unit) (keyspace : MemoryKeyspace),
      MemoryKeyspace.env code s.clock c.refuses (c.outside summary)
          (.append (makeListKey sessionId) entry maxEntries seconds) s.keyspace = (r, keyspace) ∧
        keyspace.store (makeKey sessionId "meta") = s.keyspace.store (makeKey sessionId "meta") := by
    refine ⟨_, _, rfl, ?_⟩
    dsimp only [MemoryKeyspace.env, MessageChoice.refuses]
    cases c.fails with
    | some e => rfl
    | none => exact store_append s.keyspace s.clock entry maxEntries seconds
  refine ⟨r, keyspace, hstore, ?_⟩
  dsimp only [messageRules]
  rw [hanswer]
  cases r with
  | error e => simp [SessionMessages.noted, Except.toBool]
  | ok u => rfl

/-- What an answer makes of the count, for a command that leads the call `i` to the phase `next`. -/
abbrev MessageAdvances (sessionId : String) (summary : Option SessionSummary) (calls : Nat) (initial : Int)
    (phase : Nat → MessagePhase) (i : Nat) (o : MemoryCall) (next : o.Ans → MessagePhase)
    (answer : o.Ans × SessionMessages) : Prop :=
  MessageAnswers summary o answer.1 ∧
    CountsMessages sessionId summary calls initial (Function.update phase i (next answer.1)) answer.2

/-- A call that has not ended is one of them. -/
theorem CountsMessages.lt_calls (h : CountsMessages sessionId summary calls initial phase s)
    (hphase : phase i ≠ .done) : i < calls :=
  Nat.lt_of_not_le fun hle => hphase (h.idle i hle)

/-- A call that reads the description holds its count, or knows that there is none. -/
theorem CountsMessages.advances_read (h : CountsMessages sessionId summary calls initial phase s)
    (hlives : Redis.Unexpired s.clock (makeKey sessionId "meta") s.keyspace.store) (hi : i < calls)
    (hnone : s.outcome i = none) (huncounted : (phase i).uncounted = 0) (c : MessageChoice) :
    MessageAdvances sessionId summary calls initial phase i (.get (makeKey sessionId "meta")) phaseOfRead
      ((messageRules code sessionId summary).answer c i (.get (makeKey sessionId "meta")) s) := by
  obtain ⟨hanswer, hseen⟩ := h.read hlives
  refine ⟨hanswer, h.same hi ((uncounted_phaseOfRead _).trans huncounted.symm) rfl rfl ?_
    (fun j hj => Function.update_of_ne hj _ _) fun _ _ => rfl⟩
  dsimp only [messageRules, SessionMessages.noted]
  rw [Function.update_self, hnone]
  exact hseen

/-- A description that is made for a session without one has the count of its summary, which is that of the
session as long as nobody else has made one. -/
theorem CountsMessages.advances_create (h : CountsMessages sessionId summary calls initial phase s)
    (hphase : phase i = .absent) {c : MessageChoice} {seconds : Int} (hseconds : 0 < seconds)
    {sessionMeta : Json} (hdescribes : Describes sessionMeta)
    (hcount : messageCount sessionMeta = summaryCount summary)
    (hinstep : InStep sessionId summary c i (.setex (makeKey sessionId "meta") seconds sessionMeta) s) :
    MessageAdvances sessionId summary calls initial phase i
      (.setex (makeKey sessionId "meta") seconds sessionMeta) (fun _ => .holding (summaryCount summary))
      ((messageRules code sessionId summary).answer c i
        (.setex (makeKey sessionId "meta") seconds sessionMeta) s) := by
  have hi : i < calls := h.lt_calls (hphase ▸ nofun)
  obtain ⟨hseen, hnone⟩ : s.seen i = summaryCount summary ∧ s.outcome i = none := by
    have hagrees := h.agrees i
    rwa [hphase] at hagrees
  cases hfails : c.fails with
  | some e =>
    rw [answer_setex_of_fails _ _ _ hfails]
    exact ⟨trivial, h.same hi (by rw [hphase]; rfl) rfl rfl ⟨hseen, hnone⟩ (fun _ _ => rfl) fun _ _ => rfl⟩
  | none =>
    have hfresh := hinstep.of_served rfl hfails
    rw [hseen] at hfresh
    rw [answer_setex hseconds _ hfails]
    refine ⟨trivial, h.written hi (.holding (summaryCount summary)) hdescribes ?_
      (store_setex hseconds _ s.clock).2 ⟨hseen, rfl⟩⟩
    have hnothing : MessagePhase.absent.uncounted = 0 := rfl
    have hnext : (MessagePhase.holding (summaryCount summary)).uncounted = 0 := rfl
    rw [hcount, hfresh.1, hphase, hnothing, hnext]
    omega

/-- A message that is appended is one that its call has not counted. -/
theorem CountsMessages.advances_append (h : CountsMessages sessionId summary calls initial phase s) {n : Int}
    (hphase : phase i = .holding n) (c : MessageChoice) (message : Json) (maxEntries seconds : Int) :
    MessageAdvances sessionId summary calls initial phase i
      (.append (makeListKey sessionId) message maxEntries seconds) (fun r => .tried r.toBool n)
      ((messageRules code sessionId summary).answer c i
        (.append (makeListKey sessionId) message maxEntries seconds) s) := by
  have hagrees := h.agrees i
  rw [hphase] at hagrees
  obtain ⟨r, keyspace, hstore, hanswer⟩ :=
    @answer_append code sessionId summary s i c message maxEntries seconds
  rw [hanswer]
  refine ⟨trivial, h.next (h.lt_calls (hphase ▸ nofun)) (.tried r.toBool n) (fun entry hentry => ?_) ?_
    ⟨hagrees.1, ?_⟩ (fun _ _ => rfl) fun j hj => Function.update_of_ne hj _ _⟩
  · exact h.described entry (hstore ▸ hentry)
  · have huncounted : (MessagePhase.tried r.toBool n).uncounted = if r.toBool then 1 else 0 := by
      cases r.toBool with
      | true => rfl
      | false => rfl
    have hzero : (MessagePhase.holding n).uncounted = 0 := rfl
    rw [sessionCount_congr hstore, hphase, huncounted, hzero]
    dsimp only
    omega
  · exact Function.update_self ..

/-- The description is written with the count that its caller read and its message. In step, it is written
exactly where the message was appended and no other has been counted in between. -/
theorem CountsMessages.advances_count (h : CountsMessages sessionId summary calls initial phase s)
    {appended : Bool} {n : Int} (hphase : phase i = .tried appended n) {c : MessageChoice} {seconds : Int}
    (hseconds : 0 < seconds) {sessionMeta : Json} (hdescribes : Describes sessionMeta)
    (hcount : messageCount sessionMeta = n + 1)
    (hinstep : InStep sessionId summary c i (.setex (makeKey sessionId "meta") seconds sessionMeta) s) :
    MessageAdvances sessionId summary calls initial phase i
      (.setex (makeKey sessionId "meta") seconds sessionMeta) (fun _ => .done)
      ((messageRules code sessionId summary).answer c i
        (.setex (makeKey sessionId "meta") seconds sessionMeta) s) := by
  have hi : i < calls := h.lt_calls (hphase ▸ nofun)
  obtain ⟨hseen, houtcome⟩ : s.seen i = n ∧ s.outcome i = some appended := by
    have hagrees := h.agrees i
    rwa [hphase] at hagrees
  cases hfails : c.fails with
  | some e =>
    have hlost := hinstep.of_fails rfl hfails
    rw [houtcome] at hlost
    have happended : appended = false := by
      cases appended with
      | true => exact absurd rfl hlost
      | false => rfl
    rw [answer_setex_of_fails _ _ _ hfails]
    exact ⟨trivial, h.same hi (by rw [hphase, happended]; rfl) rfl rfl trivial (fun _ _ => rfl)
      fun _ _ => rfl⟩
  | none =>
    have hfresh := hinstep.of_served rfl hfails
    rw [hseen, houtcome] at hfresh
    have happended : appended = true := by
      cases appended with
      | true => rfl
      | false => exact absurd rfl hfresh.2
    rw [answer_setex hseconds _ hfails]
    refine ⟨trivial, h.written hi .done hdescribes ?_ (store_setex hseconds _ s.clock).2 trivial⟩
    have hnext : MessagePhase.done.uncounted = 0 := rfl
    rw [hcount, hfresh.1, hphase, happended, hnext]
    exact (sub_zero _).symm

/-- The rules keep the count, as long as each command does. -/
theorem messageRules_advance {cache : SessionMemoryCache} (hlifetime : 0 < cache.lifetime none) :
    (messageRules code sessionId summary).AdvanceIf (MessageAnswers summary)
      (fun _ => messageProtocol cache sessionId summary) (CountsMessages sessionId summary calls initial)
      fun c i o s => DescriptionLives sessionId c i o s ∧ InStep sessionId summary c i o s := by
  refine ⟨fun c i o s phase h hmay hcondition => ?_, fun ms s phase h =>
    ⟨h.described, h.count, h.agrees, h.idle⟩⟩
  obtain ⟨hlives, hinstep⟩ := hcondition
  have hagrees := h.agrees i
  generalize hphase : phase i = g at hmay hagrees ⊢
  cases hmay with
  | now g =>
    have hnext (r) : (messageProtocol cache sessionId summary).next g .now r = phase i := by
      rw [hphase]
      cases g <;> rfl
    rw [hnext, Function.update_eq_self]
    exact ⟨trivial, h.described, h.count, h.agrees, h.idle⟩
  | read => exact h.advances_read hlives (h.lt_calls (hphase ▸ nofun)) hagrees (by rw [hphase]; rfl) c
  | readAgain => exact h.advances_read hlives (h.lt_calls (hphase ▸ nofun)) hagrees.2 (by rw [hphase]; rfl) c
  | summary tenantId agentId =>
    have hnext (r) : (messageProtocol cache sessionId summary).next .absent
        (.summaryBySessionId tenantId agentId sessionId) r = phase i := hphase.symm
    rw [hnext, Function.update_eq_self]
    refine ⟨fun found hfound => ?_, h.described, h.count, h.agrees, h.idle⟩
    dsimp only [messageRules, MemoryKeyspace.env, MessageChoice.outside] at hfound
    cases hfails : c.fails with
    | none =>
      rw [hfails] at hfound
      exact (Except.ok.inj hfound).symm
    | some e =>
      rw [hfails] at hfound
      cases hfound
  | create hdescribes hcount => exact h.advances_create hphase hlifetime hdescribes hcount hinstep
  | append n message => exact h.advances_append hphase c message 100 (cache.lifetime none)
  | count appended hdescribes hcount => exact h.advances_count hphase hlifetime hdescribes hcount hinstep

/-- The calls begin where nothing is uncounted. -/
theorem following_messagePool {service : SessionMemoryService} {tenantId agentId : UUID}
    {messages : List SessionMessage} (hsummary : CountsSummary summary)
    (hdescribed : ∀ entry, keyspace.store (makeKey sessionId "meta") = some entry →
      ∃ sessionMeta, entry.value = .string sessionMeta ∧ Describes sessionMeta) :
    (messagePool service tenantId agentId sessionId messages keyspace).Following (MessageAnswers summary)
      (fun _ => messageProtocol service.sessionCache sessionId summary)
      (CountsMessages sessionId summary messages.length (sessionCount sessionId summary keyspace))
      fun i => if i < messages.length then .start else .done := by
  refine ⟨fun i q hq => ?_, hdescribed, ?_, fun i => ?_, fun i hi => if_neg (Nat.not_lt.2 hi)⟩
  · obtain ⟨message, hmessage, rfl⟩ : ∃ message, messages[i]? = some message ∧
        (service.addToSession tenantId agentId sessionId message.role message.content
          message.metadata).on () = q := by
      simpa [messagePool] using hq
    rw [if_pos (List.getElem?_eq_some_iff.1 hmessage).1]
    exact follows_addToSession hsummary message.role message.content message.metadata
  · have hnothing : uncountedMessages messages.length
        (fun i => if i < messages.length then .start else .done) = 0 := by
      refine Finset.sum_eq_zero fun i hi => ?_
      have hstart : (if i < messages.length then MessagePhase.start else .done) = .start :=
        if_pos (Finset.mem_range.1 hi)
      exact congrArg MessagePhase.uncounted hstart
    rw [hnothing]
    rfl
  · split
    · rfl
    · trivial

/-- Where every call has returned, every message is counted. -/
theorem uncountedMessages_eq_zero {p : MessagePool} {cache : SessionMemoryCache}
    {J : (Nat → MessagePhase) → SessionMessages → Prop}
    (h : p.Following (MessageAnswers summary) (fun _ => messageProtocol cache sessionId summary) J phase)
    (hended : ∀ i < calls, (p.ending i).isSome) : uncountedMessages calls phase = 0 := by
  refine Finset.sum_eq_zero fun i hi => ?_
  obtain ⟨ending, hending⟩ := Option.isSome_iff_exists.1 (hended i (Finset.mem_range.1 hi))
  exact h.threads i _ (Pool.ending_eq_some.1 hending)

end

/-- In every schedule each of whose commands keeps the description in step, and along which it does not
expire, the count is in the end the initial one with the messages that were appended. -/
theorem messageCount_eq_of_inStep (code : UInt8 → Int) (service : SessionMemoryService)
    (tenantId agentId : UUID) (sessionId : String) (summary : Option SessionSummary)
    (messages : List SessionMessage) (keyspace : MemoryKeyspace) (hsummary : CountsSummary summary)
    (hdescribed : ∀ entry, keyspace.store (makeKey sessionId "meta") = some entry →
      ∃ sessionMeta, entry.value = .string sessionMeta ∧ Describes sessionMeta)
    (hlifetime : 0 < service.sessionCache.lifetime none) {schedule : List (Act MessageChoice Nat)}
    (hlives : Pool.Meets (messageRules code sessionId summary) (Pool.ActMeets (DescriptionLives sessionId))
      (messagePool service tenantId agentId sessionId messages keyspace) schedule)
    (hinstep : Pool.Meets (messageRules code sessionId summary) (Pool.ActMeets (InStep sessionId summary))
      (messagePool service tenantId agentId sessionId messages keyspace) schedule) :
    let p := (messagePool service tenantId agentId sessionId messages keyspace).run
      (messageRules code sessionId summary) schedule
    (∀ i < messages.length, (p.ending i).isSome) →
      sessionCount sessionId summary p.shared.keyspace =
        sessionCount sessionId summary keyspace + p.shared.appended := by
  intro p hended
  have hmeets := (hlives.and hinstep).mono fun p a h => Pool.ActMeets.and h.1 h.2
  obtain ⟨phase, hphase⟩ := (following_messagePool hsummary hdescribed).run_of_actMeets
    (messageRules_advance hlifetime) hmeets
  have hcount := hphase.shared.count
  rwa [uncountedMessages_eq_zero hphase hended, add_zero] at hcount

/-! ## Two messages -/

namespace TwoMessages

def messages : List SessionMessage :=
  [{ role := "user", content := "one" }, { role := "user", content := "two" }]

/-- Two calls for a session that is not there. -/
def pool : MessagePool := messagePool .plain ⟨1⟩ ⟨2⟩ "s" messages .empty

abbrev rules : Rules MemoryCall MemoryCall.Ans SessionMessages MessageChoice Nat :=
  messageRules (fun _ => 0) "s" none

/-- The next commands of a call, none of which fails. -/
def nexts (i n : Nat) : List (Act MessageChoice Nat) := List.replicate n (.thread i {})

/-- One call after the other: the first one creates the session. -/
def inTurn : List (Act MessageChoice Nat) := nexts 0 11 ++ nexts 1 5

/-- The second call reads the description before the first one counts its message. -/
def crossing : List (Act MessageChoice Nat) := nexts 0 7 ++ nexts 1 1 ++ nexts 0 4 ++ nexts 1 4

end TwoMessages

open TwoMessages

/-- One after the other, both messages are counted. -/
theorem messageCount_eq_of_inStep_inTurn :
    Pool.Meets rules (Pool.ActMeets (DescriptionLives "s")) pool inTurn ∧
      Pool.Meets rules (Pool.ActMeets (InStep "s" none)) pool inTurn ∧
      (∀ i < messages.length, ((pool.run rules inTurn).ending i).isSome) ∧
      sessionCount "s" none (pool.run rules inTurn).shared.keyspace =
        sessionCount "s" none .empty + (pool.run rules inTurn).shared.appended := by
  have hlives : Pool.Meets rules (Pool.ActMeets (DescriptionLives "s")) pool inTurn := by decide +kernel
  have hinstep : Pool.Meets rules (Pool.ActMeets (InStep "s" none)) pool inTurn := by decide +kernel
  have hended : ∀ i < messages.length, ((pool.run rules inTurn).ending i).isSome := by decide +kernel
  exact ⟨hlives, hinstep, hended,
    messageCount_eq_of_inStep (fun _ => 0) .plain ⟨1⟩ ⟨2⟩ "s" none messages .empty nofun nofun (by decide)
      hlives hinstep hended⟩

/-- Two calls that read the same count both append their messages, and one of them is not counted. -/
theorem not_messageCount_eq :
    ¬∀ (messages : List SessionMessage) (schedule : List (Act MessageChoice Nat)),
      let p := (messagePool .plain ⟨1⟩ ⟨2⟩ "s" messages .empty).run rules schedule
      Pool.Meets rules (Pool.ActMeets (DescriptionLives "s"))
          (messagePool .plain ⟨1⟩ ⟨2⟩ "s" messages .empty) schedule →
        (∀ i < messages.length, (p.ending i).isSome) →
          sessionCount "s" none p.shared.keyspace = p.shared.appended := by
  intro h
  have hcount := h messages crossing (by decide +kernel) (by decide +kernel)
  revert hcount
  decide +kernel

end AgentRuntime
