import AgentRuntime.Interaction.BigStep
import AgentRuntime.Runtime.MemoryWorld
import AgentRuntime.Services.SessionMemoryService

/-!
# What is stored of a summary

A session is summarized, and its summary stored twice: as a row of its own, and as memory by the write
service. The write service encrypts what it stores, the row is stored as it is built. So the column
`summary_ciphertext` holds the summary in plain text whenever there is a row at all
(`stores_encrypted_iff`).
-/

namespace AgentRuntime

open Interaction SessionMemoryCache

/-- Writing memory leaves the summaries alone. -/
theorem Circumstances.env_writeCall {code : UInt8 → Int} {c : Circumstances} {tenantId : UUID}
    {o : MemoryCall} (h : MemoryWriteService.WriteCall tenantId o) (s : MemoryState) :
    (c.env code o s).2.tables.summaries = s.tables.summaries := by
  cases o with
  | recordCreate record =>
    simp only [env, execute]
    split
    · rfl
    · rfl
  | policyByTenantScope _ _ | countByTenant _ _ | storageMb _ | generateEmbedding _ _ | encrypt _ _
  | outboxCreate _ _ _ _ | now | newUUID => rfl
  | _ => exact h.elim

/-- A summary is stored if it is not refused and is the first of its session. -/
theorem Circumstances.env_summaryCreate (code : UInt8 → Int) (c : Circumstances)
    (summary : SessionSummary) (s : MemoryState) :
    (c.env code (.summaryCreate summary) s).2.tables.summaries =
      if c.refuses (.summaryCreate summary) = none ∧ s.tables.summaries.any (MemoryTables.OfSession
          summary.tenantId summary.agentId summary.sessionId) = false then s.tables.summaries ++ [summary]
      else s.tables.summaries := by
  simp only [env, execute, MemoryTables.createSummary]
  cases c.refuses (.summaryCreate summary) with
  | some e => rfl
  | none =>
    dsimp only
    cases s.tables.summaries.any (MemoryTables.OfSession summary.tenantId summary.agentId
      summary.sessionId) with
    | true => rfl
    | false => rfl

namespace SessionMemoryService

open Proc

variable (code : UInt8 → Int) (c : Circumstances) (self : SessionMemoryService) (tenantId agentId : UUID)
  (sessionId : String) (world : MemoryWorld)

/-- The conversation that is summarized. -/
def storedHistory : List Json :=
  (c.env code (.lrange (makeListKey sessionId) 0 (-1)) { world with }).1.toOption.getD []

/-- What is stored after the session has been summarized. -/
def summarized : MemoryWorld :=
  (((self.summarizeSession tenantId agentId sessionId).on ()).exec (c.env code)
    { world with }).state.toMemoryWorld

/-- The summary as the write service normalizes and redacts it. -/
def redactedSummary (summary : String) : String :=
  let normalizedContent := self.writeService.normalize summary
  (self.writeService.redact normalizedContent (self.writeService.classify normalizedContent tenantId)
    tenantId).redactedText

/-- A row that is stored can be decrypted to the summary, and is not the summary. -/
def StoresEncrypted : Prop :=
  ∀ summary row, createExtractiveSummary (storedHistory code c sessionId world) = .ok summary →
    (self.summarized code c tenantId agentId sessionId world).tables.summaries =
      world.tables.summaries ++ [row] →
    c.plaintext row.summaryCiphertext tenantId = .ok (self.redactedSummary tenantId summary) ∧
      row.summaryCiphertext ≠ summary

/-- The row of the summary. -/
def summaryRow (history : List Json) (summary : String) : SessionSummary where
  id := c.uuid 1
  createdAt := c.clock 2
  updatedAt := c.clock 3
  tenantId := tenantId
  agentId := agentId
  sessionId := sessionId
  summaryCiphertext := summary
  metadata := [("message_count", .int history.length),
    ("summarized_at", MemoryService.isoformat (c.clock 0)), ("original_messages", .int history.length)]

/-- A row is stored: there is a conversation, its summary can be built, and there is none of the session. -/
structure StoresRow (summary : String) : Prop where
  nonempty : storedHistory code c sessionId world ≠ []
  built : createExtractiveSummary (storedHistory code c sessionId world) = .ok summary
  answered : c.refuses (.summaryCreate (summaryRow c tenantId agentId sessionId
    (storedHistory code c sessionId world) summary)) = none
  first : world.tables.summaries.any (MemoryTables.OfSession tenantId agentId sessionId) = false

variable {code c self tenantId agentId sessionId world}

/-- Reading the conversation gives what is stored, and changes nothing. -/
theorem ends_getFullHistory : Ends (c.env code) { world with } (getFullHistory sessionId)
    (.ok (storedHistory code c sessionId world)) { world with } := by
  unfold Ends
  rw [getFullHistory, on_getAllHistory]
  exact ⟨rfl, c.env_lrange code _ _ _ _⟩

/-- What follows the row in the coroutine leaves the summaries alone. -/
theorem summaries_writeMemory {s : MemoryState} (ns : String) (scope : MemoryScope) (metadata : Dict)
    (content : String) (savedSummary : SessionSummary) :
    (((self.writeService.writeMemory tenantId agentId scope ns metadata (some sessionId) content >>=
      fun _ => pure (some savedSummary)).on ()).exec (c.env code) s).state.tables.summaries =
        s.tables.summaries := by
  have hmakes := keeps_bind (self.writeService.makes_writeMemory tenantId agentId scope ns metadata
    (some sessionId) content) fun _ => keeps_pure (some savedSummary)
  refine (hmakes () trivial).exec_state (I := fun s' : MemoryState => s'.tables.summaries =
    s.tables.summaries) _ (fun o s' ho hs' => ?_) rfl
  exact (Circumstances.env_writeCall ho s').trans hs'

/-- The run of the coroutine up to its row. -/
theorem summaries_summarizeSession {summary : String}
    (hhistory : storedHistory code c sessionId world ≠ [])
    (hsummary : createExtractiveSummary (storedHistory code c sessionId world) = .ok summary) :
    (self.summarized code c tenantId agentId sessionId world).tables.summaries =
      (c.env code (.summaryCreate (summaryRow c tenantId agentId sessionId
        (storedHistory code c sessionId world) summary))
        { world with draws := 4 }).2.tables.summaries := by
  have hbuilt (s : MemoryState) : Ends (c.env code) s
      (ofExcept (createExtractiveSummary (storedHistory code c sessionId world))) (.ok summary) s :=
    hsummary ▸ ends_ofExcept _
  have hempty : ¬(storedHistory code c sessionId world).isEmpty = true :=
    fun h => hhistory (List.isEmpty_iff.1 h)
  unfold summarized summarizeSession
  rw [ends_getFullHistory.state_bind, if_neg hempty, (hbuilt _).state_bind, (ends_call _).state_bind,
    (ends_call _).state_bind, (ends_call _).state_bind, (ends_call _).state_bind]
  let s : MemoryState := { world with draws := 4 }
  let call : MemoryCall := .summaryCreate (summaryRow c tenantId agentId sessionId
    (storedHistory code c sessionId world) summary)
  have hcreate : Ends (c.env code) s (tryCall call id) (c.env code call s).1 (c.env code call s).2 :=
    ends_tryCall _ _
  rcases hanswer : (c.env code call s).1 with e | savedSummary
  · rw [hanswer] at hcreate
    exact congrArg (·.tables.summaries) hcreate.bind_error.2
  · rw [hanswer] at hcreate
    refine Eq.trans (congrArg (·.tables.summaries) hcreate.state_bind) ?_
    exact summaries_writeMemory "session_summary" .durable _ summary savedSummary

/-- A row that is stored is the summary as it was built. -/
theorem StoresRow.summaries {summary : String}
    (h : StoresRow code c tenantId agentId sessionId world summary) :
    (self.summarized code c tenantId agentId sessionId world).tables.summaries =
      world.tables.summaries ++ [summaryRow c tenantId agentId sessionId
        (storedHistory code c sessionId world) summary] := by
  rw [summaries_summarizeSession h.nonempty h.built]
  exact (c.env_summaryCreate code _ _).trans (if_pos ⟨h.answered, h.first⟩)

/-- Otherwise no row is. -/
theorem summaries_of_not_storesRow {summary : String}
    (hsummary : createExtractiveSummary (storedHistory code c sessionId world) = .ok summary)
    (h : ¬StoresRow code c tenantId agentId sessionId world summary) :
    (self.summarized code c tenantId agentId sessionId world).tables.summaries =
      world.tables.summaries := by
  by_cases hhistory : storedHistory code c sessionId world = []
  · unfold summarized summarizeSession
    rw [ends_getFullHistory.state_bind, hhistory]
    rfl
  · rw [summaries_summarizeSession hhistory hsummary]
    refine (c.env_summaryCreate code _ _).trans (if_neg ?_)
    rintro ⟨hanswered, hfirst⟩
    exact h ⟨hhistory, hsummary, hanswered, hfirst⟩

end SessionMemoryService

/-- A stored row is never an encrypted one: `summarize_session` hands the plain summary to the repository, so
the rows are encrypted only where none is stored. -/
theorem stores_encrypted_iff (code : UInt8 → Int) (c : Circumstances) (self : SessionMemoryService)
    (tenantId agentId : UUID) (sessionId : String) (world : MemoryWorld) :
    self.StoresEncrypted code c tenantId agentId sessionId world ↔
      ∀ summary, ¬SessionMemoryService.StoresRow code c tenantId agentId sessionId world summary := by
  constructor
  · intro hencrypted summary hstores
    exact (hencrypted summary _ hstores.built hstores.summaries).2 rfl
  · intro hnone summary row hsummary hrow
    rw [SessionMemoryService.summaries_of_not_storesRow hsummary (hnone summary)] at hrow
    have hlength := congrArg List.length hrow
    rw [List.length_append, List.length_singleton] at hlength
    omega

/-! ## A conversation of one message -/

namespace PlainSummary

def reversed (text : String) : String := String.ofList text.toList.reverse

/-- A text is encrypted by being reversed. -/
def circumstances : Circumstances :=
  { Circumstances.calm 0 with
    ciphertext := fun _ plaintext _ => .ok (reversed plaintext)
    plaintext := fun ciphertext _ => .ok (reversed ciphertext) }

def message : Json := .dict [("role", .str "user"), ("content", .str "my diagnosis")]

def summary : String :=
  "Conversation with 1 messages (1 user, 0 assistant). User asked about: my diagnosis"

/-- The message is in the cache, and no summary is stored. -/
def world : MemoryWorld where
  keyspace := (MemoryKeyspace.append 0 .empty (makeListKey "s") message 100 604800).2

end PlainSummary

/-- The summary is stored in plain text, word for word what was said about the conversation. -/
theorem not_stores_encrypted :
    ¬SessionMemoryService.plain.StoresEncrypted (fun _ => 0) PlainSummary.circumstances ⟨1⟩ ⟨2⟩ "s"
      PlainSummary.world := by
  intro hencrypted
  have hhistory : SessionMemoryService.storedHistory (fun _ => 0) PlainSummary.circumstances "s"
      PlainSummary.world = [PlainSummary.message] := by
    rfl
  have hstores : SessionMemoryService.StoresRow (fun _ => 0) PlainSummary.circumstances ⟨1⟩ ⟨2⟩ "s"
      PlainSummary.world PlainSummary.summary :=
    ⟨by rw [hhistory]; exact List.cons_ne_nil _ _, by rw [hhistory]; rfl, rfl, rfl⟩
  exact (hencrypted _ _ hstores.built hstores.summaries).2 rfl

end AgentRuntime
