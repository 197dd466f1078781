import AgentRuntime.Cache.SessionMemoryCache
import AgentRuntime.Services.MemoryWriteService

/-!
# The session memory service

`SessionMemoryService` (`app/application/services/session_memory_service.py`). A session has its
description and its conversation in the cache, and a summary in the database. What is read from the cache
is any JSON value; where it is used as a dictionary and is none, an exception is raised.
-/

namespace AgentRuntime

open Interaction

/-- Service for managing session-based memory with Redis cache and PostgreSQL persistence. -/
structure SessionMemoryService where
  writeService : MemoryWriteService
  sessionCache : SessionMemoryCache := {}
  /-- The `repr` of a float with one added. -/
  floatAddOne : String → String := id

namespace SessionMemoryService

/-- A service whose text tools change nothing. -/
def plain : SessionMemoryService where
  writeService := .plain

/-! ## Summaries -/

/-- `msg.get("role") == role`. -/
def hasRole (role : String) (msg : Dict) : Bool :=
  match msg.get? "role" with
  | some (.str role') => role' == role
  | _ => false

/-- `[msg["content"] for msg in history if msg.get("role") == role]`. -/
def contentsOf (role : String) : List Json → Except PyError (List Json)
  | [] => .ok []
  | msg :: history => do
    let msg ← msg.asDict
    if hasRole role msg then
      match msg.get? "content" with
      | none => .error (.keyError "content")
      | some content => return content :: (← contentsOf role history)
    else contentsOf role history

/-- The texts that `str.join` joins, from the item with this number on. -/
def texts (item : Nat) : List Json → Except PyError (List String)
  | [] => .ok []
  | .str text :: values => (text :: ·) <$> texts (item + 1) values
  | value :: _ =>
    .error (.typeError s!"sequence item {item}: expected str instance, {value.typeName} found")

/-- `"; ".join(values)`. -/
def joined (values : List Json) : Except PyError String := (String.intercalate "; ") <$> texts 0 values

/-- The first five messages after a heading, if there are any. -/
def summaryPart (heading : String) (messages : List Json) : Except PyError (List String) :=
  if messages.isEmpty then .ok [] else (fun text => [heading ++ text]) <$> joined (messages.take 5)

/-- Create an extractive summary from conversation history. -/
def createExtractiveSummary (history : List Json) : Except PyError String := do
  let userMessages ← contentsOf "user" history
  let assistantMessages ← contentsOf "assistant" history
  let heading := s!"Conversation with {history.length} messages ({userMessages.length} user, " ++
    s!"{assistantMessages.length} assistant)."
  let asked ← summaryPart "User asked about: " userMessages
  let responded ← summaryPart "Assistant responded to: " assistantMessages
  return String.intercalate " " (heading :: asked ++ responded)

/-! ## The operations -/

/-- The description of a session. -/
def description (sessionId : String) (tenantId agentId : UUID) (createdAt updatedAt messageCount : Json)
    (metadata : Dict) : Json :=
  .dict [("session_id", .str sessionId), ("tenant_id", .str tenantId.str), ("agent_id", .str agentId.str),
    ("created_at", createdAt), ("updated_at", updatedAt), ("message_count", messageCount),
    ("metadata", .dict metadata)]

/-- What a record of the conversation is shown as. -/
def historyEntry (record : MemoryRecord) : Json :=
  .dict [("role", (record.metadata.get? "role").getD (.str "assistant")), ("content", .str "[ENCRYPTED]"),
    ("timestamp", MemoryService.isoformat record.createdAt), ("metadata", .dict record.metadata)]

/-- What a summary is listed as. -/
def listEntry (summary : SessionSummary) : Json :=
  .dict [("session_id", .str summary.sessionId), ("summary_id", .str summary.id.str),
    ("created_at", MemoryService.isoformat summary.createdAt),
    ("updated_at", MemoryService.isoformat summary.updatedAt),
    ("message_count", (summary.metadata.get? "message_count").getD (.int 0)),
    ("metadata", .dict summary.metadata)]

variable (self : SessionMemoryService) (tenantId agentId : UUID) (sessionId : String)

/-- `count + 1`. -/
def addOne : Json → Except PyError Json
  | .int n => .ok (.int (n + 1))
  | .bool b => .ok (.int (b.toInt + 1))
  | .float text => .ok (.float (self.floatAddOne text))
  | .str _ => .error (.typeError "can only concatenate str (not \"int\") to str")
  | .list _ => .error (.typeError "can only concatenate list (not \"int\") to list")
  | value => .error (.typeError s!"unsupported operand type(s) for +: '{value.typeName}' and 'int'")

/-- Create a new session. -/
def createSession (metadata : Option Dict) : MemoryService Json := do
  match (← SessionMemoryCache.get sessionId "meta").filter Json.truthy with
  | some existing => return existing
  | none =>
    let _ ← Proc.tryCall (.summaryBySessionId tenantId agentId sessionId) id
    let createdAt ← MemoryService.now
    let updatedAt ← MemoryService.now
    let sessionMeta := description sessionId tenantId agentId (MemoryService.isoformat createdAt)
      (MemoryService.isoformat updatedAt) (.int 0) (metadata.getD [])
    let _ ← self.sessionCache.set sessionId "meta" sessionMeta none
    return sessionMeta

/-- Get session metadata. -/
def getSessionMeta : MemoryService (Option Json) := do
  match (← SessionMemoryCache.get sessionId "meta").filter Json.truthy with
  | some sessionMeta => return some sessionMeta
  | none =>
    match ← Proc.tryCall (.summaryBySessionId tenantId agentId sessionId) id with
    | none => return none
    | some summary =>
      let sessionMeta := description sessionId tenantId agentId
        (MemoryService.isoformat summary.createdAt) (MemoryService.isoformat summary.updatedAt)
        ((summary.metadata.get? "message_count").getD (.int 0)) summary.metadata
      let _ ← self.sessionCache.set sessionId "meta" sessionMeta none
      return some sessionMeta

/-- Get or create session. -/
def getOrCreateSession : MemoryService Json := do
  match (← self.getSessionMeta tenantId agentId sessionId).filter Json.truthy with
  | some sessionMeta => return sessionMeta
  | none => self.createSession tenantId agentId sessionId none

/-- Add a message to the session. -/
def addToSession (role content : String) (metadata : Option Dict) : MemoryService Json := do
  let sessionMeta ← self.getOrCreateSession tenantId agentId sessionId
  let timestamp ← MemoryService.now
  let message : Json := .dict [("role", .str role), ("content", .str content),
    ("timestamp", MemoryService.isoformat timestamp), ("metadata", .dict (metadata.getD []))]
  let _ ← self.sessionCache.appendToHistory sessionId message 100 none
  let entries ← Proc.ofExcept sessionMeta.asDict
  let messageCount ← Proc.ofExcept (self.addOne ((entries.get? "message_count").getD (.int 0)))
  let updatedAt ← MemoryService.now
  let sessionMeta : Json :=
    .dict ((entries.set "message_count" messageCount).set "updated_at" (MemoryService.isoformat updatedAt))
  let _ ← self.sessionCache.set sessionId "meta" sessionMeta none
  return sessionMeta

/-- `append_to_history` for one message after another. -/
def appendEach : List Json → MemoryService Unit
  | [] => return
  | msg :: history => do
    let _ ← self.sessionCache.appendToHistory sessionId msg 100 none
    appendEach history

/-- Get recent conversation context for a session. -/
def getSessionContext (limit : Int) : MemoryService (List Json) := do
  let history ← SessionMemoryCache.getRecentHistory sessionId limit
  if history.isEmpty then
    let records ← Proc.tryCall (.searchByVector tenantId agentId (List.replicate 1536 0) "conversation"
      .session limit (some sessionId)) id
    let history := records.map fun record => historyEntry record.1
    self.appendEach sessionId history
    return history
  else return history

/-- Get full conversation history for a session. -/
def getFullHistory : MemoryService (List Json) := SessionMemoryCache.getAllHistory sessionId

/-- Summarize a session and persist to durable storage. -/
def summarizeSession : MemoryService (Option SessionSummary) := do
  let history ← getFullHistory sessionId
  if history.isEmpty then return none
  else
    let summaryContent ← Proc.ofExcept (createExtractiveSummary history)
    let summarizedAt ← MemoryService.now
    let summary : SessionSummary :=
      { id := ← MemoryService.newUUID
        createdAt := ← MemoryService.now
        updatedAt := ← MemoryService.now
        tenantId, agentId, sessionId
        summaryCiphertext := summaryContent
        metadata := [("message_count", .int history.length),
          ("summarized_at", MemoryService.isoformat summarizedAt),
          ("original_messages", .int history.length)] }
    let savedSummary ← Proc.tryCall (.summaryCreate summary) id
    let _ ← self.writeService.writeMemory tenantId agentId .durable "session_summary"
      [("session_id", .str sessionId), ("summary_id", .str savedSummary.id.str),
        ("message_count", .int history.length)] (some sessionId) summaryContent
    return some savedSummary

/-- `meta.get("message_count", 0) if meta else 0`. -/
def finalMessageCount (sessionMeta : Option Json) : Except PyError Json :=
  match sessionMeta.filter Json.truthy with
  | some sessionMeta => do return ((← sessionMeta.asDict).get? "message_count").getD (.int 0)
  | none => .ok (.int 0)

/-- End a session and persist to durable storage. -/
def endSession : MemoryService Json := do
  let summary ← self.summarizeSession tenantId agentId sessionId
  let sessionMeta ← SessionMemoryCache.get sessionId "meta"
  let _ ← SessionMemoryCache.clearSession sessionId
  let endedAt ← MemoryService.now
  let finalMessageCount ← Proc.ofExcept (finalMessageCount sessionMeta)
  return .dict [("session_id", .str sessionId), ("ended_at", MemoryService.isoformat endedAt),
    ("summarized", .bool summary.isSome),
    ("summary_id", (summary.map fun summary => Json.str summary.id.str).getD .null),
    ("final_message_count", finalMessageCount)]

/-- List sessions for an agent. -/
def listSessions (limit offset : Int) : MemoryService (List Json) := do
  let summaries ← Proc.tryCall (.summariesByAgent tenantId agentId limit offset) id
  return summaries.map listEntry

/-- Delete a session completely. -/
def deleteSession : MemoryService Bool := do
  let _ ← SessionMemoryCache.clearSession sessionId
  Proc.tryCall (.summaryDelete tenantId agentId sessionId) id

end SessionMemoryService

end AgentRuntime
