import AgentRuntime.Interaction.Protocol
import AgentRuntime.Python.Values

/-!
# The outbox flusher

`_flush_audit_outbox_async` (`app/workers/outbox_flusher.py`) over the rows of `outbox_events`
(`app/infrastructure/db/models/outbox.py`). Each run has a session of its own: what it flushes is in the
session's transaction until the commit, and a flush that fails rolls that back and deactivates the session.
How an event is processed, and which statements fail, is part of the schedule.
-/

namespace AgentRuntime

open Interaction

/-- A row of `outbox_events`. -/
structure OutboxEvent where
  id : UUID
  eventType : String
  aggregateId : String
  aggregateType : String
  payload : Dict
  processedAt : Option Time := none
  retryCount : Int := 0
  lastError : Option String := none
  createdAt : Time
  updatedAt : Time

namespace OutboxFlusher

/-- What a flush writes: the columns of one event that were assigned. -/
inductive Update where
  | processed (eventId : UUID) (processedAt updatedAt : Time)
  | failed (eventId : UUID) (retryCount : Int) (lastError : String) (updatedAt : Time)

/-- The row after the update. -/
def Update.apply (event : OutboxEvent) : Update → OutboxEvent
  | processed eventId processedAt updatedAt =>
    if event.id = eventId then { event with processedAt := some processedAt, updatedAt } else event
  | failed eventId retryCount lastError updatedAt =>
    if event.id = eventId then { event with retryCount, lastError := some lastError, updatedAt } else event

/-- What a run awaits, or reads from outside. `attributes` stands for the reading of an event's attributes
in the handler: a failed flush has expired them, and the session refuses to load them again. -/
inductive Await where
  | select (limit : Int)
  | processAuditEvent (event : OutboxEvent)
  | utcnow
  | attributes (event : OutboxEvent)
  | flush (update : Update)
  | commit

/-- What it is answered. -/
@[reducible] def Await.Ans : Await → Type
  | .select _ => Except PyError (List OutboxEvent)
  | .processAuditEvent _ => Except PyError Unit
  | .utcnow => Time
  | .attributes _ => Except PyError Unit
  | .flush _ => Except PyError Unit
  | .commit => Except PyError Unit

abbrev Flusher := Proc Await Await.Ans PyError Unit

/-- The part of `Settings` that the flusher reads. -/
structure Settings where
  auditEnabled : Bool := true
  auditBatchSize : Int := 100

/-- The `try` statement of the loop. -/
def flushEvent (processedCount : Nat) (event : OutboxEvent) : Flusher Nat :=
  tryCatch
    (do
      Proc.tryCall (.processAuditEvent event) id
      let processedAt ← Proc.call .utcnow
      let updatedAt ← Proc.call .utcnow
      Proc.tryCall (.flush (.processed event.id processedAt updatedAt)) id
      return processedCount + 1)
    fun e => do
      Proc.tryCall (.attributes event) id
      let updatedAt ← Proc.call .utcnow
      Proc.tryCall (.flush (.failed event.id (event.retryCount + 1) e.str updatedAt)) id
      return processedCount

/-- `_flush_audit_outbox_async`. -/
def flushAuditOutbox (settings : Settings) : Flusher Nat := do
  if ¬settings.auditEnabled then
    return 0
  else
    let events ← Proc.tryCall (.select settings.auditBatchSize) id
    let processedCount ← events.foldlM flushEvent 0
    Proc.tryCall .commit id
    return processedCount

/-! ## The database -/

/-- What a run's session has flushed since it began, and whether a statement of it has failed. -/
structure FlushSession where
  updates : List Update := []
  failed : Bool := false

/-- The committed rows and the sessions of the runs. The rest is a record that no answer depends on: the
events that each run has selected, and those whose processing it has begun, with the outcome. -/
structure Outbox where
  rows : List OutboxEvent
  sessions : Nat → FlushSession := fun _ => {}
  selected : List (Nat × UUID) := []
  attempts : List (Nat × UUID × Bool) := []

/-- What is open about an await: how the processing ends, whether the database refuses the statement, the
time, and the order in which a statement without `ORDER BY` finds the rows. -/
structure Happening where
  processing : Except PyError Unit := .ok ()
  refuses : Option PyError := none
  now : Time := 0
  scan : List OutboxEvent → List OutboxEvent := id
  scan_perm : ∀ rows, (scan rows).Perm rows := by exact fun _ => .refl _

/-- The condition of the statement. -/
def Unprocessed (event : OutboxEvent) : Prop := event.eventType = "audit_log" ∧ event.processedAt = none

instance : DecidablePred Unprocessed := fun _ => inferInstanceAs (Decidable (_ ∧ _))

namespace Outbox

/-- `self.sessions[run] = session`. -/
def setSession (self : Outbox) (run : Nat) (session : FlushSession) : Outbox :=
  { self with sessions := Function.update self.sessions run session }

/-- A statement of a session, unless the session has failed or the database refuses it, which drops what
the session flushed. -/
def statement {α : Type} (self : Outbox) (run : Nat) (refuses : Option PyError)
    (result : Except PyError α × Outbox) : Except PyError α × Outbox :=
  if (self.sessions run).failed then (.error (.external "PendingRollbackError"), self)
  else match refuses with
    | some e => (.error e, self.setSession run { failed := true })
    | none => result

/-- The rows after all updates of a session. -/
def committed (self : Outbox) (run : Nat) : List OutboxEvent :=
  self.rows.map fun event => (self.sessions run).updates.foldl Update.apply event

end Outbox

/-- The answers of the database, and of the processing. -/
def outboxAnswer (happening : Happening) (run : Nat) : (o : Await) → Outbox → o.Ans × Outbox
  | .select limit, s =>
    let events := ((happening.scan s.rows).filter Unprocessed).take limit.toNat
    s.statement run happening.refuses <|
      if limit < 0 then (.error (.external "LIMIT must not be negative"), s)
      else (.ok events, { s with selected := s.selected ++ events.map fun event => (run, event.id) })
  | .processAuditEvent event, s =>
    (happening.processing,
      { s with attempts := s.attempts ++ [(run, event.id, happening.processing.isOk)] })
  | .utcnow, s => (happening.now, s)
  | .attributes _, s => s.statement run none (.ok (), s)
  | .flush update, s =>
    s.statement run happening.refuses
      (.ok (), s.setSession run { updates := (s.sessions run).updates ++ [update] })
  | .commit, s =>
    s.statement run happening.refuses
      (.ok (), { s.setSession run {} with rows := s.committed run })

/-- The rules of the outbox. -/
def outboxRules : Rules Await Await.Ans Outbox Happening Empty where
  answer := outboxAnswer
  outside := nofun

/-- How a run ends: with an exception, or the number of processed events. -/
abbrev Ending := Except PyError Nat × Unit

/-- Runs of the flusher that have not started. -/
def flusherPool (runs : List Settings) (rows : List OutboxEvent) : Pool Await Await.Ans Ending Outbox where
  threads := runs.map fun settings => (flushAuditOutbox settings).on ()
  shared := { rows }

end OutboxFlusher

end AgentRuntime
