import AgentRuntime.Workers.OutboxFlusher
import Mathlib.Data.List.Sort

/-!
# The outbox repository

`SQLOutboxRepository` (`app/infrastructure/db/repositories/outbox.py`) over the rows of `outbox_events`.
`to_entity` and `from_entity` (`app/infrastructure/db/models/outbox.py`) copy all columns, so an event and
its row are one here. The times that a statement is called with are the repository's `datetime.utcnow()`.
-/

namespace AgentRuntime

open OutboxFlusher

namespace OutboxEvent

/-- `OutboxEvent.create`, with the identifier and the times it takes. -/
def create (id : UUID) (createdAt updatedAt : Time) (eventType aggregateId aggregateType : String)
    (payload : Dict) : OutboxEvent :=
  { id, eventType, aggregateId, aggregateType, payload, createdAt, updatedAt }

/-- `OutboxEvent.mark_processed`. -/
def markProcessed (self : OutboxEvent) (processedAt updatedAt : Time) : OutboxEvent :=
  { self with processedAt := some processedAt, updatedAt }

/-- `OutboxEvent.mark_failed`. -/
def markFailed (self : OutboxEvent) (error : String) (updatedAt : Time) : OutboxEvent :=
  { self with retryCount := self.retryCount + 1, lastError := some error, updatedAt }

end OutboxEvent

namespace SQLOutboxRepository

/-- `create`: the primary key refuses a second row of the event. -/
def create (event : OutboxEvent) (rows : List OutboxEvent) : Except PyError (OutboxEvent × List OutboxEvent) :=
  if rows.any fun row => row.id = event.id then .error (.external "IntegrityError")
  else .ok (event, rows ++ [event])

/-- `get`. -/
def get (eventId : UUID) (rows : List OutboxEvent) : Option OutboxEvent := rows.find? fun row => row.id = eventId

/-- `get_unprocessed`: the oldest first; `scan` is the order in which rows of one time are found. -/
def getUnprocessed (scan : List OutboxEvent → List OutboxEvent) (limit : Nat) (eventTypes : List String)
    (rows : List OutboxEvent) : List OutboxEvent :=
  let unprocessed := (scan rows).filter fun row => row.processedAt = none
  let events := if eventTypes.isEmpty then unprocessed else unprocessed.filter fun row => row.eventType ∈ eventTypes
  (events.insertionSort fun row row' => row.createdAt ≤ row'.createdAt).take limit

/-- `UPDATE … WHERE id = event_id`, and whether `rowcount` is positive. -/
def updateWhere (eventId : UUID) (values : OutboxEvent → OutboxEvent) (rows : List OutboxEvent) :
    Bool × List OutboxEvent :=
  (rows.any fun row => row.id = eventId, rows.map fun row => if row.id = eventId then values row else row)

/-- `mark_processed`: an event that is processed already is marked anew. -/
def markProcessed (eventId : UUID) (processedAt updatedAt : Time) : List OutboxEvent → Bool × List OutboxEvent :=
  updateWhere eventId (·.markProcessed processedAt updatedAt)

/-- `mark_failed`. -/
def markFailed (eventId : UUID) (error : String) (updatedAt : Time) : List OutboxEvent → Bool × List OutboxEvent :=
  updateWhere eventId (·.markFailed error updatedAt)

/-- The condition of the `DELETE`: processed, and before this time. -/
def ProcessedBefore (before : Time) (row : OutboxEvent) : Prop := ∃ t ∈ row.processedAt, t < before

instance (before : Time) : DecidablePred (ProcessedBefore before) := fun row =>
  match h : row.processedAt with
  | none => .isFalse (by simp [ProcessedBefore, h])
  | some t => decidable_of_iff (t < before) (by simp [ProcessedBefore, h])

/-- `delete_processed`, with `rowcount`. -/
def deleteProcessed (before : Time) (rows : List OutboxEvent) : Nat × List OutboxEvent :=
  (rows.countP (ProcessedBefore before), rows.filter fun row => ¬ProcessedBefore before row)

end SQLOutboxRepository

end AgentRuntime
