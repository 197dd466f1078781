import AgentRuntime.Concurrency.OutboxBacklog
import AgentRuntime.Db.OutboxRepository

/-!
# What becomes of an outbox event

Events are created, marked and deleted through the repository, and passes of the flusher mark them. An
event keeps what it was created with; it is marked by a call for it or by a pass that processed it, and it
leaves the table only in a `delete_processed` that finds it processed before its bound (`event_accounted`).
-/

namespace AgentRuntime

open Interaction OutboxFlusher

namespace OutboxHistory

/-- A call that writes to the table, or a pass of the flusher. -/
inductive Call where
  | create (event : OutboxEvent)
  | markProcessed (eventId : UUID) (processedAt updatedAt : Time)
  | markFailed (eventId : UUID) (error : String) (updatedAt : Time)
  | deleteProcessed (before : Time)
  | flush (settings : Settings) (pass : Pass)

/-- The rows after the call. -/
def Call.apply : Call → List OutboxEvent → List OutboxEvent
  | .create event, rows =>
    match SQLOutboxRepository.create event rows with
    | .ok (_, rows') => rows'
    | .error _ => rows
  | .markProcessed eventId processedAt updatedAt, rows =>
    (SQLOutboxRepository.markProcessed eventId processedAt updatedAt rows).2
  | .markFailed eventId error updatedAt, rows => (SQLOutboxRepository.markFailed eventId error updatedAt rows).2
  | .deleteProcessed before, rows => (SQLOutboxRepository.deleteProcessed before rows).2
  | .flush settings pass, rows => flushRows settings pass rows

/-- On these rows the call marks the event as processed, or is a pass that has it in its batch and processes it
without an error. -/
def Call.Marks (rows : List OutboxEvent) (eventId : UUID) : Call → Prop
  | .markProcessed eventId' _ _ => eventId' = eventId
  | .flush settings pass =>
    eventId ∈ (pass.batch settings rows).map OutboxEvent.id ∧ (pass.outcome eventId).isOk = true
  | _ => False

/-- One of the calls marks the event, on the rows that the calls before it leave. -/
def MarkedBy (rows : List OutboxEvent) (eventId : UUID) (calls : List Call) : Prop :=
  ∃ earlier call later, calls = earlier ++ call :: later ∧ call.Marks (after Call.apply rows earlier) eventId

/-- A call that marks the event has marked it, whatever follows. -/
theorem markedBy_cons_of_head {rows : List OutboxEvent} {eventId : UUID} {call : Call}
    (h : call.Marks rows eventId) (calls : List Call) : MarkedBy rows eventId (call :: calls) :=
  ⟨[], call, calls, rfl, h⟩

/-- What marks the event on the rows that a call leaves marks it after that call. -/
theorem MarkedBy.cons {rows : List OutboxEvent} {eventId : UUID} {call : Call} {calls : List Call}
    (h : MarkedBy (call.apply rows) eventId calls) : MarkedBy rows eventId (call :: calls) := by
  obtain ⟨earlier, call', later, rfl, hmarks⟩ := h
  exact ⟨call :: earlier, call', later, rfl, by rwa [after_cons]⟩

/-- The columns that an event is created with. -/
structure SameEvent (row row' : OutboxEvent) : Prop where
  id : row'.id = row.id
  eventType : row'.eventType = row.eventType
  aggregateId : row'.aggregateId = row.aggregateId
  aggregateType : row'.aggregateType = row.aggregateType
  payload : row'.payload = row.payload
  createdAt : row'.createdAt = row.createdAt

/-- A row is its own event. -/
theorem SameEvent.refl (row : OutboxEvent) : SameEvent row row := ⟨rfl, rfl, rfl, rfl, rfl, rfl⟩

/-- What stays the same event twice is the same event. -/
theorem SameEvent.trans {row row' row'' : OutboxEvent} (h : SameEvent row row') (h' : SameEvent row' row'') :
    SameEvent row row'' :=
  ⟨h'.id.trans h.id, h'.eventType.trans h.eventType, h'.aggregateId.trans h.aggregateId,
    h'.aggregateType.trans h.aggregateType, h'.payload.trans h.payload, h'.createdAt.trans h.createdAt⟩

/-- Updates change the delivery of an event, and nothing of what it says. -/
theorem sameEvent_foldl_apply (updates : List Update) (row : OutboxEvent) :
    SameEvent row (updates.foldl Update.apply row) := by
  induction updates generalizing row with
  | nil => exact .refl row
  | cons update updates ih =>
    have hupdate : SameEvent row (update.apply row) := by
      cases update <;> simp only [Update.apply] <;> split <;> exact ⟨rfl, rfl, rfl, rfl, rfl, rfl⟩
    exact hupdate.trans (ih _)

/-- A later row of the event: it is marked only if it was, or `marks` says why. -/
structure Later (marks : Prop) (row row' : OutboxEvent) : Prop where
  same : SameEvent row row'
  marked : Marked row' → Marked row ∨ marks

/-- Two stretches of a history, one after the other, are one. -/
theorem Later.trans {marks marks' : Prop} {row row' row'' : OutboxEvent} (h : Later marks row row')
    (h' : Later marks' row' row'') : Later (marks ∨ marks') row row'' where
  same := h.same.trans h'.same
  marked hmarked := by
    rcases h'.marked hmarked with hmarked' | hmarks'
    · rcases h.marked hmarked' with hrow | hmarks
      · exact .inl hrow
      · exact .inr (.inl hmarks)
    · exact .inr (.inr hmarks')

/-- What one call does to a row: it stays as a later row of its event, or is deleted. -/
theorem apply_cases (call : Call) {rows : List OutboxEvent} {row : OutboxEvent} (hrow : row ∈ rows) :
    (∃ row' ∈ call.apply rows, Later (call.Marks rows row.id) row row') ∨
      ∃ before, call = .deleteProcessed before ∧ SQLOutboxRepository.ProcessedBefore before row := by
  have hsame : Later (call.Marks rows row.id) row row := ⟨.refl row, .inl⟩
  cases call with
  | create event =>
    refine .inl ⟨row, ?_, hsame⟩
    simp only [Call.apply, SQLOutboxRepository.create]
    split
    · next heq =>
      split at heq
      · cases heq
      · cases heq
        exact List.mem_append_left _ hrow
    · exact hrow
  | markProcessed eventId processedAt updatedAt =>
    refine .inl ⟨_, List.mem_map_of_mem hrow, ?_⟩
    split
    · next hid => exact ⟨⟨rfl, rfl, rfl, rfl, rfl, rfl⟩, fun _ => .inr hid.symm⟩
    · exact hsame
  | markFailed eventId error updatedAt =>
    refine .inl ⟨_, List.mem_map_of_mem hrow, ?_⟩
    split
    · exact ⟨⟨rfl, rfl, rfl, rfl, rfl, rfl⟩, .inl⟩
    · exact hsame
  | deleteProcessed before =>
    by_cases hbefore : SQLOutboxRepository.ProcessedBefore before row
    · exact .inr ⟨before, rfl, hbefore⟩
    · refine .inl ⟨row, ?_, hsame⟩
      exact List.mem_filter.2 ⟨hrow, decide_eq_true hbefore⟩
  | flush settings pass =>
    refine .inl ⟨((pass.batch settings rows).map pass.update).foldl Update.apply row, ?_, ?_⟩
    · rw [Call.apply, flushRows_eq]
      exact List.mem_map_of_mem hrow
    · refine ⟨sameEvent_foldl_apply _ row, fun hmarked => ?_⟩
      rcases (isSome_foldl_apply _ _).1 hmarked with hrow | hmem
      · exact .inl hrow
      · -- the pass fails on exactly the events whose processing raises in it
        have hpass : pass.FailsOn fun id => !(pass.outcome id).isOk := fun id => by simp
        obtain ⟨hbatch, houtcome⟩ := (mem_marks_map_update hpass _ _).1 hmem
        exact .inr ⟨hbatch, by simpa using houtcome⟩

/-- An event that is in the table is there after any calls, as it was created and marked only if a call
marked it, unless one of them was a `delete_processed` that found it processed before its bound. -/
theorem event_accounted {rows : List OutboxEvent} {row : OutboxEvent} (hrow : row ∈ rows) (calls : List Call) :
    (∃ row' ∈ after Call.apply rows calls, Later (MarkedBy rows row.id calls) row row') ∨
      ∃ calls₁ before calls₂, calls = calls₁ ++ .deleteProcessed before :: calls₂ ∧
        ∃ row' ∈ after Call.apply rows calls₁, Later (MarkedBy rows row.id calls₁) row row' ∧
          ∃ t ∈ row'.processedAt, t < before := by
  induction calls generalizing rows row with
  | nil => exact .inl ⟨row, hrow, .refl row, .inl⟩
  | cons call calls ih =>
    rcases apply_cases call hrow with ⟨row₁, hrow₁, hlater⟩ | ⟨before, rfl, hbefore⟩
    · have hjoin {calls' : List Call} {row' : OutboxEvent}
          (hlater' : Later (MarkedBy (call.apply rows) row₁.id calls') row₁ row') :
          Later (MarkedBy rows row.id (call :: calls')) row row' := by
        refine ⟨(hlater.trans hlater').same, fun hmarked => ((hlater.trans hlater').marked hmarked).imp_right ?_⟩
        rintro (hmarks | hmarks)
        · exact markedBy_cons_of_head hmarks calls'
        · exact MarkedBy.cons (hlater.same.id ▸ hmarks)
      rcases ih hrow₁ with ⟨row', hmem, hlater'⟩ | ⟨calls₁, before, calls₂, rfl, row', hmem, hlater', hbefore⟩
      · exact .inl ⟨row', hmem, hjoin hlater'⟩
      · exact .inr ⟨call :: calls₁, before, calls₂, rfl, row', hmem, hjoin hlater', hbefore⟩
    · exact .inr ⟨[], before, calls, rfl, row, hrow, ⟨.refl row, .inl⟩, hbefore⟩

/-- An event that failed once and is marked later is deleted after its mark. -/
theorem event_accounted_of_deletion :
    let row : OutboxEvent :=
      { id := ⟨1⟩, eventType := "audit_log", aggregateId := "t", aggregateType := "tenant", payload := [],
        createdAt := 0, updatedAt := 0 }
    let calls : List Call :=
      [.markFailed ⟨1⟩ "timeout" 1, .deleteProcessed 5, .markProcessed ⟨1⟩ 6 6, .deleteProcessed 7]
    row ∈ [row] ∧ after Call.apply [row] calls = [] ∧
      ((∃ row' ∈ after Call.apply [row] calls, Later (MarkedBy [row] row.id calls) row row') ∨
        ∃ calls₁ before calls₂, calls = calls₁ ++ .deleteProcessed before :: calls₂ ∧
          ∃ row' ∈ after Call.apply [row] calls₁, Later (MarkedBy [row] row.id calls₁) row row' ∧
            ∃ t ∈ row'.processedAt, t < before) :=
  ⟨List.mem_singleton.2 rfl, rfl, event_accounted (List.mem_singleton.2 rfl) _⟩

end OutboxHistory

end AgentRuntime
