import AgentRuntime.Workers.OutboxFlusher
import Mathlib.Data.List.Nodup

/-!
# Outbox delivery

Runs of the flusher that overlap each process an event that they both selected; a run processes an event
at most once, and never one whose mark was committed before it selected. An event is only marked by a run
that processed it successfully. A run none of whose statements is refused processes all events that it
selected, whichever of them fail, and marks those that succeeded.

Each run follows a protocol (`flushProtocol`); the invariant ties the phase of a run to what its session
has flushed and to the record of what it processed.
-/

namespace AgentRuntime

open Interaction

namespace OutboxFlusher

/-- The entries of a run. -/
def entriesOf {α : Type} (run : Nat) (entries : List (Nat × α)) : List α :=
  entries.filterMap fun entry => if entry.1 = run then some entry.2 else none

section
variable {α : Type} {run run' : Nat} {entries entries' : List (Nat × α)} {a : α}

/-- A pass has no entries in an empty log. -/
@[simp] theorem entriesOf_nil : entriesOf run ([] : List (Nat × α)) = [] := rfl

/-- Its entries in a log that goes on are the earlier and the later ones. -/
@[simp] theorem entriesOf_append :
    entriesOf run (entries ++ entries') = entriesOf run entries ++ entriesOf run entries' :=
  List.filterMap_append

/-- An entry of the pass is one of its entries. -/
@[simp] theorem entriesOf_singleton_self : entriesOf run [(run, a)] = [a] := by simp [entriesOf]

/-- An entry of another pass is not. -/
theorem entriesOf_singleton_of_ne (h : run' ≠ run) : entriesOf run [(run', a)] = [] := by
  simp [entriesOf, h]

/-- A list that a pass enters is read back as that list. -/
@[simp] theorem entriesOf_map_self {β : Type} (f : β → α) (bs : List β) :
    entriesOf run (bs.map fun b => (run, f b)) = bs.map f := by
  induction bs with
  | nil => rfl
  | cons b bs ih => simp [entriesOf]

/-- It leaves the entries of the other passes. -/
theorem entriesOf_map_of_ne {β : Type} (f : β → α) (bs : List β) (h : run' ≠ run) :
    entriesOf run (bs.map fun b => (run', f b)) = [] := by
  induction bs with
  | nil => rfl
  | cons b bs ih => simp [entriesOf, h]

/-- A pass has entered what stands under its number. -/
theorem mem_entriesOf : a ∈ entriesOf run entries ↔ (run, a) ∈ entries := by
  simp only [entriesOf, List.mem_filterMap]
  constructor
  · rintro ⟨⟨run', a'⟩, hmem, h⟩
    split at h
    · next hrun =>
      cases h
      cases hrun
      exact hmem
    · cases h
  · intro h
    exact ⟨(run, a), h, if_pos rfl⟩

end

namespace Outbox

/-- The events that a run has selected. -/
abbrev selectedBy (self : Outbox) (run : Nat) : List UUID := entriesOf run self.selected

/-- The events whose processing a run has begun, with the outcome. -/
abbrev attemptsBy (self : Outbox) (run : Nat) : List (UUID × Bool) := entriesOf run self.attempts

end Outbox

/-- The events whose processing succeeded. -/
def succeeded (attempts : List (UUID × Bool)) : List UUID := (attempts.filter Prod.snd).map Prod.fst

/-- The successful attempts of two sequences are those of the first and those of the second. -/
@[simp] theorem succeeded_append (attempts attempts' : List (UUID × Bool)) :
    succeeded (attempts ++ attempts') = succeeded attempts ++ succeeded attempts' := by
  simp [succeeded]

/-- An attempt that succeeds counts. -/
@[simp] theorem succeeded_true (id : UUID) : succeeded [(id, true)] = [id] := rfl

/-- One that fails does not. -/
@[simp] theorem succeeded_false (id : UUID) : succeeded [(id, false)] = [] := rfl

/-- An event is among the successful ones exactly if one attempt at it succeeded. -/
theorem mem_succeeded {id : UUID} {attempts : List (UUID × Bool)} :
    id ∈ succeeded attempts ↔ (id, true) ∈ attempts := by
  simp [succeeded]

/-! ## The flusher's protocol -/

/-- Where a run is: `done` are the events whose processing has ended, with the outcome, and `todo` the
events that are left. -/
inductive FlushPhase where
  | idle
  | ready (done : List (UUID × Bool)) (todo : List OutboxEvent)
  | processed (done : List (UUID × Bool)) (event : OutboxEvent) (todo : List OutboxEvent)
  | raised (done : List (UUID × Bool)) (event : OutboxEvent) (todo : List OutboxEvent)
  /-- The flush of the mark was refused. -/
  | refused (done : List (UUID × Bool)) (event : OutboxEvent) (todo : List OutboxEvent)
  | finished (done : List (UUID × Bool))
  /-- A statement outside the `try` statement raised this. -/
  | stopped (e : PyError)

/-- The events are processed in turn, each is marked where that succeeded, and all is committed. -/
def flushProtocol : Protocol Await Await.Ans Ending FlushPhase where
  may
    | .idle, .select _ => True
    | .ready _ (event :: _), .processAuditEvent event' => event' = event
    | .ready _ [], .commit => True
    | .processed _ _ _, .utcnow | .raised _ _ _, .utcnow => True
    | .processed _ event _, .flush (.processed eventId _ _) => eventId = event.id
    | .raised _ event _, .flush (.failed eventId _ _ _) => eventId = event.id
    | .raised _ _ _, .attributes _ | .refused _ _ _, .attributes _ => True
    | _, _ => False
  next
    | .idle, .select _, .ok events => .ready [] events
    | .ready done (event :: todo), .processAuditEvent _, .ok () => .processed done event todo
    | .ready done (event :: todo), .processAuditEvent _, .error _ => .raised done event todo
    | .ready done [], .commit, .ok () => .finished done
    | .processed done event todo, .flush _, .ok () => .ready (done ++ [(event.id, true)]) todo
    | .processed done event todo, .flush _, .error _ => .refused done event todo
    | .raised done event todo, .flush _, .ok () => .ready (done ++ [(event.id, false)]) todo
    | .refused done event todo, .attributes _, .ok () => .raised done event todo
    | .idle, .select _, .error e | .ready _ [], .commit, .error e => .stopped e
    | .raised _ _ _, .flush _, .error e | .raised _ _ _, .attributes _, .error e => .stopped e
    | .refused _ _ _, .attributes _, .error e => .stopped e
    | g, _, _ => g
  returns
    | .idle, r => r = (.ok 0, ())
    | .finished done, r => r = (.ok (succeeded done).length, ())
    | .stopped e, r => r = (.error e, ())
    | _, _ => False

/-- No assumption on the answers. -/
abbrev Anything (o : Await) (_ : o.Ans) : Prop := True

/-- Before a pass of the loop: `processed_count` is the number of successes. -/
def Counted (todo : List OutboxEvent) (g : FlushPhase) (processedCount : Nat) (_ : Unit) : Prop :=
  ∃ done, g = .ready done todo ∧ processedCount = (succeeded done).length

/-- What the loop lets through. -/
def Stopped (g : FlushPhase) (e : PyError) (_ : Unit) : Prop := g = .stopped e

/-- The handler, in a session that may have failed. -/
theorem follows_handler {done : List (UUID × Bool)} {event : OutboxEvent} {todo : List OutboxEvent}
    {g : FlushPhase} (hg : g = .raised done event todo ∨ g = .refused done event todo) (e : PyError) :
    ((do
      Proc.tryCall (.attributes event) id
      let updatedAt ← Proc.call .utcnow
      Proc.tryCall (.flush (.failed event.id (event.retryCount + 1) e.str updatedAt)) id
      return (succeeded done).length : Flusher Nat).on ()).Follows Anything
      (flushProtocol.returning (Proc.byEnding (Counted todo) Stopped)) g := by
  have hmay : flushProtocol.may g (.attributes event) := by rcases hg with rfl | rfl <;> trivial
  refine Proc.follows_tryCall_bind hmay (fun r _ _ hr => ?_) fun r e' _ hr => ?_
  · obtain rfl : r = .ok () := hr
    have hnext : flushProtocol.next g (.attributes event) (.ok ()) = .raised done event todo := by
      rcases hg with rfl | rfl <;> rfl
    change Prog.Follows _ _ (flushProtocol.next g (.attributes event) (.ok ())) _
    rw [hnext]
    simp only [Proc.on_bind, Proc.on_call, Prog.call_bind, Prog.ret_bind, Proc.thenOn_ok, Proc.on_tryCall,
      Prog.follows_call]
    refine ⟨trivial, fun now _ => ⟨rfl, fun r _ => ?_⟩⟩
    rcases r with e' | ⟨⟩
    · exact rfl
    · exact ⟨_, rfl, by simp⟩
  · obtain rfl : r = .error e' := hr
    change flushProtocol.next g (.attributes event) (.error e') = .stopped e'
    rcases hg with rfl | rfl <;> rfl

/-- A pass of the loop. -/
theorem follows_flushEvent {event : OutboxEvent} {todo : List OutboxEvent} {g : FlushPhase}
    {processedCount : Nat} (h : Counted (event :: todo) g processedCount ()) :
    ((flushEvent processedCount event).on ()).Follows Anything
      (flushProtocol.returning (Proc.byEnding (Counted todo) Stopped)) g := by
  obtain ⟨done, rfl, rfl⟩ := h
  unfold flushEvent
  let R (g : FlushPhase) (r : Except PyError Nat × Unit) : Prop :=
    Proc.byEnding (Counted todo)
      (fun g _ _ => g = .raised done event todo ∨ g = .refused done event todo) g r
  refine Proc.follows_tryCatch (R := R) ?_ (fun _ _ _ hr => hr) fun g e _ hr => follows_handler hr e
  refine Proc.follows_tryCall_bind rfl (fun r _ _ hr => ?_) fun r e _ hr => ?_
  · obtain rfl : r = .ok () := hr
    simp only [Proc.on_bind, Proc.on_call, Prog.call_bind, Prog.ret_bind, Proc.thenOn_ok, Proc.on_tryCall,
      Prog.follows_call]
    refine ⟨trivial, fun processedAt _ => ⟨trivial, fun updatedAt _ => ⟨rfl, fun r _ => ?_⟩⟩⟩
    rcases r with e | ⟨⟩
    · exact .inr rfl
    · exact ⟨_, rfl, by simp⟩
  · obtain rfl : r = .error e := hr
    exact .inl rfl

/-- Every run follows the protocol. -/
theorem follows_flushAuditOutbox (settings : Settings) :
    ((flushAuditOutbox settings).on ()).Follows Anything flushProtocol .idle := by
  unfold flushAuditOutbox
  rw [Proc.on_ite]
  split
  · exact rfl
  refine Proc.follows_tryCall_bind trivial (fun r events _ hr => ?_) fun r e _ hr => ?_
  · obtain rfl : r = .ok events := hr
    have hloop : ((events.foldlM flushEvent 0).on ()).Follows Anything
        (flushProtocol.returning (Proc.byEnding (Counted []) Stopped)) (.ready [] events) :=
      Proc.follows_foldlM (fun _ _ _ _ _ => follows_flushEvent) ⟨[], rfl, rfl⟩
    refine Proc.follows_bind hloop ?_ ?_
    · rintro _ _ ⟨⟩ ⟨done, rfl, rfl⟩
      refine Proc.follows_tryCall_bind trivial (fun r _ _ hr => ?_) fun r e _ hr => ?_
      · obtain rfl : r = .ok () := hr
        exact rfl
      · obtain rfl : r = .error e := hr
        exact rfl
    · rintro _ e ⟨⟩ rfl
      exact rfl
  · obtain rfl : r = .error e := hr
    exact rfl

/-! ## The invariant -/

/-- The events that the updates mark. -/
def marks (updates : List Update) : List UUID :=
  updates.filterMap fun
    | .processed eventId _ _ => some eventId
    | .failed _ _ _ _ => none

/-- The marks of two sequences of updates are those of the first and those of the second. -/
@[simp] theorem marks_append (updates updates' : List Update) :
    marks (updates ++ updates') = marks updates ++ marks updates' :=
  List.filterMap_append

/-- An update that sets the time of processing marks its event. -/
@[simp] theorem marks_processed (eventId : UUID) (processedAt updatedAt : Time) :
    marks [.processed eventId processedAt updatedAt] = [eventId] := rfl

/-- An update that counts a failure marks none. -/
@[simp] theorem marks_failed (eventId : UUID) (retryCount : Int) (lastError : String) (updatedAt : Time) :
    marks [.failed eventId retryCount lastError updatedAt] = [] := rfl

/-- An update leaves the identifier of an event. -/
@[simp] theorem Update.apply_id (event : OutboxEvent) (update : Update) :
    (update.apply event).id = event.id := by
  cases update <;> simp only [Update.apply] <;> split <;> rfl

/-- After an update an event is processed if it was before, or if the update marks it. -/
theorem Update.isSome_apply (event : OutboxEvent) (update : Update) :
    (update.apply event).processedAt.isSome ↔ event.processedAt.isSome ∨ event.id ∈ marks [update] := by
  cases update with
  | processed eventId processedAt updatedAt =>
    simp only [Update.apply, marks_processed, List.mem_singleton]
    split
    · next h => simp [h]
    · next h => simp [h]
  | failed eventId retryCount lastError updatedAt =>
    simp only [Update.apply, marks_failed, List.not_mem_nil, or_false]
    split <;> rfl

/-- The updates of a session keep the key of a row. -/
@[simp] theorem foldl_apply_id (updates : List Update) (event : OutboxEvent) :
    (updates.foldl Update.apply event).id = event.id := by
  induction updates generalizing event with
  | nil => rfl
  | cons update updates ih => rw [List.foldl_cons, ih, Update.apply_id]

/-- They mark the events that one of them marks, and undo no mark. -/
theorem isSome_foldl_apply (updates : List Update) (event : OutboxEvent) :
    (updates.foldl Update.apply event).processedAt.isSome ↔
      event.processedAt.isSome ∨ event.id ∈ marks updates := by
  induction updates generalizing event with
  | nil => simp [marks]
  | cons update updates ih =>
    have happend : marks (update :: updates) = marks [update] ++ marks updates := marks_append [update] updates
    rw [List.foldl_cons, ih, Update.isSome_apply, Update.apply_id, happend, List.mem_append, or_assoc]

/-- The row is marked as processed. -/
abbrev Marked (row : OutboxEvent) : Prop := row.processedAt.isSome

/-- A run at work: what it has attempted, what its session has marked, and what is left. -/
structure Working (run : Nat) (s : Outbox) (attempted : List (UUID × Bool)) (marked todo : List UUID) :
    Prop where
  attempts : s.attemptsBy run = attempted
  selected : s.selectedBy run = attempted.map Prod.fst ++ todo
  session : (s.sessions run).failed = false
  marks : marks (s.sessions run).updates = marked

/-- What the `select` of a negative batch size raises. -/
abbrev negativeLimit : PyError := .external "LIMIT must not be negative"

/-- What the phase of a run says of the outbox. `steady` runs have no statement refused. -/
def AtPhase (steady : Prop) (run : Nat) (s : Outbox) : FlushPhase → Prop
  | .idle => Working run s [] [] []
  | .ready done todo => Working run s done (succeeded done) (todo.map OutboxEvent.id)
  | .processed done event todo =>
    Working run s (done ++ [(event.id, true)]) (succeeded done) (todo.map OutboxEvent.id)
  | .raised done event todo =>
    Working run s (done ++ [(event.id, false)]) (succeeded done) (todo.map OutboxEvent.id)
  | .refused _ _ _ => (s.sessions run).failed = true ∧ ¬steady
  | .finished done =>
    s.attemptsBy run = done ∧ s.selectedBy run = done.map Prod.fst ∧
      ∀ row ∈ s.rows, row.id ∈ succeeded done → Marked row
  | .stopped e => steady → e = negativeLimit ∧ s.selectedBy run = []

/-- What holds of each run: it selects an event once, and attempts what it selected in that order. -/
structure RunInv (steady : Prop) (ids : List UUID) (run : Nat) (s : Outbox) (phase : FlushPhase) :
    Prop where
  at_phase : AtPhase steady run s phase
  nodup : (s.selectedBy run).Nodup
  known : s.selectedBy run ⊆ ids
  attempted : (s.attemptsBy run).map Prod.fst <+: s.selectedBy run

/-- An event that is marked was marked before, or processed successfully. -/
def MarkedByProcessing (initial : List OutboxEvent) (s : Outbox) : Prop :=
  ∀ row ∈ s.rows, Marked row →
    (∃ row₀ ∈ initial, row₀.id = row.id ∧ Marked row₀) ∨ ∃ run, (run, row.id, true) ∈ s.attempts

structure OutboxInv (steady : Nat → Prop) (initial : List OutboxEvent) (phase : Nat → FlushPhase)
    (s : Outbox) : Prop where
  ids : s.rows.map OutboxEvent.id = initial.map OutboxEvent.id
  marked : MarkedByProcessing initial s
  runs : ∀ run, RunInv (steady run) (initial.map OutboxEvent.id) run s (phase run)

/-! ### What an answer does -/

/-- In a session that has not failed, a statement is refused by the database or goes through. -/
theorem Outbox.statement_of_open {α : Type} {s : Outbox} {run : Nat} (h : (s.sessions run).failed = false)
    (refuses : Option PyError) (result : Except PyError α × Outbox) :
    (refuses = none ∧ s.statement run refuses result = result) ∨
      ∃ e, refuses = some e ∧
        s.statement run refuses result = (.error e, s.setSession run { failed := true }) := by
  cases refuses with
  | none => exact .inl ⟨rfl, by simp [statement, h]⟩
  | some e => exact .inr ⟨e, rfl, by simp [statement, h]⟩

/-- What holds of the outbox before a statement, of the result, and of a failed session. -/
theorem Outbox.statement_induction {α : Type} {s : Outbox} {run : Nat} {refuses : Option PyError}
    {result : Except PyError α × Outbox} {P : Outbox → Prop} (hs : P s)
    (hfailed : P (s.setSession run { failed := true })) (hresult : P result.2) :
    P (s.statement run refuses result).2 := by
  unfold statement
  split
  · exact hs
  · split
    · exact hfailed
    · exact hresult

/-- What the answer to one run keeps of another, and of the rows. -/
structure Frame (run : Nat) (s s' : Outbox) : Prop where
  attempts : s'.attemptsBy run = s.attemptsBy run
  selected : s'.selectedBy run = s.selectedBy run
  session : s'.sessions run = s.sessions run

/-- The session of one pass is no part of the frame of another. -/
theorem Frame.setSession {run run' : Nat} (h : run ≠ run') (s : Outbox) (session : FlushSession) :
    Frame run s (s.setSession run' session) :=
  ⟨rfl, rfl, Function.update_of_ne h _ _⟩

/-- Whatever one pass does, the others keep their sessions and their entries. -/
theorem frame_answer (happening : Happening) {run run' : Nat} (h : run ≠ run') (o : Await) (s : Outbox) :
    Frame run s (outboxAnswer happening run' o s).2 := by
  have hsame : Frame run s s := ⟨rfl, rfl, rfl⟩
  have hstatement {α : Type} {refuses : Option PyError} {result : Except PyError α × Outbox}
      (hresult : Frame run s result.2) : Frame run s (s.statement run' refuses result).2 :=
    Outbox.statement_induction hsame (.setSession h _ _) hresult
  cases o with
  | select limit =>
    refine hstatement ?_
    split
    · exact hsame
    · refine ⟨rfl, ?_, rfl⟩
      rw [Outbox.selectedBy, entriesOf_append, entriesOf_map_of_ne OutboxEvent.id _ (Ne.symm h),
        List.append_nil]
  | processAuditEvent event =>
    refine ⟨?_, rfl, rfl⟩
    simp [outboxAnswer, Outbox.attemptsBy, entriesOf_singleton_of_ne (Ne.symm h)]
  | utcnow => exact hsame
  | attributes event => exact hstatement hsame
  | flush update => exact hstatement (.setSession h _ _)
  | commit =>
    have hcleared := Frame.setSession h s {}
    exact hstatement ⟨hcleared.attempts, hcleared.selected, hcleared.session⟩

/-- The rows of a later state: each is a row of the earlier one, with the mark it had. -/
def Grows (rows rows' : List OutboxEvent) : Prop :=
  rows'.map OutboxEvent.id = rows.map OutboxEvent.id ∧
    ∀ row' ∈ rows', ∃ row ∈ rows, row.id = row'.id ∧ (Marked row → Marked row')

/-- Rows that stay as they are keep their events. -/
theorem Grows.refl (rows : List OutboxEvent) : Grows rows rows := ⟨rfl, fun row h => ⟨row, h, rfl, id⟩⟩

/-- A commit loses no event, and none that was processed is unprocessed after it. -/
theorem grows_committed (s : Outbox) (run : Nat) : Grows s.rows (s.committed run) := by
  refine ⟨?_, fun row' hrow' => ?_⟩
  · simp [Outbox.committed]
  · obtain ⟨row, hrow, rfl⟩ := List.mem_map.1 hrow'
    exact ⟨row, hrow, by simp, fun h => (isSome_foldl_apply _ _).2 (.inl h)⟩

/-- Neither does any other step of a pass. -/
theorem grows_answer (happening : Happening) (run : Nat) (o : Await) (s : Outbox) :
    Grows s.rows (outboxAnswer happening run o s).2.rows := by
  have hstatement {α : Type} {refuses : Option PyError} {result : Except PyError α × Outbox}
      (hresult : Grows s.rows result.2.rows) : Grows s.rows (s.statement run refuses result).2.rows :=
    Outbox.statement_induction (P := fun s' => Grows s.rows s'.rows) (.refl _) (.refl _) hresult
  cases o with
  | select limit =>
    refine hstatement ?_
    split <;> exact .refl _
  | processAuditEvent event => exact .refl _
  | utcnow => exact .refl _
  | attributes event => exact hstatement (.refl _)
  | flush update => exact hstatement (.refl _)
  | commit => exact hstatement (grows_committed s run)

/-- The invariant of a run that is not answered. -/
theorem RunInv.of_frame {steady : Prop} {ids : List UUID} {run : Nat} {s s' : Outbox} {phase : FlushPhase}
    (h : RunInv steady ids run s phase) (hframe : Frame run s s') (hgrows : Grows s.rows s'.rows) :
    RunInv steady ids run s' phase := by
  have hworking {attempted : List (UUID × Bool)} {marked todo : List UUID}
      (hw : Working run s attempted marked todo) : Working run s' attempted marked todo :=
    ⟨hframe.attempts.trans hw.attempts, hframe.selected.trans hw.selected, by rw [hframe.session, hw.session],
      by rw [hframe.session, hw.marks]⟩
  refine ⟨?_, ?_, ?_, ?_⟩
  · have hphase := h.at_phase
    cases phase with
    | idle => exact hworking hphase
    | ready done todo => exact hworking hphase
    | processed done event todo => exact hworking hphase
    | raised done event todo => exact hworking hphase
    | refused done event todo => exact ⟨by rw [hframe.session, hphase.1], hphase.2⟩
    | finished done =>
      refine ⟨hframe.attempts.trans hphase.1, hframe.selected.trans hphase.2.1, fun row' hrow' hid => ?_⟩
      obtain ⟨row, hrow, hrowId, hmarked⟩ := hgrows.2 row' hrow'
      exact hmarked (hphase.2.2 row hrow (hrowId ▸ hid))
    | stopped e => exact fun hsteady => ⟨(hphase hsteady).1, hframe.selected.trans (hphase hsteady).2⟩
  · rw [hframe.selected]; exact h.nodup
  · rw [hframe.selected]; exact h.known
  · rw [hframe.selected, hframe.attempts]; exact h.attempted

section
variable {steady : Prop} {ids : List UUID} {run : Nat} {s s' : Outbox} {phase phase' : FlushPhase}
  {happening : Happening}

/-- An answer that adds nothing to the record. -/
theorem RunInv.move (h : RunInv steady ids run s phase) (hattempts : s'.attemptsBy run = s.attemptsBy run)
    (hselected : s'.selectedBy run = s.selectedBy run) (hphase : AtPhase steady run s' phase') :
    RunInv steady ids run s' phase' := by
  refine ⟨hphase, ?_, ?_, ?_⟩
  · rw [hselected]; exact h.nodup
  · rw [hselected]; exact h.known
  · rw [hselected, hattempts]; exact h.attempted

/-- What one answer makes of the invariant of the run that it is given to. -/
abbrev RunAdvances (steady : Prop) (ids : List UUID) (run : Nat) (s : Outbox) (phase : FlushPhase)
    (happening : Happening) (o : Await) : Prop :=
  RunInv steady ids run (outboxAnswer happening run o s).2
    (flushProtocol.next phase o (outboxAnswer happening run o s).1)

/-- A pass that has not started selects its batch: nothing is attempted yet, and the batch has no
event twice. -/
theorem RunInv.select (h : RunInv steady ids run s .idle) (hids : s.rows.map OutboxEvent.id = ids)
    (hnodup : ids.Nodup) (limit : Int) (hsteady : steady → happening.refuses = none) :
    RunAdvances steady ids run s .idle happening (.select limit) := by
  have hidle : Working run s [] [] [] := h.at_phase
  simp only [RunAdvances, outboxAnswer]
  set events := ((happening.scan s.rows).filter Unprocessed).take limit.toNat with hevents
  have hsub : (events.map OutboxEvent.id).Sublist ((happening.scan s.rows).map OutboxEvent.id) :=
    ((List.take_sublist _ _).trans List.filter_sublist).map _
  have hperm : ((happening.scan s.rows).map OutboxEvent.id).Perm ids :=
    hids ▸ (happening.scan_perm s.rows).map OutboxEvent.id
  rcases Outbox.statement_of_open hidle.session happening.refuses
    (if limit < 0 then (.error (.external "LIMIT must not be negative"), s)
      else (.ok events, { s with selected := s.selected ++ events.map fun event => (run, event.id) }))
    with ⟨-, heq⟩ | ⟨e, hrefuses, heq⟩ <;> rw [heq]
  · split
    · exact h.move rfl rfl fun _ => ⟨rfl, hidle.selected⟩
    · have hselected : entriesOf run (s.selected ++ events.map fun event => (run, event.id)) =
          events.map OutboxEvent.id := by
        rw [entriesOf_append, entriesOf_map_self OutboxEvent.id]
        exact congrArg (· ++ _) hidle.selected
      refine ⟨⟨hidle.attempts, hselected, hidle.session, hidle.marks⟩, ?_, ?_, ?_⟩
      · rw [Outbox.selectedBy, hselected]
        exact hsub.nodup (hperm.nodup_iff.2 hnodup)
      · rw [Outbox.selectedBy, hselected]
        exact fun id hid => hperm.subset (hsub.subset hid)
      · rw [Outbox.selectedBy, hselected]
        have hattempts : entriesOf run s.attempts = [] := hidle.attempts
        simp only [Outbox.attemptsBy, hattempts]
        exact List.nil_prefix
  · refine h.move rfl rfl fun hs => ?_
    rw [hsteady hs] at hrefuses
    cases hrefuses

/-- An attempt at the next event is entered with its result, and is the only one at that event. -/
theorem RunInv.processAuditEvent {done : List (UUID × Bool)} {event : OutboxEvent} {todo : List OutboxEvent}
    (h : RunInv steady ids run s (.ready done (event :: todo))) :
    RunAdvances steady ids run s (.ready done (event :: todo)) happening (.processAuditEvent event) := by
  have hready : Working run s done (succeeded done) (event.id :: todo.map OutboxEvent.id) := h.at_phase
  have hnext (ok : Bool) (phase' : FlushPhase)
      (hphase : ∀ s', Working run s' (done ++ [(event.id, ok)]) (succeeded done) (todo.map OutboxEvent.id) →
        AtPhase steady run s' phase') :
      RunInv steady ids run { s with attempts := s.attempts ++ [(run, event.id, ok)] } phase' := by
    have hattempts : entriesOf run (s.attempts ++ [(run, event.id, ok)]) = done ++ [(event.id, ok)] := by
      rw [entriesOf_append, entriesOf_singleton_self]
      exact congrArg (· ++ _) hready.attempts
    have hselected : s.selectedBy run =
        (done ++ [(event.id, ok)]).map Prod.fst ++ todo.map OutboxEvent.id := by
      rw [hready.selected]
      simp
    refine ⟨hphase _ ⟨hattempts, hselected, hready.session, hready.marks⟩, h.nodup, h.known, ?_⟩
    change (entriesOf run (s.attempts ++ [(run, event.id, ok)])).map Prod.fst <+: s.selectedBy run
    rw [hattempts, hselected]
    exact ⟨_, rfl⟩
  simp only [RunAdvances, outboxAnswer]
  rcases happening.processing with e | ⟨⟩
  · exact hnext false (.raised done event todo) fun _ => id
  · exact hnext true (.processed done event todo) fun _ => id

/-- The flush of an update, after which the marks are those of the events that were processed successfully. It
goes through, or the session has failed. -/
theorem RunInv.flush {done : List (UUID × Bool)} {marked : List UUID} {todo : List OutboxEvent} {update : Update}
    (h : RunInv steady ids run s phase) (hworking : Working run s done marked (todo.map OutboxEvent.id))
    (hmarks : marked ++ marks [update] = succeeded done)
    (hready : flushProtocol.next phase (.flush update) (.ok ()) = .ready done todo)
    (hrefused : ∀ e, happening.refuses = some e → AtPhase steady run (s.setSession run { failed := true })
      (flushProtocol.next phase (.flush update) (.error e))) :
    RunAdvances steady ids run s phase happening (.flush update) := by
  simp only [RunAdvances, outboxAnswer]
  rcases Outbox.statement_of_open hworking.session happening.refuses
    (.ok (), s.setSession run { updates := (s.sessions run).updates ++ [update] })
    with ⟨-, heq⟩ | ⟨e, hrefuses, heq⟩ <;> rw [heq]
  · rw [hready]
    refine h.move rfl rfl ⟨hworking.attempts, hworking.selected, ?_, ?_⟩
    · simp [Outbox.setSession]
    · simp [Outbox.setSession, hworking.marks, hmarks]
  · exact h.move rfl rfl (hrefused e hrefuses)

/-- The commit stores the updates of the whole batch at once. -/
theorem RunInv.commit {done : List (UUID × Bool)} (h : RunInv steady ids run s (.ready done []))
    (hsteady : steady → happening.refuses = none) :
    RunAdvances steady ids run s (.ready done []) happening .commit := by
  have hready : Working run s done (succeeded done) [] := h.at_phase
  simp only [RunAdvances, outboxAnswer]
  rcases Outbox.statement_of_open hready.session happening.refuses
    (.ok (), { s.setSession run {} with rows := s.committed run }) with ⟨-, heq⟩ | ⟨e, hrefuses, heq⟩ <;>
    rw [heq]
  · have hselected : s.selectedBy run = done.map Prod.fst := by rw [hready.selected, List.append_nil]
    refine h.move rfl rfl ⟨hready.attempts, hselected, fun row hrow hid => ?_⟩
    obtain ⟨row₀, -, rfl⟩ := List.mem_map.1 hrow
    rw [foldl_apply_id, ← hready.marks] at hid
    exact (isSome_foldl_apply _ _).2 (.inr hid)
  · refine h.move rfl rfl fun hs => ?_
    rw [hsteady hs] at hrefuses
    cases hrefuses

/-- A pass reads the attributes of the event that it is at. -/
theorem RunInv.attributes {event' : OutboxEvent} (h : RunInv steady ids run s phase)
    (hmay : flushProtocol.may phase (.attributes event')) :
    RunAdvances steady ids run s phase happening (.attributes event') := by
  simp only [RunAdvances, outboxAnswer]
  cases phase with
  | raised done event todo =>
    have hraised : Working run s (done ++ [(event.id, false)]) (succeeded done) (todo.map OutboxEvent.id) :=
      h.at_phase
    have heq : s.statement run none (.ok (), s) = (.ok (), s) := by
      simp [Outbox.statement, hraised.session]
    rw [heq]
    exact h
  | refused done event todo =>
    have heq : s.statement run none ((.ok (), s) : Except PyError Unit × Outbox) =
        (.error (.external "PendingRollbackError"), s) := by
      simp [Outbox.statement, h.at_phase.1]
    rw [heq]
    exact h.move rfl rfl fun hs => absurd hs h.at_phase.2
  | ready done todo => cases todo <;> exact hmay.elim
  | idle | processed done event todo | finished done | stopped => exact hmay.elim

end

/-- A commit marks what the run processed successfully. -/
theorem markedByProcessing_commit {initial : List OutboxEvent} {s : Outbox} {run : Nat}
    {done : List (UUID × Bool)} (h : MarkedByProcessing initial s)
    (hready : Working run s done (succeeded done) []) :
    MarkedByProcessing initial { s.setSession run {} with rows := s.committed run } := by
  intro row hrow hmarked
  obtain ⟨row₀, hrow₀, rfl⟩ := List.mem_map.1 hrow
  rw [foldl_apply_id]
  rcases (isSome_foldl_apply _ _).1 hmarked with hmarked | hmem
  · exact h row₀ hrow₀ hmarked
  · rw [hready.marks, mem_succeeded, ← hready.attempts, mem_entriesOf] at hmem
    exact .inr ⟨run, hmem⟩

/-- Answered a call that is due, a run keeps its invariant in its next phase. -/
theorem runInv_answer {steady : Prop} {ids : List UUID} {run : Nat} {s : Outbox} {phase : FlushPhase}
    {happening : Happening} {o : Await} (hids : s.rows.map OutboxEvent.id = ids) (hnodup : ids.Nodup)
    (h : RunInv steady ids run s phase) (hmay : flushProtocol.may phase o)
    (hsteady : steady → happening.refuses = none) : RunAdvances steady ids run s phase happening o := by
  cases o with
  | select limit =>
    cases phase with
    | idle => exact h.select hids hnodup limit hsteady
    | ready done todo => cases todo <;> exact hmay.elim
    | processed | raised | refused | finished | stopped => exact hmay.elim
  | processAuditEvent event' =>
    cases phase with
    | ready done todo =>
      cases todo with
      | nil => exact hmay.elim
      | cons event todo =>
        obtain rfl : event' = event := hmay
        exact h.processAuditEvent
    | idle | processed | raised | refused | finished | stopped => exact hmay.elim
  | utcnow =>
    cases phase with
    | processed | raised => exact h
    | ready done todo => cases todo <;> exact hmay.elim
    | idle | refused | finished | stopped => exact hmay.elim
  | attributes event' => exact h.attributes hmay
  | flush update =>
    cases phase with
    | processed done event todo =>
      cases update with
      | processed eventId processedAt updatedAt =>
        obtain rfl : eventId = event.id := hmay
        refine h.flush h.at_phase (by simp) rfl fun e hrefuses => ⟨by simp [Outbox.setSession], fun hs => ?_⟩
        rw [hsteady hs] at hrefuses
        cases hrefuses
      | failed => exact hmay.elim
    | raised done event todo =>
      cases update with
      | processed => exact hmay.elim
      | failed eventId retryCount lastError updatedAt =>
        obtain rfl : eventId = event.id := hmay
        refine h.flush h.at_phase (by simp) rfl fun e hrefuses hs => ?_
        rw [hsteady hs] at hrefuses
        cases hrefuses
    | ready done todo => cases todo <;> exact hmay.elim
    | idle | refused | finished | stopped => exact hmay.elim
  | commit =>
    cases phase with
    | ready done todo =>
      cases todo with
      | nil => exact h.commit hsteady
      | cons event todo => exact hmay.elim
    | idle | processed | raised | refused | finished | stopped => exact hmay.elim

/-- Any answer to a call that is due keeps the events marked by processing. -/
theorem markedByProcessing_answer {steady : Prop} {initial : List OutboxEvent} {ids : List UUID} {run : Nat}
    {s : Outbox} {phase : FlushPhase} {o : Await} (h : MarkedByProcessing initial s)
    (hrun : RunInv steady ids run s phase) (hmay : flushProtocol.may phase o) (happening : Happening) :
    MarkedByProcessing initial (outboxAnswer happening run o s).2 := by
  have hstatement {α : Type} {refuses : Option PyError} {result : Except PyError α × Outbox}
      (hresult : MarkedByProcessing initial result.2) :
      MarkedByProcessing initial (s.statement run refuses result).2 :=
    Outbox.statement_induction h h hresult
  cases o with
  | select limit =>
    refine hstatement ?_
    split <;> exact h
  | processAuditEvent event =>
    intro row hrow hmarked
    rcases h row hrow hmarked with hinitial | ⟨run', hmem⟩
    · exact .inl hinitial
    · exact .inr ⟨run', List.mem_append_left _ hmem⟩
  | utcnow => exact h
  | attributes event => exact hstatement h
  | flush update => exact hstatement h
  | commit =>
    refine hstatement ?_
    cases phase with
    | ready done todo =>
      cases todo with
      | nil => exact markedByProcessing_commit h hrun.at_phase
      | cons event todo => exact hmay.elim
    | idle | processed | raised | refused | finished | stopped => exact hmay.elim

/-- The outbox keeps the invariant, where no statement of a steady run is refused. -/
theorem outboxRules_advance {steady : Nat → Prop} {initial : List OutboxEvent}
    (hnodup : (initial.map OutboxEvent.id).Nodup) :
    outboxRules.AdvanceIf Anything (fun _ => flushProtocol) (OutboxInv steady initial)
      fun happening run _ _ => steady run → happening.refuses = none := by
  refine ⟨fun happening run o s phase h hmay hsteady => ⟨trivial, ?_, ?_, fun run' => ?_⟩, nofun⟩
  · exact (grows_answer happening run o s).1.trans h.ids
  · exact markedByProcessing_answer h.marked (h.runs run) hmay happening
  · by_cases hrun : run' = run
    · subst hrun
      rw [Function.update_self]
      exact runInv_answer h.ids hnodup (h.runs run') hmay hsteady
    · rw [Function.update_of_ne hrun]
      exact (h.runs run').of_frame (frame_answer happening hrun o s) (grows_answer happening run o s)

/-! ## Deliveries -/

/-- The database refuses no statement of the run. -/
def Unrefused (run : Nat) (schedule : List (Act Happening Empty)) : Prop :=
  ∀ happening, .thread run happening ∈ schedule → happening.refuses = none

/-- The batch of a run that has returned: all selected events were processed in turn, whichever of them
failed; those that succeeded are marked, and counted. A run raises only what its `select` raises for a negative
batch size, and has selected nothing then. -/
structure BatchDelivered (p : Pool Await Await.Ans Ending Outbox) (run : Nat) : Prop where
  raised : ∀ e, p.ending run = some (.error e, ()) → e = negativeLimit ∧ p.shared.selectedBy run = []
  attempted : ∀ n, p.ending run = some (.ok n, ()) →
    (p.shared.attemptsBy run).map Prod.fst = p.shared.selectedBy run
  counted : ∀ n, p.ending run = some (.ok n, ()) → n = (succeeded (p.shared.attemptsBy run)).length
  marked : ∀ n, p.ending run = some (.ok n, ()) → ∀ id ∈ succeeded (p.shared.attemptsBy run),
    ∃ row ∈ p.shared.rows, row.id = id ∧ Marked row

section
variable {rows : List OutboxEvent} {run : Nat}

/-- The invariant along every schedule. -/
theorem exists_following (runs : List Settings) (hids : (rows.map OutboxEvent.id).Nodup)
    (steady : Nat → Prop) (schedule : List (Act Happening Empty))
    (hsteady : ∀ run, steady run → Unrefused run schedule) :
    ∃ phase, ((flusherPool runs rows).run outboxRules schedule).Following Anything
      (fun _ => flushProtocol) (OutboxInv steady rows) phase := by
  have hstart : (flusherPool runs rows).Following Anything (fun _ => flushProtocol)
      (OutboxInv steady rows) fun _ => .idle := by
    refine ⟨fun i q hq => ?_, rfl, fun row hrow hmarked => .inl ⟨row, hrow, rfl, hmarked⟩, fun run => ?_⟩
    · obtain ⟨settings, -, rfl⟩ : ∃ settings, runs[i]? = some settings ∧
          (flushAuditOutbox settings).on () = q := by
        simpa [flusherPool] using hq
      exact follows_flushAuditOutbox settings
    · exact ⟨⟨rfl, rfl, rfl, rfl⟩, List.nodup_nil, List.nil_subset _, List.nil_prefix⟩
  exact hstart.run_of_actMeets (outboxRules_advance hids) <| Pool.meets_of_forall_mem fun p a ha =>
    Pool.actMeets_of_thread fun run happening hthread _ _ hrun => hsteady run hrun happening (hthread ▸ ha)

/-- What the phase says of a run that has ended without a refused statement. -/
theorem BatchDelivered.of_following {steady : Nat → Prop} {p : Pool Await Await.Ans Ending Outbox}
    {phase : Nat → FlushPhase}
    (h : p.Following Anything (fun _ => flushProtocol) (OutboxInv steady rows) phase)
    (hsteady : steady run) : BatchDelivered p run := by
  have hrun := h.shared.runs run
  have hreturns {r : Ending} (hr : p.ending run = some r) : flushProtocol.returns (phase run) r :=
    h.threads run _ (Pool.ending_eq_some.1 hr)
  -- a run that returned is idle, or has finished
  have hok {n : Nat} (hn : p.ending run = some (.ok n, ())) :
      (p.shared.attemptsBy run).map Prod.fst = p.shared.selectedBy run ∧
        n = (succeeded (p.shared.attemptsBy run)).length ∧
        ∀ row ∈ p.shared.rows, row.id ∈ succeeded (p.shared.attemptsBy run) → Marked row := by
    have hreturn := hreturns hn
    have hphase := hrun.at_phase
    generalize phase run = g at hreturn hphase
    cases g with
    | idle =>
      cases hreturn
      rw [hphase.attempts, hphase.selected]
      exact ⟨rfl, rfl, fun _ _ hid => absurd hid List.not_mem_nil⟩
    | finished done =>
      cases hreturn
      rw [hphase.1, hphase.2.1]
      exact ⟨rfl, rfl, hphase.2.2⟩
    | stopped e => cases hreturn
    | ready | processed | raised | refused => exact hreturn.elim
  refine ⟨fun e he => ?_, fun n hn => (hok hn).1, fun n hn => (hok hn).2.1, fun n hn id hid => ?_⟩
  · have hreturn := hreturns he
    have hphase := hrun.at_phase
    generalize phase run = g at hreturn hphase
    cases g with
    | stopped e' =>
      cases hreturn
      exact hphase hsteady
    | idle => cases hreturn
    | finished done => cases hreturn
    | ready | processed | raised | refused => exact hreturn.elim
  · have hselected : id ∈ p.shared.selectedBy run := by
      rw [← (hok hn).1]
      exact List.mem_map.2 ⟨(id, true), mem_succeeded.1 hid, rfl⟩
    have hknown := hrun.known hselected
    rw [← h.shared.ids] at hknown
    obtain ⟨row, hrow, rfl⟩ := List.mem_map.1 hknown
    exact ⟨row, hrow, rfl, (hok hn).2.2 row hrow hid⟩

/-- What an answer adds to the selection of a run is not marked. -/
theorem mem_selectedBy_answer {happening : Happening} {run' : Nat} {o : Await} {s : Outbox} {id : UUID}
    (h : id ∈ (outboxAnswer happening run' o s).2.selectedBy run) :
    id ∈ s.selectedBy run ∨ ∃ row ∈ s.rows, row.id = id ∧ ¬Marked row := by
  by_cases hrun : run = run'
  · subst hrun
    have hstatement {α : Type} {refuses : Option PyError} {result : Except PyError α × Outbox}
        (hresult : ∀ id ∈ result.2.selectedBy run,
          id ∈ s.selectedBy run ∨ ∃ row ∈ s.rows, row.id = id ∧ ¬Marked row) :
        ∀ id ∈ (s.statement run refuses result).2.selectedBy run,
          id ∈ s.selectedBy run ∨ ∃ row ∈ s.rows, row.id = id ∧ ¬Marked row :=
      Outbox.statement_induction (P := fun s' => ∀ id ∈ s'.selectedBy run,
        id ∈ s.selectedBy run ∨ ∃ row ∈ s.rows, row.id = id ∧ ¬Marked row)
        (fun _ => .inl) (fun _ => .inl) hresult
    cases o with
    | select limit =>
      refine hstatement (fun id hid => ?_) id h
      split at hid
      · exact .inl hid
      · rw [Outbox.selectedBy, entriesOf_append, entriesOf_map_self OutboxEvent.id, List.mem_append] at hid
        rcases hid with hid | hid
        · exact .inl hid
        · obtain ⟨event, hevent, rfl⟩ := List.mem_map.1 hid
          obtain ⟨hscan, hunprocessed⟩ := List.mem_filter.1 (List.mem_of_mem_take hevent)
          refine .inr ⟨event, (happening.scan_perm s.rows).subset hscan, rfl, ?_⟩
          simp [Marked, (of_decide_eq_true hunprocessed).2]
    | processAuditEvent event => exact .inl h
    | utcnow => exact .inl h
    | attributes event => exact hstatement (fun _ => .inl) id h
    | flush update => exact hstatement (fun _ => .inl) id h
    | commit => exact hstatement (fun _ => .inl) id h
  · rw [(frame_answer happening hrun o s).selected] at h
    exact .inl h

/-- The event is marked, and the run has not selected it. -/
structure PassedOver (run : Nat) (id : UUID) (s : Outbox) : Prop where
  marked : ∀ row ∈ s.rows, row.id = id → Marked row
  not_selected : id ∉ s.selectedBy run

/-- An event that a pass has passed over stays so. -/
theorem outboxRules_respect (run : Nat) (id : UUID) :
    outboxRules.Respect (PassedOver run id) Anything fun _ _ => True := by
  refine ⟨fun happening run' o s h _ => ⟨trivial, fun row' hrow' hid => ?_, fun hmem => ?_⟩, nofun⟩
  · obtain ⟨row, hrow, hrowId, hmarked⟩ := (grows_answer happening run' o s).2 row' hrow'
    exact hmarked (h.marked row hrow (hrowId.trans hid))
  · rcases mem_selectedBy_answer hmem with hmem | ⟨row, hrow, hid, hunmarked⟩
    · exact h.not_selected hmem
    · exact hunmarked (h.marked row hrow hid)

/-- An event whose mark is committed before a run selects is not selected by it. -/
theorem not_mem_selectedBy {p : Pool Await Await.Ans Ending Outbox}
    (hids : (p.shared.rows.map OutboxEvent.id).Nodup) {row : OutboxEvent} (hrow : row ∈ p.shared.rows)
    (hmarked : Marked row) (hselected : p.shared.selectedBy run = []) (schedule : List (Act Happening Empty)) :
    row.id ∉ (p.run outboxRules schedule).shared.selectedBy run := by
  have hstart : p.Guaranteed (PassedOver run row.id) Anything (fun _ _ => True) fun _ _ => True := by
    refine ⟨fun _ q _ => q.guar_trivial, ⟨fun row' hrow' hid => ?_, ?_⟩, fun _ _ => trivial⟩
    · rw [List.inj_on_of_nodup_map hids hrow' hrow hid]
      exact hmarked
    · rw [hselected]
      exact List.not_mem_nil
  exact (hstart.run (outboxRules_respect run row.id) schedule).shared.not_selected

/-- Deliveries of any number of runs, at every moment of every schedule and at every later one: an event
is marked only after an attempt at it that succeeded, no pass attempts one twice, and none selects what
is marked. -/
theorem outbox_delivered (runs : List Settings) {rows : List OutboxEvent}
    (hids : (rows.map OutboxEvent.id).Nodup) (schedule schedule' : List (Act Happening Empty)) :
    let p := (flusherPool runs rows).run outboxRules schedule
    let p' := p.run outboxRules schedule'
    MarkedByProcessing rows p'.shared ∧
      ∀ run, ((p'.shared.attemptsBy run).map Prod.fst).Nodup ∧
        (∀ row ∈ p.shared.rows, Marked row → p.shared.selectedBy run = [] →
          row.id ∉ (p'.shared.attemptsBy run).map Prod.fst) ∧
        (Unrefused run (schedule ++ schedule') → BatchDelivered p' run) := by
  intro p p'
  have hp' : p' = (flusherPool runs rows).run outboxRules (schedule ++ schedule') :=
    (Pool.run_append schedule schedule').symm
  obtain ⟨phase, hphase⟩ := exists_following runs hids (fun _ => False) (schedule ++ schedule')
    fun _ h => h.elim
  rw [← hp'] at hphase
  refine ⟨hphase.shared.marked, fun run => ⟨?_, fun row hrow hmarked hselected hmem => ?_, fun hsteady => ?_⟩⟩
  · exact (hphase.shared.runs run).attempted.sublist.nodup (hphase.shared.runs run).nodup
  · obtain ⟨phase₁, hphase₁⟩ := exists_following runs hids (fun _ => False) schedule
      fun _ h => h.elim
    have hnodup : (p.shared.rows.map OutboxEvent.id).Nodup := by
      rw [hphase₁.shared.ids]
      exact hids
    exact not_mem_selectedBy hnodup hrow hmarked hselected schedule'
      ((hphase.shared.runs run).attempted.subset hmem)
  · obtain ⟨phase₂, hphase₂⟩ := exists_following runs hids (fun run' => run' = run)
      (schedule ++ schedule') fun _ h => h ▸ hsteady
    rw [← hp'] at hphase₂
    exact .of_following hphase₂ rfl

/-- An event of the audit log. -/
def auditEvent (id : Nat) : OutboxEvent where
  id := ⟨id⟩
  eventType := "audit_log"
  aggregateId := "run"
  aggregateType := "Run"
  payload := []
  createdAt := 0
  updatedAt := 0

/-- A run on its own: the first event succeeds, the second fails. -/
def oneFailure : List (Act Happening Empty) :=
  [.thread 0 {}, .thread 0 {}, .thread 0 { now := 5 }, .thread 0 { now := 5 }, .thread 0 {},
    .thread 0 { processing := .error (.external "ConnectionError") }, .thread 0 {}, .thread 0 { now := 6 },
    .thread 0 {}, .thread 0 {}]

/-- Two events, one of which fails once: both passes meet the law. -/
theorem outbox_delivered_oneFailure :
    let rows := [auditEvent 1, auditEvent 2]
    (rows.map OutboxEvent.id).Nodup ∧
      let p := (flusherPool [{}, {}] rows).run outboxRules oneFailure
      let p' := p.run outboxRules [.thread 1 {}]
      MarkedByProcessing rows p'.shared ∧
        ∀ run, ((p'.shared.attemptsBy run).map Prod.fst).Nodup ∧
          (∀ row ∈ p.shared.rows, Marked row → p.shared.selectedBy run = [] →
            row.id ∉ (p'.shared.attemptsBy run).map Prod.fst) ∧
          (Unrefused run (oneFailure ++ [.thread 1 {}]) → BatchDelivered p' run) := by
  intro rows
  have hids : (rows.map OutboxEvent.id).Nodup := by decide
  exact ⟨hids, outbox_delivered [{}, {}] hids oneFailure [.thread 1 {}]⟩

/-- Two runs that select the same event both process it. -/
def bothSelect : List (Act Happening Empty) :=
  [.thread 0 {}, .thread 1 {}, .thread 0 {}, .thread 0 {}, .thread 0 {}, .thread 0 {}, .thread 0 {},
    .thread 1 {}]

/-- The flush of the second mark is refused. -/
def refusedMark : List (Act Happening Empty) :=
  [.thread 0 {}, .thread 0 {}, .thread 0 {}, .thread 0 {}, .thread 0 {}, .thread 0 {}, .thread 0 {},
    .thread 0 {}, .thread 0 { refuses := some (.external "OperationalError") }, .thread 0 {}]

/-- Overlapping runs process an event twice; a refused flush undoes the mark of the event before it, and
prevents the processing of the event after it. -/
theorem not_outbox_delivered :
    (¬∀ (runs : List Settings) (rows : List OutboxEvent) (schedule : List (Act Happening Empty)),
      (rows.map OutboxEvent.id).Nodup →
        (succeeded (((flusherPool runs rows).run outboxRules schedule).shared.attempts.map Prod.snd)).Nodup) ∧
    (¬∀ (runs : List Settings) (rows : List OutboxEvent) (schedule : List (Act Happening Empty)) (run : Nat),
      (rows.map OutboxEvent.id).Nodup →
        let p := (flusherPool runs rows).run outboxRules schedule
        (p.ending run).isSome → ∀ row ∈ p.shared.rows, row.id ∈ succeeded (p.shared.attemptsBy run) →
          Marked row) ∧
    ¬∀ (runs : List Settings) (rows : List OutboxEvent) (schedule : List (Act Happening Empty)) (run : Nat),
      (rows.map OutboxEvent.id).Nodup →
        let p := (flusherPool runs rows).run outboxRules schedule
        (p.ending run).isSome → (p.shared.attemptsBy run).map Prod.fst = p.shared.selectedBy run := by
  refine ⟨fun h => ?_, fun h => ?_, fun h => ?_⟩
  · have hnodup := h [{}, {}] [auditEvent 1] bothSelect (by decide)
    revert hnodup
    decide +kernel
  · have hmarked := h [{}] [auditEvent 1, auditEvent 2, auditEvent 3] refusedMark 0 (by decide)
      (by decide +kernel)
    revert hmarked
    decide +kernel
  · have hattempted := h [{}] [auditEvent 1, auditEvent 2, auditEvent 3] refusedMark 0 (by decide)
      (by decide +kernel)
    revert hattempted
    decide +kernel

end

end OutboxFlusher

end AgentRuntime
