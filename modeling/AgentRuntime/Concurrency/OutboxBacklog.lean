import AgentRuntime.Concurrency.OutboxDelivery
import AgentRuntime.Interaction.BigStep
import AgentRuntime.Interaction.History
import Mathlib.Algebra.Order.Ring.Nat

/-!
# The backlog of the outbox

The flusher takes a batch of unprocessed events, in an order that the statement does not fix, and an event
whose processing fails stays unprocessed and is taken again. Passes of the flusher, one after another, get
through all other events in whatever order the rows are found, exactly if fewer events than a batch holds
keep failing (`drained_iff`): each pass then takes at least that many others (`countP_waiting_after_le`),
and otherwise a batch can consist of failing events only, pass after pass.
-/

namespace AgentRuntime

open Interaction

namespace OutboxFlusher

/-- A run of the flusher by itself, with no statement refused: how the processing of each event ends, the
time, and the order in which the rows are found. -/
structure Pass where
  outcome : UUID → Except PyError Unit
  now : Time := 0
  scan : List OutboxEvent → List OutboxEvent := id
  scan_perm : ∀ rows, (scan rows).Perm rows := by exact fun _ => .refl _

/-- The most events that a pass takes: a negative limit is an error, and a flusher that is not enabled takes
none. -/
def Settings.limit (self : Settings) : Nat := if self.auditEnabled then self.auditBatchSize.toNat else 0

namespace Pass

/-- What happens at an await of the pass. -/
def happening (self : Pass) : Await → Happening
  | .processAuditEvent event =>
    { processing := self.outcome event.id, now := self.now, scan := self.scan, scan_perm := self.scan_perm }
  | _ => { now := self.now, scan := self.scan, scan_perm := self.scan_perm }

/-- The answers to the pass. -/
abbrev env (self : Pass) : Env Await Await.Ans Outbox := fun o s => outboxAnswer (self.happening o) 0 o s

/-- The events of the pass. -/
def batch (self : Pass) (settings : Settings) (rows : List OutboxEvent) : List OutboxEvent :=
  ((self.scan rows).filter Unprocessed).take settings.limit

/-- What the pass flushes for an event. -/
def update (self : Pass) (event : OutboxEvent) : Update :=
  match self.outcome event.id with
  | .ok () => .processed event.id self.now self.now
  | .error e => .failed event.id (event.retryCount + 1) e.str self.now

end Pass

/-- The rows after a pass. -/
def flushRows (settings : Settings) (pass : Pass) (rows : List OutboxEvent) : List OutboxEvent :=
  (((flushAuditOutbox settings).on ()).exec pass.env { rows }).state.rows

/-! ## What a pass does -/

section
variable {settings : Settings} {pass : Pass} {s : Outbox}

/-- The session has not failed, and has flushed these updates over these rows. -/
structure Flushed (rows : List OutboxEvent) (updates : List Update) (s : Outbox) : Prop where
  rows_eq : s.rows = rows
  session : s.sessions 0 = { updates }

/-- A statement that the database takes goes through in such a session. -/
theorem statement_of_flushed {α : Type} {rows : List OutboxEvent} {updates : List Update}
    (h : Flushed rows updates s) (result : Except PyError α × Outbox) :
    s.statement 0 none result = result := by
  have hopen : (s.sessions 0).failed = false := by rw [h.session]
  rcases Outbox.statement_of_open hopen none result with ⟨-, heq⟩ | ⟨e, he, -⟩
  · exact heq
  · cases he

/-- A round of the loop flushes the update of the event. -/
theorem endsOn_flushEvent {rows : List OutboxEvent} {updates : List Update} (h : Flushed rows updates s)
    (n : Nat) (event : OutboxEvent) :
    ∃ n' s', Proc.EndsOn pass.env (flushEvent n event) () s (.ok n') () s' ∧
      Flushed rows (updates ++ [pass.update event]) s' := by
  let tried : Outbox := { s with attempts := s.attempts ++ [(0, event.id, (pass.outcome event.id).isOk)] }
  have htried : Flushed rows updates tried := ⟨h.rows_eq, h.session⟩
  have hprocess : Proc.EndsOn pass.env (Proc.tryCall (.processAuditEvent event) id : Flusher Unit) () s
      (pass.outcome event.id) () tried := Proc.endsOn_tryCall _ _
  have htime (s : Outbox) : Proc.EndsOn pass.env (Proc.call Await.utcnow : Flusher Time) () s (.ok pass.now) () s :=
    Proc.endsOn_call _
  let flushed (update : Update) : Outbox := tried.setSession 0 { updates := updates ++ [update] }
  have hflush (update : Update) :
      Proc.EndsOn pass.env (Proc.tryCall (.flush update) id : Flusher Unit) () tried (.ok ()) ()
        (flushed update) := by
    refine Proc.endsOn_tryCall_of_eq ?_ _
    simp only [Pass.happening, outboxAnswer, statement_of_flushed htried, htried.session, flushed]
  have hflushed (update : Update) : Flushed rows (updates ++ [update]) (flushed update) :=
    ⟨h.rows_eq, by simp [flushed, Outbox.setSession]⟩
  cases houtcome : pass.outcome event.id with
  | ok _ =>
    rw [houtcome] at hprocess
    refine ⟨n + 1, flushed (.processed event.id pass.now pass.now), ?_, ?_⟩
    · unfold flushEvent
      refine Proc.EndsOn.tryCatch_ok ?_ _
      exact hprocess.bind ((htime _).bind ((htime _).bind ((hflush _).bind (Proc.endsOn_pure _))))
    · rw [Pass.update, houtcome]
      exact hflushed _
  | error e =>
    rw [houtcome] at hprocess
    have hattributes : Proc.EndsOn pass.env (Proc.tryCall (.attributes event) id : Flusher Unit) () tried
        (.ok ()) () tried := by
      refine Proc.endsOn_tryCall_of_eq ?_ _
      simp only [outboxAnswer, statement_of_flushed htried]
    refine ⟨n, flushed (.failed event.id (event.retryCount + 1) e.str pass.now), ?_, ?_⟩
    · unfold flushEvent
      refine Proc.EndsOn.tryCatch_error hprocess.bind_error ?_
      exact hattributes.bind ((htime _).bind ((hflush _).bind (Proc.endsOn_pure _)))
    · rw [Pass.update, houtcome]
      exact hflushed _

/-- The loop flushes the updates of its events, in turn. -/
theorem endsOn_foldlM_flushEvent {rows : List OutboxEvent} {updates : List Update}
    (h : Flushed rows updates s) (n : Nat) (events : List OutboxEvent) :
    ∃ n' s', Proc.EndsOn pass.env (events.foldlM flushEvent n) () s (.ok n') () s' ∧
      Flushed rows (updates ++ events.map pass.update) s' := by
  induction events generalizing n updates s with
  | nil =>
    refine ⟨n, s, Proc.endsOn_pure n, ?_⟩
    rwa [List.map_nil, List.append_nil]
  | cons event events ih =>
    obtain ⟨n₁, s₁, hround, h₁⟩ := endsOn_flushEvent h n event
    obtain ⟨n₂, s₂, hrounds, h₂⟩ := ih h₁ n₁
    refine ⟨n₂, s₂, ?_, ?_⟩
    · rw [List.foldlM_cons]
      exact hround.bind hrounds
    · rwa [List.append_assoc] at h₂

/-- A pass leaves each row with the updates of its batch. -/
theorem flushRows_eq (settings : Settings) (pass : Pass) (rows : List OutboxEvent) :
    flushRows settings pass rows =
      rows.map fun row => ((pass.batch settings rows).map pass.update).foldl Update.apply row := by
  have hstart : Flushed rows [] { rows } := ⟨rfl, rfl⟩
  unfold flushRows flushAuditOutbox
  rw [Proc.on_ite]
  by_cases henabled : settings.auditEnabled
  · rw [if_neg (not_not.2 henabled)]
    have hlimit : settings.limit = settings.auditBatchSize.toNat := by simp [Settings.limit, henabled]
    by_cases hneg : settings.auditBatchSize < 0
    · -- the statement is an error, and the batch is empty
      have hselect : Proc.EndsOn pass.env
          (Proc.tryCall (.select settings.auditBatchSize) id : Flusher (List OutboxEvent)) () { rows }
          (.error (.external "LIMIT must not be negative")) () { rows } := by
        refine Proc.endsOn_tryCall_of_eq ?_ _
        simp only [Pass.happening, outboxAnswer, statement_of_flushed hstart, if_pos hneg]
      have hbatch : pass.batch settings rows = [] := by
        rw [Pass.batch, hlimit, Int.toNat_of_nonpos (le_of_lt hneg), List.take_zero]
      rw [(hselect.bind_error).2, hbatch]
      simp
    · let taken : Outbox :=
        { rows, selected := (pass.batch settings rows).map fun event => (0, event.id) }
      have htaken : Flushed rows [] taken := ⟨rfl, rfl⟩
      have hselect : Proc.EndsOn pass.env
          (Proc.tryCall (.select settings.auditBatchSize) id : Flusher (List OutboxEvent)) () { rows }
          (.ok (pass.batch settings rows)) () taken := by
        refine Proc.endsOn_tryCall_of_eq ?_ _
        simp only [Pass.happening, outboxAnswer, statement_of_flushed hstart, if_neg hneg, taken, Pass.batch,
          hlimit, List.nil_append]
      obtain ⟨n, s, hloop, hs⟩ : ∃ n s, Proc.EndsOn pass.env _ () taken (.ok n) () s ∧ Flushed rows _ s :=
        endsOn_foldlM_flushEvent htaken 0 (pass.batch settings rows)
      have hcommit : Proc.EndsOn pass.env (Proc.tryCall .commit id : Flusher Unit) () s (.ok ()) ()
          { s.setSession 0 {} with rows := s.committed 0 } := by
        refine Proc.endsOn_tryCall_of_eq ?_ _
        exact statement_of_flushed hs _
      rw [(hselect.bind (hloop.bind (hcommit.bind (Proc.endsOn_pure n)))).2]
      simp only [Outbox.committed, hs.rows_eq, hs.session, List.nil_append]
  · rw [if_pos henabled]
    have hbatch : pass.batch settings rows = [] := by simp [Pass.batch, Settings.limit, henabled]
    rw [hbatch]
    simp

end

/-! ## What is left after passes -/

section
variable {poison : UUID → Bool} {settings : Settings} {pass : Pass} {rows : List OutboxEvent}

/-- The processing of exactly these events fails in the pass. -/
def Pass.FailsOn (poison : UUID → Bool) (pass : Pass) : Prop := ∀ id, (pass.outcome id).isOk = !poison id

/-- An unprocessed event whose processing does not fail. -/
def Waiting (poison : UUID → Bool) (row : OutboxEvent) : Prop := Unprocessed row ∧ poison row.id = false

/-- An unprocessed event whose processing fails. -/
def Stuck (poison : UUID → Bool) (row : OutboxEvent) : Prop := Unprocessed row ∧ poison row.id = true

instance : DecidablePred (Waiting poison) := fun _ => inferInstanceAs (Decidable (_ ∧ _))

instance : DecidablePred (Stuck poison) := fun _ => inferInstanceAs (Decidable (_ ∧ _))

/-- A pass marks an event exactly if its delivery does not fail. -/
theorem marks_update (hpass : pass.FailsOn poison) (event : OutboxEvent) :
    marks [pass.update event] = if poison event.id then [] else [event.id] := by
  have hok := hpass event.id
  unfold Pass.update
  cases houtcome : pass.outcome event.id with
  | ok _ =>
    rw [houtcome] at hok
    have hpoison : poison event.id = false := by simpa [Except.isOk, Except.toBool] using hok
    rw [hpoison]
    rfl
  | error e =>
    rw [houtcome] at hok
    have hpoison : poison event.id = true := by simpa [Except.isOk, Except.toBool] using hok
    rw [hpoison]
    rfl

/-- Of its batch, a pass marks the events whose processing does not fail. -/
theorem mem_marks_map_update (hpass : pass.FailsOn poison) (events : List OutboxEvent) (eventId : UUID) :
    eventId ∈ marks (events.map pass.update) ↔
      eventId ∈ events.map OutboxEvent.id ∧ poison eventId = false := by
  induction events with
  | nil => simp [marks]
  | cons event events ih =>
    have hcons : marks ((event :: events).map pass.update) =
        marks [pass.update event] ++ marks (events.map pass.update) := marks_append [_] _
    rw [hcons, List.mem_append, ih, marks_update hpass, List.map_cons, List.mem_cons]
    cases hpoison : poison event.id with
    | true =>
      have hne : eventId = event.id → poison eventId ≠ false := by
        rintro rfl
        simp [hpoison]
      simp only [if_true, List.not_mem_nil, false_or]
      tauto
    | false =>
      have heq : eventId = event.id → poison eventId = false := by
        rintro rfl
        exact hpoison
      simp only [Bool.false_eq_true, if_false, List.mem_singleton]
      tauto

/-- Updates leave the type of an event. -/
@[simp] theorem foldl_apply_eventType (updates : List Update) (event : OutboxEvent) :
    (updates.foldl Update.apply event).eventType = event.eventType := by
  induction updates generalizing event with
  | nil => rfl
  | cons update updates ih =>
    rw [List.foldl_cons, ih]
    cases update <;> simp only [Update.apply] <;> split <;> rfl

/-- The updates leave an event unprocessed that none of them marks. -/
theorem unprocessed_foldl_apply (updates : List Update) (event : OutboxEvent) :
    Unprocessed (updates.foldl Update.apply event) ↔ Unprocessed event ∧ event.id ∉ marks updates := by
  have hmarked := isSome_foldl_apply updates event
  unfold Unprocessed
  rw [foldl_apply_eventType, ← Option.not_isSome_iff_eq_none, ← Option.not_isSome_iff_eq_none, hmarked]
  tauto

/-- A pass keeps the rows, in their order. -/
@[simp] theorem flushRows_ids : (flushRows settings pass rows).map OutboxEvent.id = rows.map OutboxEvent.id := by
  rw [flushRows_eq, List.map_map]
  exact List.map_congr_left fun row _ => foldl_apply_id _ row

/-- The events that keep failing stay. -/
theorem countP_stuck_flushRows (hpass : pass.FailsOn poison) :
    (flushRows settings pass rows).countP (Stuck poison) = rows.countP (Stuck poison) := by
  rw [flushRows_eq, List.countP_map]
  refine List.countP_congr fun row _ => ?_
  simp only [Function.comp_apply, decide_eq_true_eq]
  unfold Stuck
  rw [unprocessed_foldl_apply, foldl_apply_id, mem_marks_map_update hpass]
  constructor
  · exact fun ⟨⟨hrow, _⟩, hpoison⟩ => ⟨hrow, hpoison⟩
  · rintro ⟨hrow, hpoison⟩
    refine ⟨⟨hrow, fun hmem => ?_⟩, hpoison⟩
    rw [hpoison] at hmem
    cases hmem.2

/-- What of the rows is unprocessed, in the order in which the pass finds it. -/
def Pass.found (self : Pass) (rows : List OutboxEvent) : List OutboxEvent :=
  (self.scan rows).filter Unprocessed

/-- The order in which a pass finds the unprocessed rows changes no count of them. -/
theorem Pass.countP_found {p : OutboxEvent → Prop} [DecidablePred p] (hp : ∀ row, p row → Unprocessed row)
    (pass : Pass) (rows : List OutboxEvent) : (pass.found rows).countP p = rows.countP p := by
  rw [Pass.found, List.countP_filter, ← (pass.scan_perm rows).countP_eq]
  refine List.countP_congr fun row _ => ?_
  simpa using hp row

/-- What a pass finds is its batch, and the rows beyond the limit. -/
theorem Pass.found_eq (pass : Pass) (settings : Settings) (rows : List OutboxEvent) :
    pass.found rows = pass.batch settings rows ++ (pass.found rows).drop settings.limit :=
  (List.take_append_drop settings.limit (pass.found rows)).symm

/-- The others that are left are those that the pass did not take. -/
theorem countP_waiting_flushRows (hids : (rows.map OutboxEvent.id).Nodup) (hpass : pass.FailsOn poison) :
    (flushRows settings pass rows).countP (Waiting poison) =
      ((pass.found rows).drop settings.limit).countP (Waiting poison) := by
  let Left (row : OutboxEvent) : Prop :=
    Waiting poison row ∧ row.id ∉ (pass.batch settings rows).map OutboxEvent.id
  have hleft : (flushRows settings pass rows).countP (Waiting poison) = rows.countP (fun row => Left row) := by
    rw [flushRows_eq, List.countP_map]
    refine List.countP_congr fun row _ => ?_
    simp only [Function.comp_apply, decide_eq_true_eq, Left]
    unfold Waiting
    rw [unprocessed_foldl_apply, foldl_apply_id, mem_marks_map_update hpass]
    tauto
  have hfound : ((pass.found rows).map OutboxEvent.id).Nodup := by
    have hperm := (pass.scan_perm rows).map OutboxEvent.id
    exact (List.filter_sublist.map _).nodup (hperm.nodup_iff.2 hids)
  rw [pass.found_eq settings, List.map_append, List.nodup_append] at hfound
  rw [hleft, ← Pass.countP_found (p := fun row => Left row) (fun row h => h.1.1) pass rows,
    pass.found_eq settings, List.countP_append, ← pass.found_eq settings]
  have hnone : (pass.batch settings rows).countP (fun row => Left row) = 0 := by
    rw [List.countP_eq_zero]
    intro row hrow hmem
    exact (of_decide_eq_true hmem).2 (List.mem_map_of_mem hrow)
  rw [hnone, Nat.zero_add]
  refine List.countP_congr fun row hrow => ?_
  have hnotin : row.id ∉ (pass.batch settings rows).map OutboxEvent.id := fun hmem =>
    hfound.2.2 _ hmem _ (List.mem_map_of_mem hrow) rfl
  simp only [decide_eq_true_eq, Left]
  exact and_iff_left hnotin

/-- A pass takes as many of the others as the events that keep failing leave room for. -/
theorem countP_waiting_flushRows_le (hids : (rows.map OutboxEvent.id).Nodup) (hpass : pass.FailsOn poison) :
    (flushRows settings pass rows).countP (Waiting poison) ≤
      rows.countP (Waiting poison) - (settings.limit - rows.countP (Stuck poison)) := by
  have hwaiting : (pass.found rows).countP (Waiting poison) = rows.countP (Waiting poison) :=
    Pass.countP_found (fun row h => h.1) pass rows
  have hstuck : (pass.found rows).countP (Stuck poison) = rows.countP (Stuck poison) :=
    Pass.countP_found (fun row h => h.1) pass rows
  have hboth (events : List OutboxEvent) (hevents : ∀ event ∈ events, Unprocessed event) :
      events.countP (Waiting poison) + events.countP (Stuck poison) = events.length := by
    rw [List.length_eq_countP_add_countP (fun event => decide (Waiting poison event))]
    congr 1
    refine List.countP_congr fun event hevent => ?_
    simp only [decide_eq_true_eq]
    unfold Stuck Waiting
    cases poison event.id <;> simp [hevents event hevent]
  have hunprocessed : ∀ event ∈ pass.found rows, Unprocessed event := fun event hevent =>
    of_decide_eq_true (List.mem_filter.1 hevent).2
  have hlength := hboth _ hunprocessed
  have hrest := hboth ((pass.found rows).drop settings.limit) fun event hevent =>
    hunprocessed event (List.mem_of_mem_drop hevent)
  have hfewer : ((pass.found rows).drop settings.limit).countP (Waiting poison) ≤
      (pass.found rows).countP (Waiting poison) := (List.drop_sublist ..).countP_le
  rw [List.length_drop] at hrest
  rw [countP_waiting_flushRows hids hpass]
  omega

/-- The passes one after another. -/
abbrev afterPasses (settings : Settings) (rows : List OutboxEvent) (passes : List Pass) : List OutboxEvent :=
  after (flushRows settings) rows passes

/-- What is left after passes in which the same events fail. -/
theorem countP_waiting_after_le (settings : Settings) {passes : List Pass} (hids : (rows.map OutboxEvent.id).Nodup)
    (hpasses : ∀ pass ∈ passes, pass.FailsOn poison) :
    (afterPasses settings rows passes).countP (Waiting poison) ≤
      rows.countP (Waiting poison) - passes.length * (settings.limit - rows.countP (Stuck poison)) := by
  induction passes generalizing rows with
  | nil => simp
  | cons pass passes ih =>
    have hpass := hpasses pass List.mem_cons_self
    have hstep : (flushRows settings pass rows).countP (Waiting poison) ≤
        rows.countP (Waiting poison) - (settings.limit - rows.countP (Stuck poison)) :=
      countP_waiting_flushRows_le hids hpass
    have hids' : ((flushRows settings pass rows).map OutboxEvent.id).Nodup := by rwa [flushRows_ids]
    have hrest := ih hids' fun pass' hmem => hpasses pass' (List.mem_cons_of_mem pass hmem)
    rw [countP_stuck_flushRows hpass] at hrest
    rw [List.length_cons, Nat.succ_mul]
    exact hrest.trans (by omega)

/-- A pass that finds the events first whose processing fails. -/
def stuckFirst (poison : UUID → Bool) : Pass where
  outcome id := if poison id then .error (.external "SIEM unavailable") else .ok ()
  scan rows := rows.filter (Stuck poison) ++ rows.filter fun row => ¬Stuck poison row
  scan_perm rows := by simpa using List.filter_append_perm (fun row => decide (Stuck poison row)) rows

/-- The pass that finds the stuck events first fails on exactly these. -/
theorem stuckFirst_failsOn (poison : UUID → Bool) : (stuckFirst poison).FailsOn poison := by
  intro id
  change (if poison id then (.error (.external "SIEM unavailable") : Except PyError Unit) else .ok ()).isOk = _
  cases poison id <;> rfl

/-- Where the events that keep failing fill the batch, this pass takes no others. -/
theorem stuck_of_mem_batch (hfull : settings.limit ≤ rows.countP (Stuck poison)) {row : OutboxEvent}
    (hrow : row ∈ (stuckFirst poison).batch settings rows) : Stuck poison row := by
  have hfilter : ((rows.filter (Stuck poison)).filter Unprocessed) = rows.filter (Stuck poison) :=
    List.filter_eq_self.2 fun row hrow => decide_eq_true (of_decide_eq_true (List.mem_filter.1 hrow).2).1
  have hlength : settings.limit ≤ (rows.filter (Stuck poison)).length := by
    rwa [← List.countP_eq_length_filter]
  rw [Pass.batch, stuckFirst, List.filter_append, hfilter, List.take_append_of_le_length hlength] at hrow
  exact of_decide_eq_true (List.mem_filter.1 (List.mem_of_mem_take hrow)).2

/-- The updates of other events leave an event as it is. -/
theorem foldl_apply_of_ne {events : List OutboxEvent} {row : OutboxEvent}
    (hne : ∀ event ∈ events, row.id ≠ event.id) (pass : Pass) :
    (events.map pass.update).foldl Update.apply row = row := by
  induction events with
  | nil => rfl
  | cons event events ih =>
    have hevent := hne event List.mem_cons_self
    have hsame : Update.apply row (pass.update event) = row := by
      unfold Pass.update
      split
      · exact if_neg hevent
      · exact if_neg hevent
    rw [List.map_cons, List.foldl_cons, hsame]
    exact ih fun event' hmem => hne event' (List.mem_cons_of_mem event hmem)

/-- So each of the others is left as it is, pass after pass. -/
theorem mem_afterPasses_stuckFirst (hfull : settings.limit ≤ rows.countP (Stuck poison)) {row : OutboxEvent}
    (hrow : row ∈ rows) (hwaiting : Waiting poison row) (n : Nat) :
    row ∈ afterPasses settings rows (List.replicate n (stuckFirst poison)) := by
  let Kept (rows' : List OutboxEvent) : Prop :=
    row ∈ rows' ∧ settings.limit ≤ rows'.countP (Stuck poison)
  have hkept : Kept (afterPasses settings rows (List.replicate n (stuckFirst poison))) := by
    refine after_induction ⟨hrow, hfull⟩ ?_
    rintro rows' pass hpass ⟨hrow', hfull'⟩
    rw [List.eq_of_mem_replicate hpass]
    refine ⟨?_, by rwa [countP_stuck_flushRows (stuckFirst_failsOn poison)]⟩
    rw [flushRows_eq]
    refine List.mem_map.2 ⟨row, hrow', foldl_apply_of_ne (fun event hevent hid => ?_) _⟩
    have hstuck := (stuck_of_mem_batch hfull' hevent).2
    rw [← hid, hwaiting.2] at hstuck
    cases hstuck
  exact hkept.1

/-- The others are all processed after enough passes, in whatever order each finds the rows, exactly if the
events that keep failing are fewer than a batch. Where they fill one, there is an order in which none of the
others is ever processed. -/
theorem drained_iff (settings : Settings) (poison : UUID → Bool) {rows : List OutboxEvent}
    (hids : (rows.map OutboxEvent.id).Nodup) :
    ((∃ n, ∀ passes : List Pass, passes.length = n → (∀ pass ∈ passes, pass.FailsOn poison) →
        ∀ row ∈ afterPasses settings rows passes, ¬Waiting poison row) ↔
      rows.countP (Stuck poison) < settings.limit ∨ ∀ row ∈ rows, ¬Waiting poison row) ∧
    (settings.limit ≤ rows.countP (Stuck poison) → ∃ pass : Pass, pass.FailsOn poison ∧
      ∀ n, ∀ row ∈ rows, Waiting poison row →
        row ∈ afterPasses settings rows (List.replicate n pass)) := by
  have hstarved (hfull : settings.limit ≤ rows.countP (Stuck poison)) (n : Nat) (row : OutboxEvent)
      (hrow : row ∈ rows) (hwaiting : Waiting poison row) :
      row ∈ afterPasses settings rows (List.replicate n (stuckFirst poison)) :=
    mem_afterPasses_stuckFirst hfull hrow hwaiting n
  refine ⟨⟨?_, ?_⟩, fun hfull => ⟨stuckFirst poison, stuckFirst_failsOn poison, hstarved hfull⟩⟩
  · rintro ⟨n, hn⟩
    refine or_iff_not_imp_left.2 fun hfull row hrow hwaiting => ?_
    have hpasses : ∀ pass ∈ List.replicate n (stuckFirst poison), pass.FailsOn poison := fun pass hpass =>
      List.eq_of_mem_replicate hpass ▸ stuckFirst_failsOn poison
    exact hn _ List.length_replicate hpasses row (hstarved (not_lt.1 hfull) n row hrow hwaiting) hwaiting
  · rintro (hroom | hdone)
    · refine ⟨rows.countP (Waiting poison), fun passes hlength hpasses row hrow hwaiting => ?_⟩
      have hle := countP_waiting_after_le settings hids hpasses
      have henough : rows.countP (Waiting poison) ≤
          passes.length * (settings.limit - rows.countP (Stuck poison)) := by
        rw [hlength]
        exact Nat.le_mul_of_pos_right _ (Nat.sub_pos_of_lt hroom)
      have hleft : 0 < (afterPasses settings rows passes).countP (Waiting poison) :=
        List.countP_pos_iff.2 ⟨row, hrow, decide_eq_true hwaiting⟩
      omega
    · refine ⟨0, fun passes hlength _ => ?_⟩
      rw [List.length_eq_zero_iff.1 hlength]
      exact hdone

/-- Two of three events fail in each pass. A batch of three is drained, and one of two need not be. -/
theorem drained_iff_of_two_failing :
    let event (n : Nat) : OutboxEvent :=
      { id := ⟨n⟩, eventType := "audit_log", aggregateId := "t", aggregateType := "tenant", payload := [],
        createdAt := 0, updatedAt := 0 }
    let rows := [event 1, event 2, event 3]
    let poison (id : UUID) : Bool := id.val < 3
    (∃ n, ∀ passes : List Pass, passes.length = n → (∀ pass ∈ passes, pass.FailsOn poison) →
        ∀ row ∈ afterPasses { auditBatchSize := 3 } rows passes, ¬Waiting poison row) ∧
      ∃ pass : Pass, pass.FailsOn poison ∧ ∀ n, ∀ row ∈ rows, Waiting poison row →
        row ∈ afterPasses { auditBatchSize := 2 } rows (List.replicate n pass) :=
  ⟨(drained_iff { auditBatchSize := 3 } (fun id => id.val < 3) (by decide)).1.2 (.inl (by decide)),
    (drained_iff { auditBatchSize := 2 } (fun id => id.val < 3) (by decide)).2 (by decide)⟩

end

end OutboxFlusher

end AgentRuntime
