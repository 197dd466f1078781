import AgentRuntime.Db.Store
import AgentRuntime.Interaction.Protocol

/-!
# Recorded costs

`BudgetService.record_spent` gets the run, adds a cost to the one it read, and updates the run; the
update overwrites the stored cost. Two calls that read the same row lose one of their costs, also
when the repository reads the column as `Money` and an update can load the steps of its row
(`loadsSteps`). While every update finds the stored cost that its client read last (`FreshUpdate`), no cost
is lost and the budget is kept.

Each client follows a protocol (`recordingProtocol`): one read, then at most one update, which adds
the client's cost to the cost that was read.
-/

namespace AgentRuntime

open Interaction

namespace Client

/-- What the client records on the run. -/
def cost : Client → Nat
  | recordSpent cost _ _ => cost.microUnits
  | _ => 0

def isRecordSpent : Client → Bool
  | recordSpent _ _ _ => true
  | _ => false

/-- Only calls of `record_spent` record costs. -/
def RecordsBySpentOnly : Client → Prop
  | operation op _ => op.recordsCost = false
  | _ => True

end Client

/-- Where a client is in its work on the run. -/
inductive RecordingPhase where
  | unread
  | read (run : Run)
  | written

/-- The run is stored with the client's cost added to what was read, and within the budget when the
cost is not zero. -/
def AddsCost (client : Client) (run run' : Run) : Prop :=
  run'.id = run.id ∧ 0 ≤ run'.attempt ∧ ∃ m m', run.spentCost = .money m ∧
    run'.spentCost = .money m' ∧ m'.microUnits = m.microUnits + client.cost ∧
    (client.cost = 0 ∨ m'.microUnits ≤ run.maxCost.microUnits)

/-- The run is read once, then stored at most once; a call of `record_spent` ends with that, and
returns without exception exactly when it has stored the run. -/
def recordingProtocol (runId : UUID) (client : Client) :
    Protocol Call Call.Ans Ending RecordingPhase where
  may
    | .unread, .runGet id => id = runId
    | .read run, .runUpdate run' => AddsCost client run run'
    | .unread, .runUpdate _ | .read _, .runGet _ | .written, .runGet _ | .written, .runUpdate _ => False
    | .written, _ => client.isRecordSpent = false
    | _, _ => True
  next
    | _, .runGet _, .ok (some run) => .read run
    | _, .runUpdate _, _ => .written
    | g, _, _ => g
  returns g ending := client.isRecordSpent = true → (g = .written ↔ ∃ v, ending.1 = .ok v)

/-- The run `runId` is found, and loaded with its costs as money; an update succeeds. -/
def LoadsMoney (runId : UUID) : (o : Call) → o.Ans → Prop
  | .runGet id, r => id = runId → r ≠ .ok none ∧ ∀ run, r = .ok (some run) →
      run.id = runId ∧ 0 ≤ run.attempt ∧ ∃ m, run.spentCost = .money m
  | .runUpdate _, r => ∃ run, r = .ok run
  | _, _ => True

/-- A call of `record_spent` reads the run, adds its cost to the one it read, and returns exactly if it has
stored the sum. -/
theorem follows_recordSpent (runId : UUID) (cost : Money) (provider model : String) :
    ((Client.recordSpent cost provider model).program runId).Follows (LoadsMoney runId)
      (recordingProtocol runId (.recordSpent cost provider model)) .unread := by
  simp only [Client.program, BudgetService.recordSpent, Proc.on_bind, Proc.on_map, Proc.on_tryCall,
      Prog.call_bind, Prog.ret_bind, Prog.follows_call]
  refine ⟨rfl, fun r hr => ?_⟩
  rcases r with e | _ | run
  · simp [recordingProtocol]
  · exact absurd rfl (hr rfl).1
  · obtain ⟨hid, hattempt, m, hm⟩ := (hr rfl).2 run rfl
    simp only [id, Proc.thenOn_ok, Proc.on_withObject, Proc.on_bind, Proc.on_call, Prog.call_bind, Prog.follows_call]
    refine ⟨trivial, fun now _ => ?_⟩
    simp only [Prog.ret_bind, Proc.thenOn_ok, Proc.on_bind, Proc.on_method, RunOperation.recordCost_on_money hm]
    split
    · simp [recordingProtocol]
    · next hmax =>
      have hbudget : (m + cost).microUnits ≤ run.maxCost.microUnits := Nat.le_of_not_lt hmax
      simp only [Proc.thenOn_ok, Proc.on_bind, Proc.on_get, Prog.ret_bind, Proc.on_tryCall,
        Prog.call_bind, Prog.follows_call]
      have hadds {run' : Run} (hid : run'.id = run.id) (hattempt' : run'.attempt = run.attempt)
          (hspent : run'.spentCost = .money (m + cost)) :
          AddsCost (.recordSpent cost provider model) run run' :=
        ⟨hid, hattempt'.symm ▸ hattempt, m, m + cost, hm, hspent, rfl, .inr hbudget⟩
      refine ⟨hadds rfl rfl rfl, ?_⟩
      rintro _ ⟨updated, rfl⟩
      simp [recordingProtocol, SpentCost.microUnits, Run.addEvent]

/-- Storing a run whose budget is unchanged adds no cost. -/
theorem addsCost_of_sameBudget {client : Client} {run run' : Run} {m : Money}
    (hclient : client.cost = 0) (hattempt : 0 ≤ run.attempt) (hm : run.spentCost = .money m)
    (h : run.SameBudget run') : AddsCost client run run' :=
  ⟨h.id, Int.le_trans hattempt h.attempt, m, m, hm, h.spentCost.trans hm, by rw [hclient]; rfl,
    .inl hclient⟩

/-- A client that does not record what was spent may end at any time. -/
theorem follows_ending {runId : UUID} {client : Client} (hclient : client.isRecordSpent = false)
    (ending : Ending) (g : RecordingPhase) :
    (Prog.ret ending).Follows (LoadsMoney runId) (recordingProtocol runId client) g := by
  intro hrecords
  cases hclient.symm.trans hrecords

/-- An operation that records no cost stores the cost that it read. -/
theorem follows_runOperation (runId : UUID) {op : RunOperation} (hop : op.recordsCost = false)
    (now : Time) :
    ((Client.operation op now).program runId).Follows (LoadsMoney runId)
      (recordingProtocol runId (.operation op now)) .unread := by
  simp only [Client.program, runOperation, Proc.on_bind, Proc.on_map, Proc.on_tryCall,
    Prog.call_bind, Prog.ret_bind, Prog.follows_call]
  refine ⟨rfl, fun r hr => ?_⟩
  rcases r with e | _ | run
  · exact follows_ending rfl _ _
  · exact absurd rfl (hr rfl).1
  · obtain ⟨-, hattempt, m, hm⟩ := (hr rfl).2 run rfl
    have hsame := RunOperation.keeps_sameBudget hop now run run (.refl run)
    simp only [id, Proc.thenOn_ok, Proc.on_withObject, Proc.on_bind, Proc.on_method, Prog.ret_bind]
    rcases hrun : (op.method now).on run with ⟨e | ⟨⟩, run'⟩ <;> rw [hrun] at hsame
    · exact follows_ending rfl _ _
    · simp only [Proc.thenOn_ok, Proc.on_bind, Proc.on_get, Prog.ret_bind, Proc.on_tryCall,
        Prog.call_bind, Prog.follows_call]
      refine ⟨addsCost_of_sameBudget rfl hattempt hm hsame, ?_⟩
      rintro _ ⟨updated, rfl⟩
      exact follows_ending rfl _ _

/-- So does a cancellation request. -/
theorem follows_requestCancellation (runId : UUID) (reason : Option String) :
    ((Client.requestCancellation reason).program runId).Follows (LoadsMoney runId)
      (recordingProtocol runId (.requestCancellation reason)) .unread := by
  simp only [Client.program, CancellationService.requestCancellation, Proc.on_bind, Proc.on_map,
    Proc.on_tryCall, Prog.call_bind, Prog.ret_bind, Prog.follows_call]
  refine ⟨rfl, fun r hr => ?_⟩
  rcases r with e | _ | run
  · exact follows_ending rfl _ _
  · exact absurd rfl (hr rfl).1
  · obtain ⟨-, hattempt, m, hm⟩ := (hr rfl).2 run rfl
    simp only [id, Proc.thenOn_ok, Proc.on_ite]
    split
    · exact follows_ending rfl _ _
    · simp only [Proc.on_withObject, Proc.on_bind, Proc.on_call, Prog.call_bind, Prog.ret_bind,
        Proc.thenOn_ok, Proc.on_modify, Proc.on_get, Proc.on_tryCall, Prog.follows_call]
      refine ⟨trivial, fun now _ => ⟨addsCost_of_sameBudget rfl hattempt hm (.of_eq rfl rfl rfl rfl), ?_⟩⟩
      rintro _ ⟨updated, rfl⟩
      simp [recordingProtocol, Client.isRecordSpent, Run.addEvent]

/-- So does the cancellation of a run. -/
theorem follows_cancelRun (runId tenantId : UUID) (reason : Option String) :
    ((Client.cancelRun tenantId reason).program runId).Follows (LoadsMoney runId)
      (recordingProtocol runId (.cancelRun tenantId reason)) .unread := by
  simp only [Client.program, RunUseCases.cancelRun, RunUseCases.getRun, Proc.on_bind, Proc.on_map,
    Proc.on_tryCall, Prog.call_bind, Prog.ret_bind, Prog.follows_call]
  refine ⟨rfl, fun r hr => ?_⟩
  rcases r with e | _ | run
  · exact follows_ending rfl _ _
  · exact absurd rfl (hr rfl).1
  · obtain ⟨-, hattempt, m, hm⟩ := (hr rfl).2 run rfl
    simp only [id, Proc.thenOn_ok, Proc.on_ite]
    split
    · simp only [Proc.on_pure, Proc.on_withObject, Proc.on_bind, Proc.on_call, Prog.call_bind, Prog.ret_bind,
        Proc.thenOn_ok, Proc.on_method, Prog.follows_call]
      refine ⟨trivial, fun now _ => ?_⟩
      have hrecords : (RunOperation.cancel reason).recordsCost = false := rfl
      have hsame := RunOperation.keeps_sameBudget hrecords now run run (.refl run)
      simp only [RunOperation.method] at hsame
      rcases hrun : (Run.cancel reason now).on run with ⟨e | ⟨⟩, run'⟩ <;> rw [hrun] at hsame
      · exact follows_ending rfl _ _
      · simp only [Proc.thenOn_ok, Proc.on_bind, Proc.on_get, Prog.ret_bind, Proc.on_tryCall,
          Prog.call_bind, Prog.follows_call]
        refine ⟨addsCost_of_sameBudget rfl hattempt hm hsame, ?_⟩
        rintro _ ⟨updated, rfl⟩
        exact follows_ending rfl _ _
    · exact follows_ending rfl _ _

/-- Every client follows its protocol. -/
theorem follows_client (runId : UUID) {client : Client} (hclient : client.RecordsBySpentOnly) :
    (client.program runId).Follows (LoadsMoney runId) (recordingProtocol runId client) .unread := by
  cases client with
  | worker executor fuel =>
    simp only [Client.program, Proc.on_map, RunExecutor.executeRun_on, Prog.call_bind,
      Prog.ret_bind, Prog.follows_call]
    refine ⟨rfl, fun r _ => ?_⟩
    rcases r with e | _ | run
    · exact follows_ending rfl _ _
    · exact follows_ending rfl _ _
    · simp [RunExecutor.afterGet, recordingProtocol, Client.isRecordSpent]
  | requestCancellation reason => exact follows_requestCancellation runId reason
  | isCancelled =>
    simp only [Client.program, CancellationService.isCancelled, Proc.on_map, Proc.on_bind,
      Proc.on_call, Prog.call_bind, Prog.ret_bind, Proc.thenOn_ok, Prog.follows_call]
    refine ⟨trivial, fun flag _ => ?_⟩
    rw [Proc.on_ite]
    split
    · exact follows_ending rfl _ _
    · simp only [Proc.on_bind, Proc.on_tryCall, Prog.call_bind, Prog.ret_bind, Prog.follows_call]
      refine ⟨rfl, fun r _ => ?_⟩
      rcases r with e | _ | run
      · exact follows_ending rfl _ _
      · exact follows_ending rfl _ _
      · exact follows_ending rfl _ _
  | cancelRun tenantId reason => exact follows_cancelRun runId tenantId reason
  | recordSpent cost provider model => exact follows_recordSpent runId cost provider model
  | operation op now => exact follows_runOperation runId hclient now

/-! ## The stored cost -/

/-- The client has stored the run. -/
def RecordingPhase.isWritten : RecordingPhase → Bool
  | written => true
  | _ => false

/-- The client at a position; past the end, one that only looks for a cancellation. -/
def clientAt (clients : List Client) (i : Nat) : Client := clients[i]?.getD .isCancelled

/-- The costs of the clients that have stored the run. -/
def writtenCost (clients : List Client) (phase : Nat → RecordingPhase) : Nat :=
  ∑ i ∈ Finset.range clients.length,
    if (phase i).isWritten then (clientAt clients i).cost else 0

/-- Beyond the last client nothing is recorded. -/
theorem cost_clientAt_of_le {clients : List Client} {i : Nat} (h : clients.length ≤ i) :
    (clientAt clients i).cost = 0 := by
  rw [clientAt, List.getElem?_eq_none h]
  rfl

/-- Moving a client that has not stored the run to a phase where it has adds its cost. -/
theorem writtenCost_update (clients : List Client) {phase : Nat → RecordingPhase} {i : Nat}
    (h : (phase i).isWritten = false) (next : RecordingPhase) :
    writtenCost clients (Function.update phase i next) =
      writtenCost clients phase + if next.isWritten then (clientAt clients i).cost else 0 := by
  have hsum := sum_update_phase (fun j g => if g.isWritten then (clientAt clients j).cost else 0) phase
    (i := i) (by rw [h]; rfl) next clients.length
  rw [writtenCost, hsum, ← writtenCost]
  by_cases hi : i < clients.length
  · rw [if_pos hi]
  · rw [if_neg hi, cost_clientAt_of_le (by omega), ite_self]

/-- The stored cost is the initial one and the costs of the clients that have stored the run; the
budget is kept; and a client that has read the run holds the cost of the row that it read. -/
structure RecordingInv (runId : UUID) (clients : List Client) (initial : RunRow)
    (phase : Nat → RecordingPhase) (s : Store) : Prop where
  row : ∃ row, s.tables.find runId = some row ∧
    row.maxCostMicrounits = initial.maxCostMicrounits ∧
    row.spentCostMicrounits = initial.spentCostMicrounits + writtenCost clients phase ∧
    (initial.spentCostMicrounits ≤ initial.maxCostMicrounits →
      row.spentCostMicrounits ≤ row.maxCostMicrounits)
  loads : ∀ i run, phase i = .read run →
    ∃ stored, ((RunRepository.get .asMoney runId).on s.tables).1 = .ok (some stored)
  read : ∀ i run, phase i = .read run → run.id = runId ∧
    (run.maxCost.microUnits : Int) = initial.maxCostMicrounits ∧
    ∃ old m, s.lastRead i = some old ∧ run.spentCost = .money m ∧
      (m.microUnits : Int) = old.spentCostMicrounits

/-- At an update, the stored cost is still the one that the client read last. -/
def FreshUpdate (i : Nat) (o : Call) (s : Store) : Prop :=
  match o with
  | .runUpdate run => (s.lastRead i).map RunRow.spentCostMicrounits =
      (s.tables.find run.id).map RunRow.spentCostMicrounits
  | _ => True

instance (i : Nat) (o : Call) (s : Store) : Decidable (FreshUpdate i o s) := by
  cases o <;> first | exact .isTrue trivial | exact inferInstanceAs (Decidable (_ = _))

/-- What the store loads, with the cost as money. -/
theorem get_asMoney {runId : UUID} {tables : RunTables} {row : RunRow} {run : Run}
    (hrow : tables.find runId = some row)
    (h : ((RunRepository.get .asMoney runId).on tables).1 = .ok (some run)) :
    run.id = runId ∧ 0 ≤ run.attempt ∧ (run.maxCost.microUnits : Int) = row.maxCostMicrounits ∧
      ∃ m, run.spentCost = .money m ∧ (m.microUnits : Int) = row.spentCostMicrounits := by
  obtain ⟨row', hrow', htoEntity⟩ := RunRepository.get_on_eq_some.1 h
  obtain rfl : row = row' := Option.some.inj (hrow.symm.trans hrow')
  obtain ⟨spentCost, maxCost, hspent, hmax, ⟨-, -, hattempt⟩, -, rfl⟩ :=
    RunRepository.toEntity_eq_ok.1 htoEntity
  refine ⟨RunTables.id_of_find hrow, hattempt, (Money.ofInt_eq_ok.1 hmax).symm, ?_⟩
  cases hofInt : Money.ofInt row.spentCostMicrounits with
  | error e => rw [SpentCostReading.decode, hofInt] at hspent; cases hspent
  | ok m =>
    rw [SpentCostReading.decode, hofInt] at hspent
    cases hspent
    exact ⟨m, rfl, (Money.ofInt_eq_ok.1 hofInt).symm⟩

section
variable {runId : UUID} {clients : List Client} {initial : RunRow} {phase : Nat → RecordingPhase}
  {s : Store}

/-- An answer that changes neither the tables nor a phase keeps the invariant. -/
theorem RecordingInv.of_flags (h : RecordingInv runId clients initial phase s) (flags : List UUID) :
    RecordingInv runId clients initial phase { s with flags } :=
  ⟨h.row, h.loads, h.read⟩

/-- A client that fails to read the run holds nothing. -/
theorem RecordingInv.of_failed_read (h : RecordingInv runId clients initial phase s) {i : Nat}
    (hi : phase i = .unread) (row : Option RunRow) :
    RecordingInv runId clients initial phase
      { s with lastRead := Function.update s.lastRead i row } := by
  refine ⟨h.row, h.loads, fun j run hj => ?_⟩
  have hji : j ≠ i := by rintro rfl; rw [hi] at hj; cases hj
  obtain ⟨hid, hmax, old, m, hold, hm, hmoney⟩ := h.read j run hj
  exact ⟨hid, hmax, old, m, by simp [Function.update_of_ne hji, hold], hm, hmoney⟩

/-- A client that reads the run holds the cost of its row. -/
theorem RecordingInv.of_read (h : RecordingInv runId clients initial phase s) {i : Nat}
    (hi : phase i = .unread) {run : Run}
    (hrun : ((RunRepository.get .asMoney runId).on s.tables).1 = .ok (some run)) :
    RecordingInv runId clients initial (Function.update phase i (.read run))
      { s with lastRead := Function.update s.lastRead i (s.tables.find runId) } := by
  obtain ⟨row, hrow, hmax, hspent, hbudget⟩ := h.row
  obtain ⟨hid, -, hrunMax, m, hm, hmoney⟩ := get_asMoney hrow hrun
  refine ⟨⟨row, hrow, hmax, ?_, hbudget⟩, fun _ _ _ => ⟨run, hrun⟩, fun j run' hj => ?_⟩
  · rw [writtenCost_update clients (by rw [hi]; rfl)]
    simpa [RecordingPhase.isWritten] using hspent
  · by_cases hji : j = i
    · subst hji
      rw [Function.update_self] at hj
      cases hj
      exact ⟨hid, hrunMax.trans hmax, row, m, by simp [hrow], hm, hmoney⟩
    · rw [Function.update_of_ne hji] at hj
      obtain ⟨hid', hmax', old, m', hold, hm', hmoney'⟩ := h.read j run' hj
      exact ⟨hid', hmax', old, m', by simp [Function.update_of_ne hji, hold], hm', hmoney'⟩

/-- A client that read the stored cost adds its own to it. -/
theorem RecordingInv.of_update (h : RecordingInv runId clients initial phase s) {i : Nat}
    {run run' : Run} (hi : phase i = .read run) (hadds : AddsCost (clientAt clients i) run run')
    (hfresh : (s.lastRead i).map RunRow.spentCostMicrounits =
      (s.tables.find run'.id).map RunRow.spentCostMicrounits) :
    (∃ updated, ((RunRepository.update .asMoney (.ok ()) run').on s.tables).1 = .ok updated) ∧
      RecordingInv runId clients initial (Function.update phase i .written)
        { s with tables := ((RunRepository.update .asMoney (.ok ()) run').on s.tables).2 } := by
  obtain ⟨row, hrow, hmax, hspent, hbudget⟩ := h.row
  obtain ⟨stored, hstored⟩ := h.loads i run hi
  obtain ⟨hid, hrunMax, old, m, hold, hm, hmoney⟩ := h.read i run hi
  obtain ⟨hid', hattempt, m₀, m', hm₀, hm', hsum, hwithin⟩ := hadds
  obtain rfl : m = m₀ := by rw [hm] at hm₀; exact SpentCost.money.inj hm₀
  have hrunId : run'.id = runId := hid'.trans hid
  subst hrunId
  -- what the client read is what is stored
  have hcurrent : old.spentCostMicrounits = row.spentCostMicrounits := by
    simpa [hold, hrow] using hfresh
  obtain ⟨updated, hupdated, hloads, -⟩ :=
    RunRepository.get_on_of_update hrow hm' hattempt hstored
  refine ⟨⟨updated, hupdated⟩, ⟨RunRepository.assigned row run' m'.microUnits, ?_, hmax, ?_, ?_⟩,
    fun _ _ _ => ⟨updated, hloads⟩, fun j run'' hj => ?_⟩
  · rw [RunRepository.update_on_of_money hrow hm']
    have hrowId : row.id = run'.id := RunTables.id_of_find hrow
    exact RunTables.find_put_of_find hrow hrowId
  · rw [writtenCost_update clients (by rw [hi]; rfl)]
    simp only [RunRepository.assigned, RecordingPhase.isWritten, if_true]
    omega
  · intro hinitial
    have := hbudget hinitial
    simp only [RunRepository.assigned]
    rcases hwithin with hzero | hwithin <;> omega
  · have hji : j ≠ i := by rintro rfl; rw [Function.update_self] at hj; cases hj
    rw [Function.update_of_ne hji] at hj
    exact h.read j run'' hj

/-- With fresh updates, the store keeps the invariant. -/
theorem storeRules_advance (runId : UUID) (clients : List Client) (initial : RunRow) :
    (storeRules .asMoney loadsSteps).Advance (LoadsMoney runId)
      (fun i => recordingProtocol runId (clientAt clients i)) (RecordingInv runId clients initial)
      FreshUpdate := by
  refine ⟨fun outside i o s phase h hmay hfresh => ?_, fun expiry s phase h => h.of_flags _⟩
  -- an answer that leaves the phase as it is
  have hsame {s' : Store} (h' : RecordingInv runId clients initial phase s') :
      RecordingInv runId clients initial (Function.update phase i (phase i)) s' := by
    rwa [Function.update_eq_self]
  cases o with
  | runGet id =>
    cases hphase : phase i with
    | unread =>
      obtain rfl : id = runId := by rw [hphase] at hmay; exact hmay
      obtain ⟨row, hrow, -⟩ := h.row
      rw [storeRules_answer_runGet]
      rcases hget : ((RunRepository.get .asMoney id).on s.tables).1 with e | _ | run
      · refine ⟨fun _ => ⟨nofun, (fun run hrun => by cases hrun)⟩, ?_⟩
        rw [← hphase]
        exact hsame (h.of_failed_read hphase _)
      · exact absurd hget (RunRepository.get_on_ne_none hrow)
      · refine ⟨fun _ => ⟨nofun, ?_⟩, h.of_read hphase hget⟩
        rintro _ ⟨⟩
        obtain ⟨hid, hattempt, -, m, hm, -⟩ := get_asMoney hrow hget
        exact ⟨hid, hattempt, m, hm⟩
    | read run => rw [hphase] at hmay; exact hmay.elim
    | written => rw [hphase] at hmay; exact hmay.elim
  | runUpdate run' =>
    cases hphase : phase i with
    | unread => rw [hphase] at hmay; exact hmay.elim
    | read run =>
      rw [hphase] at hmay
      have hadds : AddsCost (clientAt clients i) run run' := hmay
      exact h.of_update hphase hadds hfresh
    | written => rw [hphase] at hmay; exact hmay.elim
  | setFlag id =>
    refine ⟨trivial, hsame ?_⟩
    simp only [storeRules, storeAnswer]
    split
    · exact h.of_flags _
    · exact h
  | clearFlag id =>
    refine ⟨trivial, hsame ?_⟩
    simp only [storeRules, storeAnswer]
    split
    · exact h.of_flags _
    · exact h
  | _ => exact ⟨trivial, hsame h⟩

/-- The cost of a call of `record_spent` that has returned without exception. -/
def recordedCost (p : Pool Call Call.Ans Ending Store) (i : Nat) (client : Client) : Nat :=
  match p.ending i with
  | some (.ok _, _) => client.cost
  | _ => 0

/-- The costs of all calls of `record_spent` that have returned without exception. -/
def recordedCosts (clients : List Client) (p : Pool Call Call.Ans Ending Store) : Nat :=
  ∑ i ∈ Finset.range clients.length, recordedCost p i (clientAt clients i)

/-- A call of `record_spent` that has stored the run makes no further call. -/
theorem not_may_written {client : Client} (hclient : client.isRecordSpent = true) (o : Call) :
    ¬(recordingProtocol runId client).may .written o := by
  intro hmay
  have hnot : client.isRecordSpent = false := by
    cases o <;> first | exact hmay | exact hmay.elim
  rw [hclient] at hnot
  cases hnot

/-- A client at a position has returned, or can go on in its phase; in the second case it has not
stored the run, if it is a call of `record_spent`. -/
theorem isWritten_eq_false_of_follows {client : Client} {g : RecordingPhase}
    {q : Prog Call Call.Ans Ending} (hclient : client.isRecordSpent = true)
    (h : q.Follows (LoadsMoney runId) (recordingProtocol runId client) g)
    (hq : q.returned = none) : g.isWritten = false := by
  cases q with
  | ret ending => cases hq
  | unfinished => exact h.elim
  | call o k =>
    cases g with
    | unread => rfl
    | read run => rfl
    | written =>
      exact absurd h.1 (not_may_written hclient o)

/-- What the calls of `record_spent` have recorded is what the clients have written. -/
theorem recordedCosts_eq_writtenCost {p : Pool Call Call.Ans Ending Store}
    (hlength : p.threads.length = clients.length)
    (h : p.Following (LoadsMoney runId) (fun i => recordingProtocol runId (clientAt clients i))
      (RecordingInv runId clients initial) phase) :
    recordedCosts clients p = writtenCost clients phase := by
  refine Finset.sum_congr rfl fun i hi => ?_
  have hi' : i < p.threads.length := hlength ▸ Finset.mem_range.1 hi
  have hthread : p.threads[i]? = some p.threads[i] := List.getElem?_eq_getElem hi'
  have hfollows := h.threads i _ hthread
  cases hclient : (clientAt clients i).isRecordSpent with
  | false =>
    have hcost : (clientAt clients i).cost = 0 := by
      cases hc : clientAt clients i <;> first | rfl | (rw [hc] at hclient; cases hclient)
    simp only [recordedCost, hcost]
    split <;> simp
  | true =>
    cases hreturned : p.threads[i].returned with
    | none =>
      have hending : p.ending i = none := by simp [Pool.ending, hthread, hreturned]
      rw [recordedCost, hending, isWritten_eq_false_of_follows hclient hfollows hreturned]
      rfl
    | some ending =>
      have hending : p.ending i = some ending := by simp [Pool.ending, hthread, hreturned]
      rw [Prog.returned_eq_some.1 hreturned, Prog.follows_ret] at hfollows
      have hiff := hfollows hclient
      rw [recordedCost, hending]
      rcases ending with ⟨e | v, ⟨⟩⟩
      · have hnot : phase i ≠ .written := fun h => by obtain ⟨v, hv⟩ := hiff.1 h; cases hv
        cases hphase : phase i <;> first | rfl | exact absurd hphase hnot
      · rw [hiff.2 ⟨v, rfl⟩]
        rfl

/-- While every update finds the cost that its client read, the stored cost is the initial one and
the costs of the calls of `record_spent` that returned without exception, and stays within the
budget. -/
theorem spentCost_eq_of_freshUpdates (runId : UUID) {clients : List Client}
    (hclients : ∀ client ∈ clients, client.RecordsBySpentOnly) {store : Store} {initial : RunRow}
    (hinitial : store.tables.find runId = some initial)
    {schedule : List (Act Outside FlagExpiry)}
    (hfresh : Pool.Meets (storeRules .asMoney loadsSteps) (Pool.CallMeets FreshUpdate)
      (clientPool runId clients store) schedule) :
    let p := (clientPool runId clients store).run (storeRules .asMoney loadsSteps) schedule
    ∃ row, p.shared.tables.find runId = some row ∧
      row.spentCostMicrounits = initial.spentCostMicrounits + recordedCosts clients p ∧
      (initial.spentCostMicrounits ≤ initial.maxCostMicrounits →
        row.spentCostMicrounits ≤ row.maxCostMicrounits) := by
  intro p
  have hstart : (clientPool runId clients store).Following (LoadsMoney runId)
      (fun i => recordingProtocol runId (clientAt clients i)) (RecordingInv runId clients initial)
      (fun _ => .unread) := by
    refine ⟨fun i q hq => ?_, ⟨initial, hinitial, rfl, ?_, id⟩,
      (fun _ _ hread => by cases hread), (fun _ _ hread => by cases hread)⟩
    · obtain ⟨client, hclient, rfl⟩ : ∃ client, clients[i]? = some client ∧
          client.program runId = q := by
        simpa [clientPool] using hq
      have hat : clientAt clients i = client := by rw [clientAt, hclient]; rfl
      rw [hat]
      exact follows_client runId (hclients client (List.mem_of_getElem? hclient))
    · simp [writtenCost, RecordingPhase.isWritten]
  obtain ⟨phase, hphase⟩ := hstart.run (storeRules_advance runId clients initial) hfresh
  have hlength : p.threads.length = clients.length := by simp [p, clientPool]
  obtain ⟨row, hrow, -, hspent, hbudget⟩ := hphase.shared.row
  exact ⟨row, hrow, by rw [recordedCosts_eq_writtenCost hlength hphase]; exact hspent, hbudget⟩

/-- Two calls on a fresh run. -/
def twoRecordings : List Client :=
  [.recordSpent ⟨5⟩ "openai" "gpt-4", .recordSpent ⟨7⟩ "openai" "gpt-4"]

/-- One call after the other. -/
def oneAfterTheOther : List (Act Outside FlagExpiry) :=
  [quietStep 0, quietStep 0, quietStep 0, quietStep 1, quietStep 1, quietStep 1]

/-- Two recordings, one after the other: both costs are stored. -/
theorem spentCost_eq_of_freshUpdates_sample :
    Pool.Meets (storeRules .asMoney loadsSteps) (Pool.CallMeets FreshUpdate)
        (clientPool ⟨1⟩ twoRecordings (Store.sample (RunRow.sample .running))) oneAfterTheOther ∧
      let p := (clientPool ⟨1⟩ twoRecordings (Store.sample (RunRow.sample .running))).run
        (storeRules .asMoney loadsSteps) oneAfterTheOther
      ∃ row, p.shared.tables.find ⟨1⟩ = some row ∧
        row.spentCostMicrounits =
          (RunRow.sample .running).spentCostMicrounits + recordedCosts twoRecordings p ∧
        ((RunRow.sample .running).spentCostMicrounits ≤
            (RunRow.sample .running).maxCostMicrounits →
          row.spentCostMicrounits ≤ row.maxCostMicrounits) := by
  have hclients : ∀ client ∈ twoRecordings, client.RecordsBySpentOnly := by
    intro client hclient
    simp only [twoRecordings, List.mem_cons, List.not_mem_nil, or_false] at hclient
    rcases hclient with rfl | rfl <;> trivial
  have hinitial : (Store.sample (RunRow.sample .running)).tables.find ⟨1⟩ =
      some (RunRow.sample .running) := rfl
  have hfresh : Pool.Meets (storeRules .asMoney loadsSteps) (Pool.CallMeets FreshUpdate)
      (clientPool ⟨1⟩ twoRecordings (Store.sample (RunRow.sample .running))) oneAfterTheOther := by
    decide +kernel
  exact ⟨hfresh, spentCost_eq_of_freshUpdates ⟨1⟩ hclients hinitial hfresh⟩

/-- Two calls that read the same row return both, and the cost of one is lost. -/
theorem concurrent_recordSpent_loses_cost :
    let p := (clientPool ⟨1⟩ twoRecordings (Store.sample (RunRow.sample .running))).run
      (storeRules .asMoney loadsSteps)
      [quietStep 0, quietStep 1, quietStep 0, quietStep 0, quietStep 1, quietStep 1]
    p.ending 0 = some (.ok none, ()) ∧ p.ending 1 = some (.ok none, ()) ∧
      recordedCosts twoRecordings p = 12 ∧
      ((p.shared.tables.find ⟨1⟩).map fun row => row.spentCostMicrounits) = some 7 ∧
      ¬ ∃ row, p.shared.tables.find ⟨1⟩ = some row ∧
        row.spentCostMicrounits =
          (RunRow.sample .running).spentCostMicrounits + recordedCosts twoRecordings p := by
  intro p
  have hcosts : recordedCosts twoRecordings p = 12 := by decide +kernel
  have hrow : ((p.shared.tables.find ⟨1⟩).map fun row => row.spentCostMicrounits) = some 7 := by
    decide +kernel
  refine ⟨by decide +kernel, by decide +kernel, hcosts, hrow, ?_⟩
  rintro ⟨row, hfind, hspent⟩
  rw [hfind, Option.map_some, hspent, hcosts] at hrow
  revert hrow
  decide

end

end AgentRuntime
