import AgentRuntime.Db.Store

/-!
# Stored terminal states are final

The repository hands out runs whose `spent_cost` is an integer, no operation turns it into `Money`,
and `update` reads `run.spent_cost.micro_units` before its flush. So no update of a loaded run
reaches the tables, whatever the clients do, and a stored state stays as it is. It rests on that
exception alone (`stale_update_overwrites_terminal_state`).
-/

namespace AgentRuntime

open Interaction

/-- The run was loaded by the repository as it is written. -/
def Run.HasIntCost (self : Run) : Prop := ∃ n, self.spentCost = .int n

/-- Loaded runs have integer costs. -/
def LoadsIntCost : (o : Call) → o.Ans → Prop
  | .runGet _, r => ∀ run, r = .ok (some run) → run.HasIntCost
  | _, _ => True

/-- Runs that are stored have integer costs. -/
def StoresIntCost : Call → Prop
  | .runUpdate run => run.HasIntCost
  | _ => True

/-! ## The programs -/

section
variable {σ : Type} {I : σ → Prop} {α : Type}

/-- The coroutine keeps the costs of the runs it loads integers, and stores only such runs. -/
abbrev KeepsIntCost (I : σ → Prop) (m : Service σ α) : Prop := m.Keeps LoadsIntCost StoresIntCost I

/-- The end of most services: store the run in hand. -/
theorem keepsIntCost_update {f : Run → Run → Service Run α}
    (hf : ∀ run updated, KeepsIntCost Run.HasIntCost (f run updated)) :
    KeepsIntCost Run.HasIntCost (do
      let run ← get
      let updated ← Service.runUpdate run
      f run updated) :=
  Proc.keeps_get_bind fun run hrun =>
    Proc.keeps_bind (Proc.keeps_tryCall hrun) fun updated => hf run updated

/-- A service that loads a run and works on it. -/
theorem keepsIntCost_onLoaded {runId : UUID} {onRun : Option Run → Service σ α}
    (hnone : KeepsIntCost I (onRun none))
    (hsome : ∀ run, run.HasIntCost → KeepsIntCost I (onRun (some run))) :
    KeepsIntCost I (Service.runGet runId >>= onRun) := by
  refine Proc.keeps_tryCall_bind trivial fun r run? hr hok => ?_
  cases run? with
  | none => exact hnone
  | some run => exact hsome run (hr run hok)

end

/-- A cancellation request stores the run with the cost that it was loaded with, an integer. -/
theorem keepsIntCost_requestCancellation {I : Unit → Prop} (runId : UUID) (reason : Option String) :
    KeepsIntCost I (CancellationService.requestCancellation runId reason) := by
  refine keepsIntCost_onLoaded (Proc.keeps_pure _) fun run hrun => ?_
  refine Proc.keeps_ite (fun _ => Proc.keeps_pure _) fun _ => Proc.keeps_withObject hrun ?_
  refine Proc.keeps_bind (Proc.keeps_call trivial) fun _ =>
    Proc.keeps_bind (Proc.keeps_modify fun _ h => h) fun _ => keepsIntCost_update fun run _ => ?_
  refine Proc.keeps_bind (Proc.keeps_call trivial) fun _ =>
    Proc.keeps_bind (Proc.keeps_method (RunOperation.keeps_int (.addEvent _) 0)) fun _ =>
      Proc.keeps_bind (Proc.keeps_call trivial) fun _ =>
        Proc.keeps_bind (Proc.keeps_call trivial) fun _ => Proc.keeps_pure _

/-- A call that looks for a request stores nothing. -/
theorem keepsIntCost_isCancelled {I : Unit → Prop} (runId : UUID) :
    KeepsIntCost I (CancellationService.isCancelled runId) :=
  Proc.keeps_bind (Proc.keeps_call trivial) fun _ => Proc.keeps_ite (fun _ => Proc.keeps_pure _)
    fun _ => keepsIntCost_onLoaded (Proc.keeps_pure _) fun _ _ => Proc.keeps_pure _

/-- The run that a tenant gets has an integer cost. -/
theorem guar_getRun (runId tenantId : UUID) :
    ((RunUseCases.getRun runId tenantId : Service Unit (Option Run)).on ()).Guar LoadsIntCost
      StoresIntCost fun r => ∀ run, r.1 = .ok (some run) → run.HasIntCost := by
  refine Proc.guar_tryCall_bind trivial (fun r run? hr hok => ?_) (by simp)
  cases run? with
  | none => exact fun run h => nomatch h
  | some run =>
    rw [Proc.on_ite]
    split
    · rintro _ ⟨⟩; exact hr run hok
    · exact fun run h => nomatch h

/-- The cancellation of a run leaves its cost. -/
theorem keepsIntCost_cancelRun (runId tenantId : UUID) (reason : Option String) :
    KeepsIntCost (fun _ : Unit => True) (RunUseCases.cancelRun runId tenantId reason) := by
  rintro ⟨⟩ -
  rw [RunUseCases.cancelRun, Proc.on_bind]
  refine Proc.guar_bind (guar_getRun runId tenantId) (fun run? _ hrun => ?_) fun _ _ _ => trivial
  cases run? with
  | none => trivial
  | some run =>
    refine Proc.keeps_withObject (I := fun _ : Unit => True) (hrun run rfl) ?_ () trivial
    refine Proc.keeps_bind (Proc.keeps_call trivial) fun now =>
      Proc.keeps_bind (Proc.keeps_method (RunOperation.keeps_int (.cancel reason) now)) fun _ => ?_
    exact Proc.keeps_get_bind fun run hrun => Proc.keeps_bind (Proc.keeps_tryCall hrun) fun _ =>
      Proc.keeps_pure _

/-- A recording on an integer cost raises before it stores anything. -/
theorem keepsIntCost_recordSpent {I : Unit → Prop} (runId : UUID) (cost : Money)
    (provider model : String) :
    KeepsIntCost I (BudgetService.recordSpent runId cost provider model) := by
  refine keepsIntCost_onLoaded (Proc.keeps_pure _) fun run hrun => Proc.keeps_withObject hrun ?_
  refine Proc.keeps_bind (Proc.keeps_call trivial) fun now =>
    Proc.keeps_bind (Proc.keeps_method (RunOperation.keeps_int (.recordCost cost) now)) fun _ =>
      keepsIntCost_update fun run _ => ?_
  exact Proc.keeps_bind (Proc.keeps_ofExcept _) fun _ =>
    Proc.keeps_method (RunOperation.keeps_int (.addEvent _) now)

/-- Every operation leaves an integer cost, or raises. -/
theorem keepsIntCost_runOperation {I : Unit → Prop} (runId : UUID) (op : RunOperation) (now : Time) :
    KeepsIntCost I (runOperation runId op now) := by
  refine keepsIntCost_onLoaded (Proc.keeps_pure _) fun run hrun => Proc.keeps_withObject hrun ?_
  exact Proc.keeps_bind (Proc.keeps_method (RunOperation.keeps_int op now)) fun _ =>
    keepsIntCost_update fun _ _ => Proc.keeps_pure _

/-- Every client keeps costs integers. -/
theorem guar_client (runId : UUID) (client : Client) :
    (client.program runId).Guar LoadsIntCost StoresIntCost fun _ => True := by
  have hkeeps {β : Type} {m : Service Unit β} (hm : KeepsIntCost (fun _ => True) m)
      (f : β → Option Bool) : ((f <$> m).on ()).Guar LoadsIntCost StoresIntCost fun _ => True :=
    Proc.guar_map (hm () trivial)
  cases client with
  | worker executor fuel =>
    refine Proc.guar_map ?_
    rw [RunExecutor.executeRun_on]
    exact ⟨trivial, fun _ _ => trivial⟩
  | requestCancellation reason => exact hkeeps (keepsIntCost_requestCancellation runId reason) _
  | isCancelled => exact hkeeps (keepsIntCost_isCancelled runId) _
  | cancelRun tenantId reason => exact hkeeps (keepsIntCost_cancelRun runId tenantId reason) _
  | recordSpent cost provider model =>
    exact hkeeps (keepsIntCost_recordSpent runId cost provider model) _
  | operation op now => exact hkeeps (keepsIntCost_runOperation runId op now) _

/-! ## The tables -/

/-- The repository as it is written loads integer costs, and stores no run that has one. -/
theorem storeRules_asInt_respect (lazyLoad : Outside → Except PyError Unit) (tables : RunTables) :
    (storeRules .asInt lazyLoad).Respect (fun s => s.tables = tables) LoadsIntCost
      (fun _ => StoresIntCost) := by
  refine ⟨fun outside i o s hs hP => ?_, fun expiry s hs => hs⟩
  cases o with
  | runGet runId =>
    refine ⟨fun run hrun => ?_, hs⟩
    obtain ⟨row, -, hrow⟩ := RunRepository.get_on_eq_some.1 hrun
    obtain ⟨spentCost, maxCost, hspent, -, -, -, rfl⟩ := RunRepository.toEntity_eq_ok.1 hrow
    cases hspent
    exact ⟨_, rfl⟩
  | runUpdate run =>
    obtain ⟨n, hn⟩ := hP
    refine ⟨trivial, ?_⟩
    rcases RunRepository.update_on_cases .asInt (lazyLoad outside) run s.tables with ⟨e, he⟩ | ⟨row, m, -, hm, -⟩
    · simpa [storeRules, storeAnswer, he] using hs
    · rw [hn] at hm; cases hm
  | setFlag runId => exact ⟨trivial, by simp only [storeRules, storeAnswer]; split <;> exact hs⟩
  | clearFlag runId => exact ⟨trivial, by simp only [storeRules, storeAnswer]; split <;> exact hs⟩
  | _ => exact ⟨trivial, hs⟩

/-- Whatever the clients do, the tables stay as they are. -/
theorem tables_unchanged (lazyLoad : Outside → Except PyError Unit) (runId : UUID) (clients : List Client)
    (store : Store) (schedule : List (Act Outside FlagExpiry)) :
    ((clientPool runId clients store).run (storeRules .asInt lazyLoad) schedule).shared.tables =
      store.tables := by
  have hstart : (clientPool runId clients store).Guaranteed (fun s => s.tables = store.tables)
      LoadsIntCost (fun _ => StoresIntCost) (fun _ _ => True) :=
    clientPool_guaranteed rfl fun _ client _ => guar_client runId client
  exact (hstart.run (storeRules_asInt_respect lazyLoad store.tables) schedule).shared

/-- Once a stored state is terminal, it is the same after any further actions: no client that loads a run
through this repository stores anything over it. -/
theorem stored_terminal_state_final (lazyLoad : Outside → Except PyError Unit) (runId : UUID)
    (clients : List Client) (store : Store) (before after : List (Act Outside FlagExpiry)) :
    let pool := clientPool runId clients store
    ∀ row, (pool.run (storeRules .asInt lazyLoad) before).shared.tables.find runId = some row →
      row.state.isTerminal = true →
      ∃ row', (pool.run (storeRules .asInt lazyLoad) (before ++ after)).shared.tables.find runId = some row' ∧
        row'.state = row.state := by
  intro pool row hrow _
  rw [tables_unchanged] at hrow ⊢
  exact ⟨row, hrow, rfl⟩

/-- A cancelled run, a client that read it, and a client that would requeue it. -/
theorem stored_terminal_state_final_sample :
    ∃ row', ((clientPool ⟨1⟩ [.isCancelled, .operation .requeue 1]
        (Store.sample (RunRow.sample .cancelled))).run (storeRules .asInt loadsSteps)
          ([quietStep 1] ++ [quietStep 1, quietStep 0])).shared.tables.find ⟨1⟩ = some row' ∧
      row'.state = (RunRow.sample .cancelled).state :=
  stored_terminal_state_final loadsSteps ⟨1⟩ _ _ [quietStep 1] [quietStep 1, quietStep 0]
    (RunRow.sample .cancelled) rfl rfl

/-- The law rests on the update that fails. Were the column read as `Money`, a client that read the
run before it was cancelled would store its old state again. -/
theorem stale_update_overwrites_terminal_state :
    let pool := clientPool ⟨1⟩ [.cancelRun ⟨3⟩ none, .recordSpent ⟨5⟩ "" ""]
      (Store.sample (RunRow.sample .running))
    let state (schedule : List (Act Outside FlagExpiry)) :=
      ((pool.run (storeRules .asMoney loadsSteps) schedule).shared.tables.find ⟨1⟩).map RunRow.state
    let cancelled := [quietStep 1, quietStep 0, quietStep 0, quietStep 0]
    state cancelled = some .cancelled ∧
      state (cancelled ++ [quietStep 1, quietStep 1]) = some .running := by
  decide

end AgentRuntime
