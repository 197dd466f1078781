import AgentRuntime.Db.Store

/-!
# Stored cancellation requests are kept

Among workers that execute a run, services that request its cancellation and services that look for
a request, only the second kind writes the row of the run, and each of them writes a row that
carries a request. So once a request is stored it stays, and looking for it, which falls back to the
row when the flag in Redis has expired, finds it at every later moment.
-/

namespace AgentRuntime

open Interaction

/-- The stored run carries a cancellation request. -/
def CancellationStored (reading : SpentCostReading) (runId : UUID) (store : Store) : Prop :=
  ∃ run, ((RunRepository.get reading runId).on store.tables).1 = .ok (some run) ∧
    run.cancelRequestedAt ≠ none

/-- Executing the run, requesting its cancellation, looking for a request. -/
def Client.IsCancellationClient : Client → Prop
  | worker _ _ | requestCancellation _ | isCancelled => True
  | _ => False

/-- A run is stored only with a cancellation request, and with an attempt that can be loaded. -/
def StoresRequest : Call → Prop
  | .runUpdate run => run.cancelRequestedAt ≠ none ∧ 0 ≤ run.attempt
  | _ => True

/-- Loaded runs have an attempt that is not negative. -/
def LoadsAttempt : (o : Call) → o.Ans → Prop
  | .runGet _, r => ∀ run, r = .ok (some run) → 0 ≤ run.attempt
  | _, _ => True

/-- Moreover, the run `runId` is loaded with a cancellation request. -/
def LoadsRequest (runId : UUID) : (o : Call) → o.Ans → Prop
  | .runGet id, r => (∀ run, r = .ok (some run) → 0 ≤ run.attempt) ∧
      (id = runId → ∃ run, r = .ok (some run) ∧ run.cancelRequestedAt ≠ none)
  | _, _ => True

/-- An answer that shows the stored request also shows a run whose attempt is not negative. -/
theorem loadsAttempt_of_loadsRequest {runId : UUID} (o : Call) (r : o.Ans)
    (h : LoadsRequest runId o r) : LoadsAttempt o r := by
  cases o <;> first | exact h.1 | trivial

/-! ## The programs -/

/-- A request is stored with its time. -/
theorem guar_requestCancellation (runId : UUID) (reason : Option String) :
    ((CancellationService.requestCancellation runId reason : Service Unit Bool).on ()).Guar
      LoadsAttempt StoresRequest fun _ => True := by
  refine Proc.guar_tryCall_bind trivial (fun r run? hr hok => ?_) fun _ _ _ _ => trivial
  cases run? with
  | none => trivial
  | some run =>
    have hattempt : 0 ≤ run.attempt := hr run hok
    simp only [Proc.on_ite, Proc.on_withObject]
    split
    · trivial
    · refine Prog.Guar.bind (Q := fun _ => True) ?_ fun _ _ => trivial
      refine Proc.guar_call_bind trivial fun now _ => ?_
      rw [Proc.on_bind, Proc.on_modify, Prog.ret_bind, Proc.thenOn_ok]
      refine Proc.guar_get_bind (Proc.guar_tryCall_bind ⟨by simp, hattempt⟩ (fun _ _ _ _ => ?_)
        fun _ _ _ _ => trivial)
      refine Proc.guar_call_bind trivial fun _ _ => ?_
      rw [Proc.on_bind]
      refine Prog.Guar.bind (Q := fun _ => True) trivial ?_
      rintro ⟨e | ⟨⟩, run'⟩ -
      · trivial
      · exact Proc.guar_call_bind trivial fun _ _ => Proc.guar_call_bind trivial fun _ _ => trivial

/-- Every client of the cancellation keeps to storing requests. -/
theorem guar_cancellationClient (runId : UUID) {client : Client}
    (hclient : client.IsCancellationClient) :
    (client.program runId).Guar LoadsAttempt StoresRequest fun _ => True := by
  cases client with
  | worker executor fuel =>
    refine Proc.guar_map ?_
    rw [RunExecutor.executeRun_on]
    exact ⟨trivial, fun _ _ => trivial⟩
  | requestCancellation reason => exact Proc.guar_map (guar_requestCancellation runId reason)
  | isCancelled =>
    refine Proc.guar_map (Proc.guar_call_bind trivial fun flag _ => ?_)
    rw [Proc.on_ite]
    split
    · trivial
    · refine Proc.guar_tryCall_bind trivial (fun _ run? _ _ => ?_) fun _ _ _ _ => trivial
      cases run? <;> trivial
  | _ => exact hclient.elim

/-- Looking for a request finds the one that is loaded. -/
theorem guar_isCancelled (runId : UUID) :
    (Client.isCancelled.program runId).Guar (LoadsRequest runId) StoresRequest
      fun ending => ending = (.ok (some true), ()) := by
  refine Proc.guar_map (Proc.guar_call_bind trivial fun flag _ => ?_)
  rw [Proc.on_ite]
  split
  · rfl
  · refine Proc.guar_tryCall_bind trivial (fun r run? hr hok => ?_) fun r e hr he => ?_
    · obtain ⟨run, hrun, hrequested⟩ := hr.2 rfl
      obtain rfl : run? = some run := by rw [hrun] at hok; cases hok; rfl
      simp only [Option.isSome_iff_ne_none.2 hrequested]
      rfl
    · obtain ⟨run, hrun, -⟩ := hr.2 rfl
      rw [hrun] at he; cases he

/-! ## The store -/

/-- An update that a loaded run takes part in stores its request. -/
theorem cancellationStored_put {reading : SpentCostReading} (lazyLoad : Except PyError Unit) {runId : UUID}
    {store : Store} (h : CancellationStored reading runId store) {run : Run}
    (hrequested : run.cancelRequestedAt ≠ none) (hattempt : 0 ≤ run.attempt) :
    CancellationStored reading runId
      { store with tables := ((RunRepository.update reading lazyLoad run).on store.tables).2 } := by
  obtain ⟨stored, hstored, hstoredAt⟩ := h
  rcases RunRepository.update_on_cases reading lazyLoad run store.tables with
    ⟨e, he⟩ | ⟨row, m, hrow, hspent, hupdate⟩
  · exact ⟨stored, by rw [he]; exact hstored, hstoredAt⟩
  · by_cases hid : run.id = runId
    · subst hid
      obtain ⟨updated, -, hloads, hupdated⟩ :=
        RunRepository.get_on_of_update hrow hspent hattempt hstored
      exact ⟨updated, hloads, by rw [hupdated]; exact hrequested⟩
    · obtain ⟨old, hold, hloads⟩ := RunRepository.get_on_eq_some.1 hstored
      have hfind : (store.tables.put (RunRepository.assigned row run m.microUnits)).find runId =
          store.tables.find runId :=
        RunTables.find_put_of_ne fun h => hid ((RunTables.id_of_find hrow).symm.trans h)
      rw [hupdate]
      exact ⟨stored, RunRepository.get_on_eq_some.2 ⟨old, hfind.trans hold, hloads⟩, hstoredAt⟩

/-- The store loads runs whose attempt is not negative. -/
theorem loadsAttempt_get (reading : SpentCostReading) (runId : UUID) (tables : RunTables) {run : Run}
    (h : ((RunRepository.get reading runId).on tables).1 = .ok (some run)) : 0 ≤ run.attempt := by
  obtain ⟨row, -, hrow⟩ := RunRepository.get_on_eq_some.1 h
  obtain ⟨_, _, -, -, ⟨-, -, hattempt⟩, -, rfl⟩ := RunRepository.toEntity_eq_ok.1 hrow
  exact hattempt

/-- Whatever is stored, a run that is loaded has passed its constructor, so its attempt is not negative. -/
theorem storeRules_respect_loadsAttempt (reading : SpentCostReading)
    (lazyLoad : Outside → Except PyError Unit) :
    (storeRules reading lazyLoad).Respect (fun _ => True) LoadsAttempt (fun _ => StoresRequest) := by
  refine ⟨fun outside i o s _ _ => ⟨?_, trivial⟩, fun _ _ _ => trivial⟩
  cases o with
  | runGet id => exact fun run hrun => loadsAttempt_get reading id s.tables hrun
  | _ => trivial

/-- Once a request is stored, the store loads it, and clients that store only requests keep it. -/
theorem storeRules_respect_loadsRequest (reading : SpentCostReading)
    (lazyLoad : Outside → Except PyError Unit) (runId : UUID) :
    (storeRules reading lazyLoad).Respect (CancellationStored reading runId) (LoadsRequest runId)
      (fun _ => StoresRequest) := by
  refine ⟨fun outside i o s hs hP => ?_, fun _ _ hs => hs⟩
  cases o with
  | runGet id =>
    refine ⟨⟨fun run hrun => loadsAttempt_get reading id s.tables hrun, ?_⟩, hs⟩
    rintro rfl
    exact hs
  | runUpdate run => exact ⟨trivial, cancellationStored_put (lazyLoad outside) hs hP.1 hP.2⟩
  | setFlag id => exact ⟨trivial, by simp only [storeRules, storeAnswer]; split <;> exact hs⟩
  | clearFlag id => exact ⟨trivial, by simp only [storeRules, storeAnswer]; split <;> exact hs⟩
  | _ => exact ⟨trivial, hs⟩

/-! ## Requests are found -/

/-- Among the clients of a cancellation, a call of `is_cancelled` that starts when a request is
stored answers true, whenever it ends. -/
theorem isCancelled_of_cancellationStored (reading : SpentCostReading)
    (lazyLoad : Outside → Except PyError Unit) (runId : UUID) {clients : List Client}
    (hclients : ∀ client ∈ clients, client.IsCancellationClient)
    (store : Store) (before after : List (Act Outside FlagExpiry)) {i : Nat} {ending : Ending}
    (hstored : CancellationStored reading runId
      ((clientPool runId clients store).run (storeRules reading lazyLoad) before).shared)
    (hstart : ((clientPool runId clients store).run (storeRules reading lazyLoad) before).threads[i]? =
      some (Client.isCancelled.program runId))
    (hend : ((clientPool runId clients store).run (storeRules reading lazyLoad) (before ++ after)).ending i =
      some ending) :
    ending = (.ok (some true), ()) := by
  have hpool : (clientPool runId clients store).Guaranteed (fun _ => True) LoadsAttempt
      (fun _ => StoresRequest) (fun _ _ => True) :=
    clientPool_guaranteed trivial fun _ client hclient =>
      guar_cancellationClient runId (hclients client (List.mem_of_getElem? hclient))
  have hbefore := hpool.run (storeRules_respect_loadsAttempt reading lazyLoad) before
  rw [Pool.run_append] at hend
  set p := (clientPool runId clients store).run (storeRules reading lazyLoad) before
  -- from here on the stored request is loaded, and the caller of `is_cancelled` finds it
  have hfrom : p.Guaranteed (CancellationStored reading runId) (LoadsRequest runId)
      (fun _ => StoresRequest) (fun j ending => j = i → ending = (.ok (some true), ())) := by
    refine ⟨fun j q hq => ?_, hstored, hbefore.trace⟩
    by_cases hj : j = i
    · subst hj
      obtain rfl : q = Client.isCancelled.program runId := by
        rw [hstart] at hq; exact (Option.some.inj hq).symm
      exact (guar_isCancelled runId).mono (fun _ => id) fun _ h _ => h
    · exact ((hbefore.threads j q hq).strengthen loadsAttempt_of_loadsRequest).mono (fun _ => id)
        fun _ _ h => absurd h hj
  exact (hfrom.run (storeRules_respect_loadsRequest reading lazyLoad runId) after).ending hend rfl

/-- A worker, a request and a call that looks for it; the flag expires before the call. -/
theorem isCancelled_of_cancellationStored_sample :
    let pool := clientPool ⟨1⟩
      [.worker ⟨"a", fun _ _ => none⟩ 1, .requestCancellation none, .isCancelled]
      (Store.sample (RunRow.sample .running))
    let before := [quietStep 0, quietStep 1, quietStep 1, quietStep 1, quietStep 1, quietStep 1,
      quietStep 1]
    let after := [.outside ⟨⟨1⟩⟩, quietStep 2, quietStep 2]
    (pool.run (storeRules .asMoney loadsSteps) (before ++ after)).ending 2 = some (.ok (some true), ()) ∧
      ((.ok (some true), ()) : Ending) = (.ok (some true), ()) := by
  intro pool before after
  have hend : (pool.run (storeRules .asMoney loadsSteps) (before ++ after)).ending 2 =
      some (.ok (some true), ()) := by decide
  refine ⟨hend, isCancelled_of_cancellationStored .asMoney loadsSteps ⟨1⟩ ?_ _ before after ?_ ?_ hend⟩
  · intro client hclient
    simp only [List.mem_cons, List.not_mem_nil, or_false] at hclient
    rcases hclient with rfl | rfl | rfl <;> trivial
  · exact ⟨_, rfl, nofun⟩
  · rfl

end AgentRuntime
