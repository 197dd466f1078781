import AgentRuntime.Db.Store

/-!
# Lease exclusivity

`execute_run` raises before its main loop on every run it finds, so no worker is ever inside the
loop: it raises when it loads the memory context. The law is stated over any clients of the run, two of
which are workers.
-/

namespace AgentRuntime

open Interaction

/-- Client `i` is inside the main loop: it has looked for a cancellation, which only the loop does,
and has not ended. -/
def InMainLoop (p : Pool Call Call.Ans Ending Store) (i : Nat) : Prop :=
  (∃ runId, (i, Call.checkFlag runId) ∈ p.trace) ∧ ∀ r, p.threads[i]? ≠ some (.ret r)

/-- The calls that carry out a step: running a tool, and the placeholder for a model or memory. -/
def Call.isStepCall : Call → Bool
  | toolHandler _ _ _ => true
  | sleep => true
  | _ => false

/-- The stored lease is held by `workerId`, and unexpired at `now`. -/
def LeaseHeldBy (p : Pool Call Call.Ans Ending Store) (runId : UUID) (now : Time)
    (workerId : String) : Prop :=
  ∃ row expiresAt, p.shared.tables.find runId = some row ∧ row.leaseOwner = some workerId ∧
    row.leaseExpiresAt = some expiresAt ∧ now < expiresAt

/-- Of two workers `i` and `j`, not both are inside the loop, neither is while another worker holds
the lease, and not both have carried out steps. -/
structure LeaseExclusive (p : Pool Call Call.Ans Ending Store) (runId : UUID) (now : Time)
    (i j : Nat) (workerI workerJ : String) : Prop where
  notBoth : ¬(InMainLoop p i ∧ InMainLoop p j)
  heldByI : ∀ workerId, LeaseHeldBy p runId now workerId → InMainLoop p i → workerId = workerI
  heldByJ : ∀ workerId, LeaseHeldBy p runId now workerId → InMainLoop p j → workerId = workerJ
  stepsOnce : ¬((∃ o, (i, o) ∈ p.trace ∧ o.isStepCall = true) ∧
    ∃ o, (j, o) ∈ p.trace ∧ o.isStepCall = true)

/-- What the client at a position may call, if it is a worker: it may load the run. -/
def WorkerLoadsOnly (clients : List Client) (i : Nat) (o : Call) : Prop :=
  ∀ executor fuel, clients[i]? = some (.worker executor fuel) → ∃ runId, o = .runGet runId

/-- Workers only load runs. -/
theorem guar_workerLoadsOnly (runId : UUID) {clients : List Client} {i : Nat} {client : Client}
    (hclient : clients[i]? = some client) :
    (client.program runId).Guar (fun _ _ => True) (WorkerLoadsOnly clients i) fun _ => True := by
  cases client with
  | worker executor fuel =>
    refine Proc.guar_map ?_
    rw [RunExecutor.executeRun_on]
    exact ⟨fun _ _ _ => ⟨runId, rfl⟩, fun _ _ => trivial⟩
  | _ =>
    refine (Prog.guar_trivial _).mono (fun o _ executor fuel hworker => ?_) fun _ => id
    rw [hclient] at hworker
    cases hworker

/-- The store keeps what demands nothing of it. -/
theorem storeRules_respect_true (reading : SpentCostReading) (lazyLoad : Outside → Except PyError Unit)
    (P : Nat → Call → Prop) : (storeRules reading lazyLoad).Respect (fun _ => True) (fun _ _ => True) P :=
  ⟨fun _ _ _ _ _ _ => ⟨trivial, trivial⟩, fun _ _ _ => trivial⟩

/-- Two workers among any clients of a run, at any moment of any schedule: neither is in its main loop while
the other holds the lease. Neither is ever in it, since `execute_run` raises before. -/
theorem workers_leaseExclusive (reading : SpentCostReading) (lazyLoad : Outside → Except PyError Unit)
    (runId : UUID) (clients : List Client) (store : Store) (schedule : List (Act Outside FlagExpiry))
    (now : Time) {i j : Nat} {executorI executorJ : RunExecutor} {fuelI fuelJ : Nat}
    (hi : clients[i]? = some (.worker executorI fuelI))
    (hj : clients[j]? = some (.worker executorJ fuelJ)) :
    LeaseExclusive ((clientPool runId clients store).run (storeRules reading lazyLoad) schedule) runId now i j
      executorI.workerId executorJ.workerId := by
  have hstart : (clientPool runId clients store).Guaranteed (fun _ => True) (fun _ _ => True)
      (WorkerLoadsOnly clients) (fun _ _ => True) :=
    clientPool_guaranteed trivial fun _ _ hclient => guar_workerLoadsOnly runId hclient
  have htrace := (hstart.run (storeRules_respect_true reading lazyLoad _) schedule).trace
  set p := (clientPool runId clients store).run (storeRules reading lazyLoad) schedule
  have houtside {k : Nat} {executor : RunExecutor} {fuel : Nat}
      (hk : clients[k]? = some (.worker executor fuel)) : ¬InMainLoop p k := by
    rintro ⟨⟨id, hcall⟩, -⟩
    obtain ⟨_, h⟩ := htrace _ hcall executor fuel hk
    cases h
  refine ⟨fun h => houtside hi h.1, fun _ _ h => absurd h (houtside hi),
    fun _ _ h => absurd h (houtside hj), ?_⟩
  rintro ⟨⟨o, ho, hstep⟩, -⟩
  obtain ⟨_, rfl⟩ := htrace _ ho executorI fuelI hi
  cases hstep

/-- Two workers that both execute a queued run. -/
theorem workers_leaseExclusive_sample :
    let a : RunExecutor := ⟨"a", fun _ _ => none⟩
    let b : RunExecutor := ⟨"b", fun _ _ => none⟩
    LeaseExclusive ((clientPool ⟨1⟩ [.worker a 3, .worker b 3]
      (Store.sample (RunRow.sample .queued))).run (storeRules .asInt loadsSteps)
        [quietStep 0, quietStep 1, quietStep 0]) ⟨1⟩ 0 0 1 a.workerId b.workerId := by
  intro a b
  have ha : [Client.worker a 3, Client.worker b 3][0]? = some (.worker a 3) := rfl
  have hb : [Client.worker a 3, Client.worker b 3][1]? = some (.worker b 3) := rfl
  exact workers_leaseExclusive .asInt loadsSteps ⟨1⟩ _ _ _ 0 ha hb

end AgentRuntime
