import AgentRuntime.Interaction.Protocol
import AgentRuntime.UseCases.RunSession

/-!
# Runs created with one idempotency key

Concurrent calls of `RunUseCases.create_run` for one tenant and key, each in a session of its own. A call
looks the key up and then inserts its run, by two statements: if two calls look the key up before either
inserts, the unique constraint refuses the second, and nothing handles that. If no call that misses the
key looks it up between those two statements of another, every call returns the one run
(`createRun_returns`). That at most one is stored holds in every schedule (`length_keyed_run`). A call
alone is the use case in a session (`createRun_exec`).
-/

namespace AgentRuntime

open Interaction

namespace RunCreation

/-- What a call of `create_run` awaits of its repository, and what it draws for a new run. -/
inductive Statement where
  | getByIdempotencyKey (tenantId : UUID) (key : String)
  | newRun
  | create (run : Run)

/-- What a statement is answered by. -/
@[reducible] def Statement.Ans : Statement → Type
  | .getByIdempotencyKey _ _ => Except PyError (Option Run)
  | .newRun => Drawn
  | .create _ => Except PyError Run

/-- A lookup changes nothing. -/
theorem getByIdempotencyKey_on_state (tenantId : UUID) (key : String) (tables : RunTables) :
    ((RunRepository.getByIdempotencyKey .asInt tenantId key).on tables).2 = tables := by
  rw [RunRepository.getByIdempotencyKey, Method.on_bind, Method.on_get]
  dsimp only
  split
  · rfl
  · simp

/-- What a call is given besides its tenant and key. `maxCostMicrounits` is
`int(max_cost_usd * 1_000_000)`. -/
structure Given where
  agentVersionId : UUID
  inputData : Dict
  maxSteps : Int := 100
  maxCostMicrounits : Int := 10000000

/-- What the constructors of `Money` and `Run` accept. -/
def Given.Valid (self : Given) : Prop := 0 < self.maxSteps ∧ 0 < self.maxCostMicrounits

variable (tenantId : UUID) (key : String)

/-- The arguments of the constructor of `Run`. -/
def Given.run (self : Given) (drawn : Drawn) (maxCost : Money) : Run :=
  { id := drawn.id, createdAt := drawn.now, updatedAt := drawn.now, tenantId,
    agentVersionId := self.agentVersionId, inputData := self.inputData, idempotencyKey := key,
    maxSteps := self.maxSteps, maxCost }

/-- Create a new run, or return the one with the same idempotency key. -/
def createRun (given : Given) : Proc Statement Statement.Ans PyError Unit Run := do
  match ← Proc.tryCall (.getByIdempotencyKey tenantId key) id with
  | some existing => return existing
  | none =>
    let maxCost ← Proc.ofExcept (Money.ofInt given.maxCostMicrounits)
    let drawn ← Proc.call .newRun
    let run ← Proc.ofExcept (given.run tenantId key drawn maxCost).postInit
    Proc.tryCall (.create run) id

/-- What is open about a statement: whether the database refuses it, what is drawn, what the access to the
steps of the new row does, and whether the session is committed. -/
structure Outcome where
  drawn : Drawn := ⟨⟨1⟩, 0⟩
  refuses : Option PyError := none
  lazyLoad : Except PyError Unit := .ok ()
  commits : Bool := true

/-- The tables, with the calls that found no run and have not inserted theirs. -/
structure CreationLedger where
  tables : RunTables
  creating : List Nat := []

variable {tenantId : UUID} {key : String}

/-- The answers of the database. The row that is inserted is locked until its session ends, so the insert
and the end of the session are one action; a session that raises is rolled back. -/
def statementAnswer (outcome : Outcome) (client : Nat) :
    (o : Statement) → CreationLedger → o.Ans × CreationLedger
  | .getByIdempotencyKey tenantId key, ledger =>
    match outcome.refuses with
    | some e => (.error e, ledger)
    | none =>
      match ((RunRepository.getByIdempotencyKey .asInt tenantId key).on ledger.tables).1 with
      | .ok none => (.ok none, { ledger with creating := client :: ledger.creating })
      | result => (result, ledger)
  | .newRun, ledger => (outcome.drawn, ledger)
  | .create run, ledger =>
    let ledger' := { ledger with creating := ledger.creating.erase client }
    match outcome.refuses with
    | some e => (.error e, ledger')
    | none =>
      match (RunRepository.create .asInt outcome.lazyLoad run).on ledger.tables with
      | (.ok created, tables) =>
        (.ok created, if outcome.commits then { ledger' with tables } else ledger')
      | (.error e, _) => (.error e, ledger')

/-- The rules of the database, which nobody else changes. -/
def creationRules : Rules Statement Statement.Ans CreationLedger Outcome Empty where
  answer := statementAnswer
  outside := nofun

/-- A call alone is that of the use case in a session. -/
theorem createRun_exec (tenantId : UUID) (key : String) (given : Given) (lazyLoad : Except PyError Unit)
    (drawn : Drawn) (all : Tables) :
    (((createRun tenantId key given).on ()).exec (statementAnswer { drawn, lazyLoad } 0)
        { tables := all.runTables }).result =
      some (((RunUseCases.createRun lazyLoad drawn tenantId given.agentVersionId given.inputData key
        given.maxSteps given.maxCostMicrounits).on { committed := all }).1, ()) := by
  have hget : (RunRepository.getByIdempotencyKey .asInt tenantId key).on all.runTables =
      (((RunRepository.getByIdempotencyKey .asInt tenantId key).on all.runTables).1, all.runTables) :=
    Prod.ext rfl (getByIdempotencyKey_on_state tenantId key all.runTables)
  simp only [createRun, RunUseCases.createRun, Proc.on_bind, Proc.on_tryCall, Prog.call_bind,
    Prog.ret_bind, Prog.exec_call, statementAnswer, Method.on_bind, Session.on_inTransaction,
    Session.view, Option.getD_none, Tables.onRuns, Method.on_get, Method.on_set, Method.on_ofExcept]
  rw [hget]
  rcases ((RunRepository.getByIdempotencyKey .asInt tenantId key).on all.runTables).1 with
    e | _ | existing
  · rfl
  · simp only [id, Proc.thenOn_ok, Proc.on_bind, Proc.on_ofExcept, Method.on_bind, Method.on_ofExcept]
    cases Money.ofInt given.maxCostMicrounits with
    | error e => rfl
    | ok maxCost =>
      simp only [Proc.thenOn_ok, Proc.on_bind, Proc.on_call, Prog.call_bind, Prog.ret_bind,
        Prog.exec_call, statementAnswer, Proc.on_ofExcept, Given.run]
      cases Run.postInit _ with
      | error e => rfl
      | ok run =>
        simp only [Proc.thenOn_ok, Proc.on_tryCall, Prog.exec_call, Prog.exec_ret, id, statementAnswer,
          Session.on_inTransaction, Session.view_inTransaction, Method.on_bind, Method.on_get,
          Method.on_set, Method.on_ofExcept]
        rcases (RunRepository.create .asInt lazyLoad run).on all.runTables with ⟨e | created, tables⟩
        · rfl
        · rfl
  · rfl

/-- Calls of `create_run` for one tenant and key that have not started. -/
def creationPool (tenantId : UUID) (key : String) (calls : List Given) (tables : RunTables) :
    Pool Statement Statement.Ans (Except PyError Run × Unit) CreationLedger where
  threads := calls.map fun given => (createRun tenantId key given).on ()
  shared := { tables }

/-! ## What the statements of a call do -/

/-- The rows of the tenant with the key. -/
def keyedRows (tenantId : UUID) (key : String) (tables : RunTables) : List RunRow :=
  tables.runs.filter fun row => row.tenantId = tenantId ∧ row.idempotencyKey = key

/-- What the repository loads for the key. -/
def loaded (tenantId : UUID) (key : String) (tables : RunTables) : Except PyError (Option Run) :=
  ((RunRepository.getByIdempotencyKey .asInt tenantId key).on tables).1

/-- An identifier that is of no run and of no step's run. -/
def Fresh (tables : RunTables) (runId : UUID) : Prop :=
  (∀ row ∈ tables.runs, row.id ≠ runId) ∧ ∀ step ∈ tables.steps, step.runId ≠ runId

instance (tables : RunTables) (runId : UUID) : Decidable (Fresh tables runId) :=
  inferInstanceAs (Decidable (_ ∧ _))

/-- A run as `create_run` constructs it. -/
structure Constructed (tenantId : UUID) (key : String) (run : Run) : Prop where
  tenantId : run.tenantId = tenantId
  idempotencyKey : run.idempotencyKey = key
  valid : run.Valid
  spentCost : run.spentCost = .money 0

variable {tables : RunTables} {run : Run}

/-- What is loaded for the key is decoded from the first row that has it. -/
theorem loaded_eq (tenantId : UUID) (key : String) (tables : RunTables) :
    loaded tenantId key tables = match keyedRows tenantId key tables with
      | [] => .ok none
      | row :: _ => (RunRepository.toEntity .asInt row (tables.stepsOf row.id)).map some := by
  rw [loaded, RunRepository.getByIdempotencyKey, Method.on_bind, Method.on_get, keyedRows]
  dsimp only
  rw [← List.head?_filter]
  cases tables.runs.filter fun row => row.tenantId = tenantId ∧ row.idempotencyKey = key with
  | nil => rfl
  | cons row rows => simp

/-- Nothing is loaded exactly if no row has the key. -/
theorem loaded_eq_ok_none : loaded tenantId key tables = .ok none ↔ keyedRows tenantId key tables = [] := by
  rw [loaded_eq]
  cases keyedRows tenantId key tables with
  | nil => simp
  | cons row rows =>
    cases hrow : RunRepository.toEntity .asInt row (tables.stepsOf row.id) <;>
      simp [hrow, Except.map]

/-- What an insert can do to the tables: nothing, or add a row whose key no other row has. -/
theorem create_on_tables (lazyLoad : Except PyError Unit) (run : Run) (tables : RunTables) :
    ((RunRepository.create .asInt lazyLoad run).on tables).2 = tables ∨
      ∃ row, keyedRows row.tenantId row.idempotencyKey tables = [] ∧
        ((RunRepository.create .asInt lazyLoad run).on tables).2 =
          { tables with runs := tables.runs ++ [row] } := by
  rw [RunRepository.create, Method.on_bind, Method.on_ofExcept]
  cases hrow : RunRepository.toModel run with
  | error e => exact .inl rfl
  | ok row =>
    simp only [Method.on_bind, Method.on_get, Method.on_ite, Method.on_throw, Method.on_modify,
      Method.on_ofExcept]
    split
    · exact .inl rfl
    · next hfree =>
      refine .inr ⟨row, ?_, by cases lazyLoad <;> rfl⟩
      simp only [List.any_eq_true, decide_eq_true_eq, not_exists, not_and, not_or] at hfree
      simp only [keyedRows, List.filter_eq_nil_iff, decide_eq_true_eq, not_and]
      exact fun old hold => (hfree old hold).2

/-- A run that is constructed has a row, from which it can be loaded. -/
theorem Constructed.toModel (h : Constructed tenantId key run) :
    ∃ row created, RunRepository.toModel run = .ok row ∧ row.id = run.id ∧ row.tenantId = tenantId ∧
      row.idempotencyKey = key ∧ RunRepository.toEntity .asInt row [] = .ok created := by
  obtain ⟨hkey, hsteps, -, hattempt⟩ := h.valid
  let row : RunRow :=
    { id := run.id, tenantId := run.tenantId, agentVersionId := run.agentVersionId,
      state := run.state, inputData := run.inputData, outputData := run.outputData,
      idempotencyKey := run.idempotencyKey, attempt := run.attempt, maxSteps := run.maxSteps,
      maxCostMicrounits := run.maxCost.microUnits, spentCostMicrounits := 0,
      leaseOwner := run.leaseOwner, leaseExpiresAt := run.leaseExpiresAt,
      cancelRequestedAt := run.cancelRequestedAt, createdAt := run.createdAt,
      updatedAt := run.updatedAt }
  have hrow : RunRepository.toModel run = .ok row := by
    rw [RunRepository.toModel, h.spentCost]
    rfl
  exact ⟨row, _, hrow, rfl, h.tenantId, h.idempotencyKey,
    RunRepository.toEntity_eq_ok.2 ⟨.int 0, run.maxCost, rfl, Money.ofInt_eq_ok.2 rfl,
      ⟨hkey, hsteps, hattempt⟩, List.forall_mem_nil _, rfl⟩⟩

/-- A run that is constructed for a key without row is stored, and loaded from then on. -/
theorem create_on_of_fresh (h : Constructed tenantId key run) (hfresh : Fresh tables run.id)
    (hnone : loaded tenantId key tables = .ok none) :
    ∃ created tables', (RunRepository.create .asInt (.ok ()) run).on tables = (.ok created, tables') ∧
      loaded tenantId key tables' = .ok (some created) := by
  obtain ⟨row, created, hrow, hid, htenantId, hkey, hcreated⟩ := h.toModel
  have hkeyed : keyedRows tenantId key tables = [] := loaded_eq_ok_none.1 hnone
  have hfree : ¬tables.runs.any fun old => old.id = row.id ∨
      old.tenantId = row.tenantId ∧ old.idempotencyKey = row.idempotencyKey := by
    simp only [List.any_eq_true, decide_eq_true_eq, not_exists, not_and, not_or, hid, htenantId, hkey]
    simp only [keyedRows, List.filter_eq_nil_iff, decide_eq_true_eq, not_and] at hkeyed
    exact fun old hold => ⟨hfresh.1 old hold, hkeyed old hold⟩
  let tables' : RunTables := { tables with runs := tables.runs ++ [row] }
  have hsteps : tables'.stepsOf row.id = [] := by
    have hnoSteps : tables.steps.filter (fun step => step.runId = row.id) = [] := by
      simp only [List.filter_eq_nil_iff, decide_eq_true_eq, hid]
      exact hfresh.2
    simp only [RunTables.stepsOf, tables', hnoSteps, List.insertionSort_nil]
  have hkeyed' : keyedRows tenantId key tables' = [row] := by
    rw [keyedRows, List.filter_append, ← keyedRows, hkeyed]
    simp [htenantId, hkey]
  refine ⟨created, tables', ?_, ?_⟩
  · rw [RunRepository.create, Method.on_bind, Method.on_ofExcept, hrow]
    simp only [Method.on_bind, Method.on_get, if_neg hfree, Method.on_modify, Method.on_ofExcept]
    rw [hsteps, hcreated]
  · rw [loaded_eq, hkeyed']
    simp only [hsteps, hcreated]
    rfl

/-! ## At most one run is stored -/

/-- Every statement leaves the tables as they are, or adds a row whose key no other row has. -/
theorem statementAnswer_tables (outcome : Outcome) (client : Nat) (o : Statement)
    (ledger : CreationLedger) :
    (statementAnswer outcome client o ledger).2.tables = ledger.tables ∨
      ∃ row, keyedRows row.tenantId row.idempotencyKey ledger.tables = [] ∧
        (statementAnswer outcome client o ledger).2.tables =
          { ledger.tables with runs := ledger.tables.runs ++ [row] } := by
  cases o with
  | getByIdempotencyKey tenantId key =>
    refine .inl ?_
    simp only [statementAnswer]
    split
    · rfl
    · split
      · rfl
      · rfl
  | newRun => exact .inl rfl
  | create run =>
    have hcreate := create_on_tables outcome.lazyLoad run ledger.tables
    simp only [statementAnswer]
    split
    · exact .inl rfl
    · split
      · next created tables hon =>
        rw [hon] at hcreate
        cases outcome.commits with
        | true => exact hcreate
        | false => exact .inl rfl
      · exact .inl rfl

/-- In every schedule at most one run of the tenant with the key is stored. -/
theorem length_keyed_run {calls : List Given} (htables : (keyedRows tenantId key tables).length ≤ 1)
    (schedule : List (Act Outcome Empty)) :
    (keyedRows tenantId key
      ((creationPool tenantId key calls tables).run creationRules schedule).shared.tables).length ≤ 1 := by
  let pool := creationPool tenantId key calls tables
  refine Pool.run_induction (p := pool)
    (I := fun p => (keyedRows tenantId key p.shared.tables).length ≤ 1) (fun p a hp => ?_) htables schedule
  rcases p.step_cases creationRules a with hstep | ⟨e, -, -⟩ | ⟨i, outcome, o, k, -, -, hstep⟩
  · rwa [hstep]
  · exact e.elim
  · rw [hstep]
    rcases statementAnswer_tables outcome i o p.shared with hsame | ⟨row, hfree, hadded⟩
    · exact hsame ▸ hp
    · have hrows : keyedRows tenantId key (creationRules.answer outcome i o p.shared).2.tables =
          keyedRows tenantId key p.shared.tables ++ keyedRows tenantId key { runs := [row] } := by
        rw [keyedRows, show (creationRules.answer outcome i o p.shared).2.tables = _ from hadded]
        exact List.filter_append ..
      rw [hrows, List.length_append]
      by_cases hrow : row.tenantId = tenantId ∧ row.idempotencyKey = key
      · obtain ⟨rfl, rfl⟩ := hrow
        rw [hfree, List.length_nil, Nat.zero_add]
        exact List.length_filter_le ..
      · simpa [keyedRows, hrow] using hp

/-! ## Every call returns it -/

/-- Where a call is: before its lookup, before it constructs its run and before it inserts it, and when it
returns. -/
inductive CreationPhase where
  | start
  | missed
  | constructed
  | done (run : Run)

/-- A call has found no run and has not inserted its own. -/
def CreationPhase.Creates : CreationPhase → Prop
  | .missed | .constructed => True
  | .start | .done _ => False

/-- A call that is about to insert its run is not done. -/
theorem CreationPhase.Creates.ne_done {phase : CreationPhase} (h : phase.Creates) (run : Run) :
    phase ≠ .done run := by
  rintro rfl
  exact h

/-- A statement did not raise. -/
def Succeeds : (o : Statement) → o.Ans → Prop
  | .getByIdempotencyKey _ _, answer => answer.toBool = true
  | .newRun, _ => True
  | .create _, answer => answer.toBool = true

/-- The call after its lookup. -/
def CreationPhase.ofLookup : Except PyError (Option Run) → CreationPhase
  | .ok (some run) => .done run
  | .ok none => .missed
  | .error _ => .start

/-- The call after its insert. -/
def CreationPhase.ofInsert : Except PyError Run → CreationPhase
  | .ok run => .done run
  | .error _ => .constructed

/-- A call returns the run that it finds, or the one that it constructs and inserts. -/
def creationProtocol (tenantId : UUID) (key : String) :
    Protocol Statement Statement.Ans (Except PyError Run × Unit) CreationPhase where
  may
    | .start, .getByIdempotencyKey tenantId' key' => tenantId' = tenantId ∧ key' = key
    | .missed, .newRun => True
    | .constructed, .create run => Constructed tenantId key run
    | _, _ => False
  next
    | .start, .getByIdempotencyKey _ _, answer => .ofLookup answer
    | .missed, .newRun, _ => .constructed
    | .constructed, .create _, answer => .ofInsert answer
    | phase, _, _ => phase
  returns
    | .done run, result => result.1 = .ok run
    | _, _ => False

/-- Every call with valid arguments follows the protocol. -/
theorem follows_createRun (hkey : key ≠ "") {given : Given} (hgiven : given.Valid) :
    ((createRun tenantId key given).on ()).Follows Succeeds (creationProtocol tenantId key) .start := by
  simp only [createRun, Proc.on_bind, Proc.on_tryCall, Prog.call_bind, Prog.ret_bind]
  refine ⟨⟨rfl, rfl⟩, fun answer hanswer => ?_⟩
  cases answer with
  | error e => cases hanswer
  | ok found =>
    cases found with
    | some existing => exact rfl
    | none =>
      have hmaxCost : Money.ofInt given.maxCostMicrounits = .ok ⟨given.maxCostMicrounits.toNat⟩ :=
        Money.ofInt_eq_ok.2 (by have := hgiven.2; simp; omega)
      simp only [id, Proc.thenOn_ok, Proc.on_bind, Proc.on_ofExcept, hmaxCost, Prog.ret_bind,
        Proc.on_call, Prog.call_bind]
      refine ⟨trivial, fun drawn _ => ?_⟩
      have hvalid : (given.run tenantId key drawn ⟨given.maxCostMicrounits.toNat⟩).Valid := by
        refine ⟨hkey, hgiven.1, ?_, Int.le_refl 0⟩
        have := hgiven.2
        simp only [Given.run]
        omega
      have hrun := Run.postInit_eq_ok.2 ⟨hvalid, rfl⟩
      simp only [hrun, Proc.thenOn_ok, Proc.on_tryCall]
      refine ⟨⟨rfl, rfl, hvalid, rfl⟩, fun answer hanswer => ?_⟩
      cases answer with
      | error e => cases hanswer
      | ok run => exact rfl

/-- The database does what a statement asks for, the steps of a new row can be loaded, what is inserted is
committed, and what is drawn for a run is new. -/
def Undisturbed (outcome : Outcome) (o : Statement) (ledger : CreationLedger) : Prop :=
  match o with
  | .getByIdempotencyKey _ _ => outcome.refuses = none
  | .newRun => True
  | .create run =>
    outcome.refuses = none ∧ outcome.lazyLoad.toBool = true ∧ outcome.commits = true ∧
      Fresh ledger.tables run.id

/-- A call that finds no run looks the key up while no other is about to insert one. -/
def FindsNoneAlone (o : Statement) (ledger : CreationLedger) : Prop :=
  match o with
  | .getByIdempotencyKey tenantId key => keyedRows tenantId key ledger.tables = [] → ledger.creating = []
  | .newRun | .create _ => True

instance (outcome : Outcome) (o : Statement) (ledger : CreationLedger) :
    Decidable (Undisturbed outcome o ledger) :=
  match o with
  | .getByIdempotencyKey _ _ => inferInstanceAs (Decidable (outcome.refuses = none))
  | .newRun => inferInstanceAs (Decidable True)
  | .create run =>
    inferInstanceAs (Decidable (outcome.refuses = none ∧ outcome.lazyLoad.toBool = true ∧
      outcome.commits = true ∧ Fresh ledger.tables run.id))

instance (o : Statement) (ledger : CreationLedger) : Decidable (FindsNoneAlone o ledger) :=
  match o with
  | .getByIdempotencyKey tenantId key =>
    inferInstanceAs (Decidable (keyedRows tenantId key ledger.tables = [] → ledger.creating = []))
  | .newRun | .create _ => inferInstanceAs (Decidable True)

/-- The calls that are done have the run that is loaded for the key, and at most one call has found no run
and not inserted its own, while there is none. -/
structure OneRun (tenantId : UUID) (key : String) (phase : Nat → CreationPhase)
    (ledger : CreationLedger) : Prop where
  loads : (loaded tenantId key ledger.tables).toBool = true
  done : ∀ i run, phase i = .done run → loaded tenantId key ledger.tables = .ok (some run)
  creates : (∀ i, ¬(phase i).Creates) ∧ ledger.creating = [] ∨
    ∃ i, (phase i).Creates ∧ (∀ j, j ≠ i → ¬(phase j).Creates) ∧ ledger.creating = [i] ∧
      loaded tenantId key ledger.tables = .ok none

namespace OneRun

variable {phase : Nat → CreationPhase} {ledger : CreationLedger} {i : Nat} {outcome : Outcome}

/-- A call that creates is the only one, and there is no run yet. -/
theorem alone (h : OneRun tenantId key phase ledger) (hi : (phase i).Creates) :
    (∀ j, j ≠ i → ¬(phase j).Creates) ∧ ledger.creating = [i] ∧
      loaded tenantId key ledger.tables = .ok none := by
  rcases h.creates with ⟨hnone, -⟩ | ⟨j, -, hothers, hcreating, hloaded⟩
  · exact absurd hi (hnone i)
  · obtain rfl : i = j := Classical.byContradiction fun hne => hothers i hne hi
    exact ⟨hothers, hcreating, hloaded⟩

/-- A call that is done does not create. -/
theorem not_creates_update {next : CreationPhase} (hnext : ¬next.Creates)
    (h : ∀ j, j ≠ i → ¬(phase j).Creates) (j : Nat) : ¬(Function.update phase i next j).Creates := by
  by_cases hj : j = i
  · rw [hj, Function.update_self]
    exact hnext
  · rw [Function.update_of_ne hj]
    exact h j hj

/-- What holds of the runs of calls that were done, and of the one that moves on. -/
theorem done_update {next : CreationPhase} {P : Run → Prop} (hnext : ∀ run, next = .done run → P run)
    (h : ∀ j run, phase j = .done run → P run) :
    ∀ j run, Function.update phase i next j = .done run → P run := by
  intro j run hj
  by_cases hij : j = i
  · rw [hij, Function.update_self] at hj
    exact hnext run hj
  · rw [Function.update_of_ne hij] at hj
    exact h j run hj

/-- A call that goes on to insert its run is not among those that are done, so what holds of these
still does. -/
theorem done_of_creates {next : CreationPhase} {P : Run → Prop} (hnext : next.Creates)
    (h : ∀ j run, phase j = .done run → P run) :
    ∀ j run, Function.update phase i next j = .done run → P run :=
  done_update (fun run hrun => absurd hrun (hnext.ne_done run)) h

/-- A call looks the key up. -/
theorem looksUp (h : OneRun tenantId key phase ledger) (hanswers : outcome.refuses = none)
    (halone : FindsNoneAlone (.getByIdempotencyKey tenantId key) ledger) :
    let r := statementAnswer outcome i (.getByIdempotencyKey tenantId key) ledger
    Succeeds (.getByIdempotencyKey tenantId key) r.1 ∧
      OneRun tenantId key (Function.update phase i
        ((creationProtocol tenantId key).next .start (.getByIdempotencyKey tenantId key) r.1)) r.2 := by
  have hloads := h.loads
  cases hloaded : loaded tenantId key ledger.tables with
  | error e =>
    rw [hloaded] at hloads
    cases hloads
  | ok found =>
    have hresult : ((RunRepository.getByIdempotencyKey .asInt tenantId key).on ledger.tables).1 =
      .ok found := hloaded
    simp only [statementAnswer, hanswers, hresult]
    cases found with
    | some run =>
      refine ⟨rfl, h.loads, ?_, .inl ⟨?_, ?_⟩⟩
      · refine done_update (fun run' hrun => ?_) h.done
        cases hrun
        exact hloaded
      · refine not_creates_update id fun j _ hj => ?_
        cases hloaded.symm.trans (h.alone hj).2.2
      · rcases h.creates with ⟨-, hcreating⟩ | ⟨j, hj, -⟩
        · exact hcreating
        · cases hloaded.symm.trans (h.alone hj).2.2
    | none =>
      have hcreating : ledger.creating = [] := halone (loaded_eq_ok_none.1 hloaded)
      refine ⟨rfl, h.loads, done_of_creates trivial h.done, .inr ⟨i, ?_, fun j hj => ?_, ?_, hloaded⟩⟩
      · rw [Function.update_self]
        trivial
      · rw [Function.update_of_ne hj]
        intro hcreates
        cases hcreating.symm.trans (h.alone hcreates).2.1
      · rw [hcreating]

/-- A call that found no run constructs its own. -/
theorem constructs (h : OneRun tenantId key phase ledger) (hi : phase i = .missed) :
    OneRun tenantId key (Function.update phase i .constructed) ledger := by
  obtain ⟨hothers, hcreating, hloaded⟩ := h.alone (i := i) (by rw [hi]; trivial)
  refine ⟨h.loads, done_of_creates trivial h.done, .inr ⟨i, ?_, fun j hj => ?_, hcreating, hloaded⟩⟩
  · rw [Function.update_self]
    trivial
  · rw [Function.update_of_ne hj]
    exact hothers j hj

/-- It inserts it. -/
theorem inserts (h : OneRun tenantId key phase ledger) (hi : phase i = .constructed)
    (hrun : Constructed tenantId key run) (hgoes : Undisturbed outcome (.create run) ledger) :
    let r := statementAnswer outcome i (.create run) ledger
    Succeeds (.create run) r.1 ∧
      OneRun tenantId key (Function.update phase i
        ((creationProtocol tenantId key).next .constructed (.create run) r.1)) r.2 := by
  obtain ⟨hothers, hcreating, hloaded⟩ := h.alone (i := i) (by rw [hi]; trivial)
  obtain ⟨hanswers, hload, hcommits, hfresh⟩ := hgoes
  obtain ⟨created, tables', hon, hloaded'⟩ := create_on_of_fresh hrun hfresh hloaded
  cases hlazyLoad : outcome.lazyLoad with
  | error e =>
    rw [hlazyLoad] at hload
    cases hload
  | ok u =>
    simp only [statementAnswer, hanswers, hon, hlazyLoad, hcommits, if_true]
    refine ⟨rfl, by rw [hloaded']; rfl, ?_, .inl ⟨not_creates_update id hothers, ?_⟩⟩
    · refine done_update (fun run' hrun' => ?_) fun j run' hj => ?_
      · cases hrun'
        exact hloaded'
      · cases hloaded.symm.trans (h.done j run' hj)
    · simp [hcreating]

end OneRun

/-- With a database that is not disturbed, and lookups that find nothing made alone, every statement keeps
`OneRun`. -/
theorem creationRules_advance (tenantId : UUID) (key : String) :
    creationRules.AdvanceIf Succeeds (fun _ => creationProtocol tenantId key)
      (fun phase ledger => OneRun tenantId key phase ledger)
      fun outcome _ o ledger => Undisturbed outcome o ledger ∧ FindsNoneAlone o ledger where
  answer outcome i o ledger phase h hmay hcondition := by
    cases hi : phase i with
    | start =>
      rw [hi] at hmay
      cases o with
      | getByIdempotencyKey tenantId' key' =>
        obtain ⟨rfl, rfl⟩ := hmay
        exact h.looksUp hcondition.1 hcondition.2
      | newRun | create _ => exact hmay.elim
    | missed =>
      rw [hi] at hmay
      cases o with
      | newRun => exact ⟨trivial, h.constructs hi⟩
      | getByIdempotencyKey _ _ | create _ => exact hmay.elim
    | constructed =>
      rw [hi] at hmay
      cases o with
      | create run => exact h.inserts hi hmay hcondition.1
      | getByIdempotencyKey _ _ | newRun => exact hmay.elim
    | done run =>
      rw [hi] at hmay
      exact hmay.elim
  outside e := e.elim

/-- In every schedule where a call that finds no run looks the key up while no other is about to insert
one, at most one run with the key is stored, and every call returns it. -/
theorem createRun_returns {tenantId : UUID} {key : String} (hkey : key ≠ "") {calls : List Given}
    (hvalid : ∀ given ∈ calls, given.Valid) {tables : RunTables}
    (hunique : (keyedRows tenantId key tables).length ≤ 1)
    (hloads : (loaded tenantId key tables).toBool = true) {schedule : List (Act Outcome Empty)}
    (hundisturbed : Pool.Meets creationRules
      (Pool.ActMeets fun outcome _ o ledger => Undisturbed outcome o ledger)
      (creationPool tenantId key calls tables) schedule)
    (halone : Pool.Meets creationRules (Pool.ActMeets fun _ _ o ledger => FindsNoneAlone o ledger)
      (creationPool tenantId key calls tables) schedule) :
    let after := (creationPool tenantId key calls tables).run creationRules schedule
    (keyedRows tenantId key after.shared.tables).length ≤ 1 ∧
      ∀ i result, after.ending i = some result → ∃ run, result.1 = .ok run ∧
        loaded tenantId key after.shared.tables = .ok (some run) := by
  intro after
  have hstart : (creationPool tenantId key calls tables).Following Succeeds
      (fun _ => creationProtocol tenantId key)
      (fun phase ledger => OneRun tenantId key phase ledger) fun _ => .start := by
    refine ⟨fun i q hq => ?_, hloads, fun i run hrun => ?_, .inl ⟨fun _ => id, rfl⟩⟩
    · rw [creationPool, List.getElem?_map] at hq
      obtain ⟨given, hgiven, rfl⟩ := Option.map_eq_some_iff.1 hq
      exact follows_createRun hkey (hvalid given (List.mem_of_getElem? hgiven))
    · cases hrun
  have hmeets := (hundisturbed.and halone).mono fun p a h => h.1.and h.2
  obtain ⟨phase, hrun⟩ := hstart.run_of_actMeets (creationRules_advance tenantId key) hmeets
  refine ⟨length_keyed_run hunique schedule, fun i result hi => ?_⟩
  have hreturns := hrun.threads i _ (Pool.ending_eq_some.1 hi)
  cases hphase : phase i with
  | done run =>
    rw [hphase] at hreturns
    exact ⟨run, hreturns, hrun.shared.done i run hphase⟩
  | start | missed | constructed =>
    rw [hphase] at hreturns
    exact hreturns.elim

/-- Two calls with one key, and what each draws. -/
def sampleCalls : List Given :=
  [{ agentVersionId := ⟨4⟩, inputData := [] }, { agentVersionId := ⟨4⟩, inputData := [] }]

/-- The limits of both calls are positive. -/
theorem sampleCalls_valid : ∀ given ∈ sampleCalls, given.Valid := by
  intro given hgiven
  obtain rfl : given = { agentVersionId := ⟨4⟩, inputData := [] } := by simpa [sampleCalls] using hgiven
  exact ⟨by decide, by decide⟩

/-- The next statement of a call. -/
def next (i : Nat) : Act Outcome Empty := .thread i { drawn := ⟨⟨i⟩, 0⟩ }

/-- Two calls for one key, the second after the first has stored its run: both return that run. -/
theorem createRun_returns_sample :
    let after := (creationPool ⟨3⟩ "k" sampleCalls {}).run creationRules [next 0, next 0, next 0, next 1]
    (keyedRows ⟨3⟩ "k" after.shared.tables).length ≤ 1 ∧
      ∀ i result, after.ending i = some result → ∃ run, result.1 = .ok run ∧
        loaded ⟨3⟩ "k" after.shared.tables = .ok (some run) :=
  createRun_returns (by decide) sampleCalls_valid (by decide) (by decide) (by decide +kernel)
    (by decide +kernel)

/-- Two calls look the key up before either inserts its run: the second to insert raises. -/
theorem not_createRun_returns : ¬∀ (tenantId : UUID) (key : String) (calls : List Given)
      (tables : RunTables) (schedule : List (Act Outcome Empty)),
    key ≠ "" → (∀ given ∈ calls, given.Valid) → (keyedRows tenantId key tables).length ≤ 1 →
    (loaded tenantId key tables).toBool = true →
    Pool.Meets creationRules (Pool.ActMeets fun outcome _ o ledger => Undisturbed outcome o ledger)
      (creationPool tenantId key calls tables) schedule →
    ∀ i result,
      ((creationPool tenantId key calls tables).run creationRules schedule).ending i = some result →
        ∃ run, result.1 = .ok run := by
  intro h
  let schedule := [next 0, next 1, next 0, next 0, next 1, next 1]
  have hraises : (((creationPool ⟨3⟩ "k" sampleCalls {}).run creationRules schedule).ending 1).map
      (fun result => result.1.toBool) = some false := by decide +kernel
  obtain ⟨result, hending, hresult⟩ := Option.map_eq_some_iff.1 hraises
  obtain ⟨run, hok⟩ := h ⟨3⟩ "k" sampleCalls {} schedule (by decide) sampleCalls_valid (by decide)
    (by decide) (by decide +kernel) 1 result hending
  rw [hok] at hresult
  cases hresult

end RunCreation

end AgentRuntime
