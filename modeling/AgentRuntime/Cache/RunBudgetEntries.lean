import AgentRuntime.Cache.BudgetCache
import AgentRuntime.Interaction.Protocol

/-!
# Cached run budgets

The entry of a run in the budget cache, under any calls that write it, in any order of their commands, with
any time between two commands. `RunBudgetEntry.held` is what the entry is to hold: the budget that was set
last, with the increments since then, as long as the entry has been there. `get_run_budget` returns that or
nothing exactly as long as no increment makes an entry of its own (`wholeOrAbsent_iff`): `HINCRBY` does so
where the entry has expired or was deleted.
-/

namespace AgentRuntime

open Interaction BudgetCache

open Redis (Hash Numeral Fits)

/-- A call of a method that writes the budget of a run. -/
inductive RunBudgetWriter where
  | setRunBudget (budget : CachedRunBudget)
  | incrementRunSpent (amountMicrounits : Int)
  | incrementRunSteps
  | invalidateRun

namespace RunBudgetWriter

def method (cache : BudgetCache) (runId : String) : RunBudgetWriter → BudgetCoroutine Bool
  | setRunBudget budget => cache.setRunBudget runId budget
  | incrementRunSpent amountMicrounits => cache.incrementRunSpent runId amountMicrounits
  | incrementRunSteps => cache.incrementRunSteps runId
  | invalidateRun => BudgetCache.invalidateRun runId

/-- What the call is for. -/
def effect : RunBudgetWriter → Option CachedRunBudget → Option CachedRunBudget
  | setRunBudget budget, _ => some budget
  | incrementRunSpent amountMicrounits, held => held.map fun budget =>
    { budget with spentCostMicrounits := budget.spentCostMicrounits + amountMicrounits }
  | incrementRunSteps, held => held.map fun budget =>
    { budget with currentSteps := budget.currentSteps + 1 }
  | invalidateRun, _ => none

/-- The command that it writes with. -/
def command (runId : String) : RunBudgetWriter → BudgetCacheCall
  | setRunBudget budget => .hset (runBudgetKey runId) (runMapping budget)
  | incrementRunSpent amountMicrounits => .hincrby (runBudgetKey runId) "spent" amountMicrounits
  | incrementRunSteps => .hincrby (runBudgetKey runId) "current_steps" 1
  | invalidateRun => .delete (runBudgetKey runId)

/-- It writes, and sets the expiry. -/
def MayCall (runId : String) (writer : RunBudgetWriter) (o : BudgetCacheCall) : Prop :=
  o = writer.command runId ∨ ∃ seconds, o = .expire (runBudgetKey runId) seconds

end RunBudgetWriter

/-- The command writes, and was carried out. -/
def BudgetCacheCall.written : (o : BudgetCacheCall) → o.Ans → Bool
  | .hset _ _, .ok _ | .hincrby _ _ _, .ok _ | .delete _, .ok _ => true
  | _, _ => false

/-- Redis, and what the entry of the run is to hold. -/
structure RunBudgetEntry where
  redis : BudgetRedis
  held : Option CachedRunBudget := none

namespace RunBudgetEntry

/-- An entry that is not there holds nothing. -/
def observe (runId : String) (redis : BudgetRedis) (held : Option CachedRunBudget) : RunBudgetEntry :=
  { redis, held := if (redis.liveEntry (runBudgetKey runId)).isSome then held else none }

/-- Redis has answered a command of a method, which has its effect if it wrote. -/
def after (runId : String) (effect : Option CachedRunBudget → Option CachedRunBudget)
    (o : BudgetCacheCall) (r : o.Ans × BudgetRedis) (s : RunBudgetEntry) : RunBudgetEntry :=
  observe runId r.2 (if o.written r.1 then effect s.held else s.held)

end RunBudgetEntry

/-- The commands are answered by Redis, unless the connection raises, and those that write have the effect
of their method; outside only time passes. -/
def runBudgetRules (runId : String) (writers : List RunBudgetWriter) :
    Rules BudgetCacheCall BudgetCacheCall.Ans RunBudgetEntry (Option PyError) Nat where
  answer fails i o s :=
    let r := s.redis.reply fails o
    (r.1, s.after runId ((writers[i]?.map RunBudgetWriter.effect).getD id) o r)
  outside ms s := .observe runId (s.redis.elapse ms) s.held

/-- The calls, on what Redis stores. -/
def writerPool (cache : BudgetCache) (runId : String) (writers : List RunBudgetWriter)
    (redis : BudgetRedis) : Pool BudgetCacheCall BudgetCacheCall.Ans (Except PyError Bool × Unit)
      RunBudgetEntry where
  threads := writers.map fun writer => (writer.method cache runId).on ()
  shared := { redis }

/-- `get_run_budget` returns nothing, or what the entry is to hold. -/
def WholeOrAbsent (runId : String) (s : RunBudgetEntry) : Prop :=
  ∀ fails, ∃ read, Proc.Ends (fun o redis => redis.reply fails o) s.redis (getRunBudget runId)
    (.ok read) s.redis ∧ ∀ budget ∈ read, s.held = some budget

/-- An increment that Redis carries out finds the entry. -/
def FindsEntry (fails : Option PyError) (_caller : Nat) : BudgetCacheCall → RunBudgetEntry → Prop
  | .hincrby key _ amount, s => fails = none → Fits amount → (s.redis.liveEntry key).isSome
  | _, _ => True

/-! ## What is read -/

namespace BudgetCache

/-- What `get_run_budget` makes of the hash. -/
def readOf (data : Hash) : Option CachedRunBudget :=
  if data.entries.isEmpty then none else (runBudgetOf data).toOption

/-- Reading a budget is one command. A failure, an empty hash and fields that are not numbers all
give nothing. -/
theorem on_getRunBudget (runId : String) : (getRunBudget runId).on () =
    .call (.hgetall (runBudgetKey runId)) fun r => .ret (.ok (r.toOption.bind readOf), ()) := by
  simp only [getRunBudget, Proc.on_tryCatch, Proc.on_bind, Proc.on_tryCall, Prog.call_bind]
  refine congrArg (Prog.call _) (funext fun r => ?_)
  cases r with
  | error e => rfl
  | ok data =>
    by_cases hdata : data.entries = []
    · simp [hdata, readOf, Except.toOption]
    · cases hbudget : runBudgetOf data <;> simp [hdata, readOf, Except.toOption, hbudget]

/-- A hash reads as a budget exactly if each of its five fields, or the default for it, reads as
the number. -/
theorem runBudgetOf_eq_ok {data : Hash} {budget : CachedRunBudget} : runBudgetOf data = .ok budget ↔
    intField data "max_cost" 0 = .ok budget.maxCostMicrounits ∧
    intField data "spent" 0 = .ok budget.spentCostMicrounits ∧
    intField data "max_steps" 0 = .ok budget.maxSteps ∧
    intField data "current_steps" 0 = .ok budget.currentSteps ∧
    intField data "timeout" 90 = .ok budget.timeoutSeconds := by
  simp only [runBudgetOf, bind_eq_ok]
  constructor
  · rintro ⟨maxCost, hmaxCost, spent, hspent, maxSteps, hmaxSteps, steps, hsteps, timeout, htimeout, h⟩
    cases h
    exact ⟨hmaxCost, hspent, hmaxSteps, hsteps, htimeout⟩
  · rintro ⟨hmaxCost, hspent, hmaxSteps, hsteps, htimeout⟩
    exact ⟨_, hmaxCost, _, hspent, _, hmaxSteps, _, hsteps, _, htimeout, rfl⟩

/-- A field that was written as a number reads as that number. -/
@[simp] theorem intField_insert (data : Hash) (field : String) (n default : Int) :
    intField (data.insert field (.int n)) field default = .ok n := by
  rw [intField, AList.lookup_insert]
  rfl

/-- Writing a field changes the reading of no other. -/
theorem intField_insert_of_ne {field field' : String} (h : field' ≠ field) (data : Hash) (v : Numeral)
    (default : Int) : intField (data.insert field v) field' default = intField data field' default := by
  rw [intField, AList.lookup_insert_ne h, intField]

/-- A field that is missing reads as its default. -/
theorem intField_empty (field : String) (default : Int) : intField ∅ field default = .ok default := rfl

/-- The budget that was written is read. -/
theorem runBudgetOf_write (data : Hash) (budget : CachedRunBudget) :
    runBudgetOf (data.write (runMapping budget)) = .ok budget := by
  simp [runBudgetOf_eq_ok, Redis.Hash.write, runMapping, intField_insert_of_ne]

/-- The field of a hash is a count, which `current` reads and `put` replaces. -/
structure CountField (field : String) (current : CachedRunBudget → Int)
    (put : CachedRunBudget → Int → CachedRunBudget) : Prop where
  current : ∀ {data budget}, runBudgetOf data = .ok budget →
    intField data field 0 = .ok (current budget)
  put : ∀ {data budget} (n : Int), runBudgetOf data = .ok budget →
    runBudgetOf (data.insert field (.int n)) = .ok (put budget n)

/-- The spent cost is a count of its own. -/
theorem countField_spent : CountField "spent" CachedRunBudget.spentCostMicrounits
    fun budget n => { budget with spentCostMicrounits := n } where
  current h := (runBudgetOf_eq_ok.1 h).2.1
  put n h := by
    obtain ⟨hmaxCost, -, hmaxSteps, hsteps, htimeout⟩ := runBudgetOf_eq_ok.1 h
    simp [runBudgetOf_eq_ok, intField_insert_of_ne, hmaxCost, hmaxSteps, hsteps, htimeout]

/-- So is the number of steps. -/
theorem countField_currentSteps : CountField "current_steps" CachedRunBudget.currentSteps
    fun budget n => { budget with currentSteps := n } where
  current h := (runBudgetOf_eq_ok.1 h).2.2.2.1
  put n h := by
    obtain ⟨hmaxCost, hspent, hmaxSteps, -, htimeout⟩ := runBudgetOf_eq_ok.1 h
    simp [runBudgetOf_eq_ok, intField_insert_of_ne, hmaxCost, hspent, hmaxSteps, htimeout]

/-- A hash is read exactly if it has a field and reads as a budget. -/
theorem readOf_eq_some {data : Hash} {budget : CachedRunBudget} :
    readOf data = some budget ↔ data.entries.isEmpty = false ∧ runBudgetOf data = .ok budget := by
  unfold readOf
  split_ifs with hdata
  · simp [hdata]
  · cases runBudgetOf data <;> simp [hdata, Except.toOption]

/-- A hash that a field was written to is not empty. -/
theorem isEmpty_insert (data : Hash) (field : String) (v : Numeral) :
    (data.insert field v).entries.isEmpty = false := by
  rw [AList.entries_insert, List.isEmpty_cons]

/-- A hash of one count reads as a budget, whose limits were not set. -/
theorem exists_readOf_insert_empty {field : String} {current : CachedRunBudget → Int}
    {put : CachedRunBudget → Int → CachedRunBudget} (hfield : CountField field current put) (n : Int) :
    ∃ budget, readOf ((∅ : Hash).insert field (.int n)) = some budget := by
  have hempty : runBudgetOf ∅ = .ok ⟨0, 0, 0, 0, 90⟩ := by simp [runBudgetOf_eq_ok, intField_empty]
  exact ⟨_, readOf_eq_some.2 ⟨isEmpty_insert ∅ field _, hfield.put n hempty⟩⟩

end BudgetCache

/-- What the hash of the run reads as. -/
def BudgetRedis.runBudget (runId : String) (redis : BudgetRedis) : Option CachedRunBudget :=
  readOf (Redis.hgetall redis.clock (runBudgetKey runId) redis.store)

namespace BudgetRedis

variable {runId : String} {redis redis' : BudgetRedis}

/-- The budget of an entry that has not expired is what its hash reads as. -/
theorem runBudget_of_entry {entry : Redis.Entry Hash}
    (h : redis.liveEntry (runBudgetKey runId) = some entry) :
    redis.runBudget runId = readOf entry.value := by
  rw [runBudget, Redis.hgetall_of_lookup h]

/-- Without such an entry there is no budget. -/
theorem runBudget_of_none (h : redis.liveEntry (runBudgetKey runId) = none) :
    redis.runBudget runId = none := by
  rw [runBudget, Redis.hgetall_of_none h]
  rfl

/-- The method returns the budget, or nothing where Redis fails, and changes nothing. -/
theorem ends_getRunBudget (fails : Option PyError) : Proc.Ends (fun o redis => redis.reply fails o) redis
    (getRunBudget runId) (.ok (if fails = none then redis.runBudget runId else none)) redis := by
  unfold Proc.Ends
  rw [on_getRunBudget]
  cases fails <;> exact ⟨rfl, rfl⟩

end BudgetRedis

namespace RunBudgetEntry

variable {runId : String} {s s' : RunBudgetEntry}

/-- Every read returns nothing or what the entry is to hold exactly if that holds of the budget in Redis. -/
theorem wholeOrAbsent_iff : WholeOrAbsent runId s ↔
    ∀ budget, s.redis.runBudget runId = some budget → s.held = some budget := by
  constructor
  · intro h budget hbudget
    obtain ⟨read, hread, hheld⟩ := h none
    obtain ⟨hread, -⟩ := hread.unique (BudgetRedis.ends_getRunBudget none)
    cases hread
    exact hheld budget hbudget
  · intro h fails
    refine ⟨_, BudgetRedis.ends_getRunBudget fails, fun budget hbudget => ?_⟩
    split_ifs at hbudget
    · exact h budget hbudget
    · cases hbudget

/-- An entry that is there reads as a budget, and one that is not is to hold nothing. -/
structure Readable (runId : String) (s : RunBudgetEntry) : Prop where
  entry : (s.redis.liveEntry (runBudgetKey runId)).isSome → (s.redis.runBudget runId).isSome
  held : s.redis.liveEntry (runBudgetKey runId) = none → s.held = none

/-- How a command or time changes an entry, as long as no entry is made without limits. -/
inductive Moves (runId : String) (s s' : RunBudgetEntry) : Prop where
  | kept (hentry : (s'.redis.liveEntry (runBudgetKey runId)).isSome →
      (s.redis.liveEntry (runBudgetKey runId)).isSome)
    (hbudget : s'.redis.runBudget runId = s.redis.runBudget runId) (hheld : s'.held = s.held)
  | gone (hentry : s'.redis.liveEntry (runBudgetKey runId) = none) (hheld : s'.held = none)
  | set (budget : CachedRunBudget) (hbudget : s'.redis.runBudget runId = some budget)
    (hheld : s'.held = some budget)
  | incremented (f : CachedRunBudget → CachedRunBudget) (budget : CachedRunBudget)
    (hbudget : s.redis.runBudget runId = some budget)
    (hbudget' : s'.redis.runBudget runId = some (f budget)) (hheld : s'.held = s.held.map f)

/-- An entry is made by an increment. -/
def Made (runId : String) (s' : RunBudgetEntry) : Prop :=
  s'.held = none ∧ ∃ budget, s'.redis.runBudget runId = some budget

/-- A step that makes no entry without limits keeps the property. -/
theorem Moves.wholeOrAbsent (h : Moves runId s s') (hs : WholeOrAbsent runId s) :
    WholeOrAbsent runId s' := by
  rw [wholeOrAbsent_iff] at hs ⊢
  intro budget hread
  cases h with
  | kept _ hbudget hheld =>
    rw [hheld]
    exact hs budget (hbudget.symm.trans hread)
  | gone hentry _ =>
    rw [BudgetRedis.runBudget_of_none hentry] at hread
    cases hread
  | set budget' hbudget hheld => rw [hheld, ← hbudget, hread]
  | incremented f budget' hbudget hbudget' hheld =>
    rw [hheld, hs budget' hbudget, Option.map_some, ← hbudget', hread]

/-- An entry that an increment has made is read, although nothing was ever to be held. -/
theorem Made.not_wholeOrAbsent (h : Made runId s') : ¬WholeOrAbsent runId s' := by
  obtain ⟨hheld, budget, hbudget⟩ := h
  intro hwhole
  rw [wholeOrAbsent_iff.1 hwhole budget hbudget] at hheld
  cases hheld

/-- What is observed of an entry that is there. -/
theorem observe_of_isSome {redis : BudgetRedis} {held : Option CachedRunBudget}
    (h : (redis.liveEntry (runBudgetKey runId)).isSome) : observe runId redis held = ⟨redis, held⟩ := by
  rw [observe, if_pos h]

/-- Where the entry is gone, nothing is to be held. -/
theorem observe_of_none {redis : BudgetRedis} {held : Option CachedRunBudget}
    (h : redis.liveEntry (runBudgetKey runId) = none) : observe runId redis held = ⟨redis, none⟩ := by
  rw [observe, h]
  rfl

/-- An observed entry is readable, if it reads as a budget where it is there. -/
theorem readable_observe {redis : BudgetRedis} {held : Option CachedRunBudget}
    (h : (redis.liveEntry (runBudgetKey runId)).isSome → (redis.runBudget runId).isSome) :
    Readable runId (observe runId redis held) := by
  exact ⟨h, fun hentry => congrArg RunBudgetEntry.held (observe_of_none hentry)⟩

/-- What is to be held of a readable entry is not changed by looking at it. -/
theorem Readable.observe_self (h : Readable runId s) : observe runId s.redis s.held = s := by
  cases hentry : s.redis.liveEntry (runBudgetKey runId) with
  | none => rw [observe_of_none hentry, ← h.held hentry]
  | some entry => exact observe_of_isSome (by rw [hentry]; rfl)

/-- An entry that reads as before, or is not there. -/
theorem moves_observe {redis : BudgetRedis}
    (hentry : ∀ entry, redis.liveEntry (runBudgetKey runId) = some entry →
      ∃ entry', s.redis.liveEntry (runBudgetKey runId) = some entry' ∧ entry'.value = entry.value) :
    Moves runId s (observe runId redis s.held) := by
  cases hthere : redis.liveEntry (runBudgetKey runId) with
  | none =>
    rw [observe_of_none hthere]
    exact .gone hthere rfl
  | some entry =>
    obtain ⟨entry', hentry', hvalue⟩ := hentry entry hthere
    rw [observe_of_isSome (by rw [hthere]; rfl)]
    refine .kept (fun _ => by rw [hentry']; rfl) ?_ rfl
    rw [BudgetRedis.runBudget_of_entry hthere, BudgetRedis.runBudget_of_entry hentry', hvalue]

/-- Time only removes entries. -/
theorem moves_elapse (ms : Nat) : Moves runId s (observe runId (s.redis.elapse ms) s.held) :=
  moves_observe fun entry hentry => ⟨entry, BudgetRedis.liveEntry_elapse hentry, rfl⟩

/-- After such a step an entry that is there still reads as a budget. -/
theorem Moves.readable {redis : BudgetRedis} {held : Option CachedRunBudget}
    (h : Moves runId s (observe runId redis held)) (hs : Readable runId s) :
    Readable runId (observe runId redis held) := by
  refine readable_observe fun hthere => ?_
  cases h with
  | kept hentry hbudget _ =>
    have hread := hs.entry (hentry hthere)
    rwa [← hbudget] at hread
  | gone hentry _ =>
    have hnone : redis.liveEntry (runBudgetKey runId) = none := hentry
    rw [hnone] at hthere
    cases hthere
  | set budget hbudget _ => exact Option.isSome_iff_exists.2 ⟨_, hbudget⟩
  | incremented f budget _ hbudget' _ => exact Option.isSome_iff_exists.2 ⟨_, hbudget'⟩

/-- So does one that an increment has made. -/
theorem Made.readable {redis : BudgetRedis} {held : Option CachedRunBudget}
    (h : Made runId (observe runId redis held)) : Readable runId (observe runId redis held) :=
  readable_observe fun _ => Option.isSome_iff_exists.2 h.2

/-! ## The commands -/

/-- Nothing changes. -/
theorem Readable.moves_self (h : Readable runId s) : Moves runId s (observe runId s.redis s.held) := by
  rw [h.observe_self]
  exact .kept id rfl rfl

/-- `HSET` of all fields. -/
theorem moves_write (budget : CachedRunBudget) :
    Moves runId s (observe runId (s.redis.write (runBudgetKey runId) (runMapping budget)) (some budget)) := by
  rw [observe_of_isSome (BudgetRedis.isSome_liveEntry_write _)]
  refine .set budget ?_ rfl
  rw [BudgetRedis.runBudget, BudgetRedis.hgetall_write, readOf_eq_some]
  exact ⟨isEmpty_insert _ _ _, runBudgetOf_write _ budget⟩

/-- `HINCRBY`: of an entry that is there the count grows; one that is not there is made of the count. -/
theorem hincrby_cases (hs : Readable runId s) {field : String} {current : CachedRunBudget → Int}
    {put : CachedRunBudget → Int → CachedRunBudget} (hfield : CountField field current put) (delta : Int)
    {effect : Option CachedRunBudget → Option CachedRunBudget}
    (heffect : ∀ held, effect held = held.map fun budget => put budget (current budget + delta)) (i : Nat) :
    let o := BudgetCacheCall.hincrby (runBudgetKey runId) field delta
    let s' := s.after runId effect o (s.redis.answer o)
    (FindsEntry none i o s ∧ Moves runId s s') ∨ (¬FindsEntry none i o s ∧ Made runId s') := by
  intro o s'
  simp only [s', o]
  obtain ⟨e, hrefused⟩ | ⟨n, hn, hdelta, haccepted⟩ :=
    BudgetRedis.answer_hincrby (runBudgetKey runId) field delta s.redis
  · left
    rw [hrefused]
    refine ⟨fun _ hdelta => ?_, hs.moves_self⟩
    -- an increment of an entry that is not there is not refused
    by_contra hnone
    rw [Bool.not_eq_true, Option.isSome_eq_false_iff, Option.isNone_iff_eq_none] at hnone
    rw [BudgetRedis.answer, Redis.hincrBy_of_none hnone hdelta] at hrefused
    cases hrefused
  · rw [haccepted]
    have hread : (s.redis.write (runBudgetKey runId) [(field, .int (n + delta))]).runBudget runId =
        readOf ((Redis.hgetall s.redis.clock (runBudgetKey runId) s.redis.store).insert field
          (.int (n + delta))) := by
      rw [BudgetRedis.runBudget, BudgetRedis.hgetall_write]
      rfl
    rw [after, observe_of_isSome (BudgetRedis.isSome_liveEntry_write _)]
    cases hentry : s.redis.liveEntry (runBudgetKey runId) with
    | none =>
      right
      rw [Redis.hgetall_of_none hentry] at hread
      obtain ⟨budget, hbudget⟩ := exists_readOf_insert_empty hfield (n + delta)
      refine ⟨fun h => ?_, ?_, budget, hread.trans hbudget⟩
      · have hthere := h rfl hdelta
        rw [hentry] at hthere
        cases hthere
      · simp [BudgetCacheCall.written, heffect, hs.held hentry]
    | some entry =>
      left
      refine ⟨fun _ _ => by rw [hentry]; rfl, ?_⟩
      obtain ⟨budget, hbudget⟩ := Option.isSome_iff_exists.1 (hs.entry (by rw [hentry]; rfl))
      obtain ⟨-, hof⟩ := readOf_eq_some.1 hbudget
      have hcount : n = current budget := by
        have hfieldValue := hfield.current hof
        rw [intField, ← Redis.hget, hn] at hfieldValue
        exact Except.ok.inj hfieldValue
      refine .incremented (fun budget => put budget (current budget + delta)) budget hbudget ?_
        (heffect s.held)
      rw [hread, readOf_eq_some, hcount]
      exact ⟨isEmpty_insert _ _ _, hfield.put _ hof⟩

/-- A writer's command, as the rules answer it: every entry that it leaves is a move, or is made. -/
theorem command_cases (hs : Readable runId s) {writer : RunBudgetWriter} {o : BudgetCacheCall}
    (hmay : writer.MayCall runId o) (fails : Option PyError) (i : Nat) :
    let s' := s.after runId writer.effect o (s.redis.reply fails o)
    (FindsEntry fails i o s ∧ Moves runId s s') ∨ (¬FindsEntry fails i o s ∧ Made runId s') := by
  cases fails with
  | some e =>
    left
    refine ⟨by cases o <;> first | trivial | exact nofun, ?_⟩
    have hwritten : o.written (BudgetRedis.refused e o) = false := by cases o <;> rfl
    rw [after, BudgetRedis.reply, hwritten]
    exact hs.moves_self
  | none =>
    rcases hmay with rfl | ⟨seconds, rfl⟩
    · cases writer with
      | setRunBudget budget => exact .inl ⟨trivial, moves_write budget⟩
      | incrementRunSpent amountMicrounits =>
        exact hincrby_cases hs countField_spent amountMicrounits (fun _ => rfl) i
      | incrementRunSteps => exact hincrby_cases hs countField_currentSteps 1 (fun _ => rfl) i
      | invalidateRun =>
        have hgone : (s.redis.answer (.delete (runBudgetKey runId))).2.liveEntry
            (runBudgetKey runId) = none :=
          Redis.lookup_del
        exact .inl ⟨trivial, .gone hgone (congrArg RunBudgetEntry.held (observe_of_none hgone))⟩
    · exact .inl ⟨trivial, moves_observe fun entry hentry => BudgetRedis.liveEntry_expire hentry⟩

/-- Every command of a writer leaves an entry that is readable. -/
theorem Readable.after (hs : Readable runId s) {writer : RunBudgetWriter} {o : BudgetCacheCall}
    (hmay : writer.MayCall runId o) (fails : Option PyError) :
    Readable runId (s.after runId writer.effect o (s.redis.reply fails o)) := by
  rcases command_cases hs hmay fails 0 with ⟨-, hmoves⟩ | ⟨-, hmade⟩
  · exact hmoves.readable hs
  · exact hmade.readable

/-- It leaves the entry whole or absent exactly if it finds the entry, where it increments. -/
theorem wholeOrAbsent_after_iff (hs : Readable runId s) (hwhole : WholeOrAbsent runId s)
    {writer : RunBudgetWriter} {o : BudgetCacheCall} (hmay : writer.MayCall runId o)
    (fails : Option PyError) (i : Nat) :
    FindsEntry fails i o s ↔
      WholeOrAbsent runId (s.after runId writer.effect o (s.redis.reply fails o)) := by
  rcases command_cases hs hmay fails i with ⟨hfinds, hmoves⟩ | ⟨hfinds, hmade⟩
  · exact iff_of_true hfinds (hmoves.wholeOrAbsent hwhole)
  · exact iff_of_false hfinds hmade.not_wholeOrAbsent

end RunBudgetEntry

open RunBudgetEntry

/-! ## The runs -/

section
variable {cache : BudgetCache} {runId : String} {writers : List RunBudgetWriter}

/-- What the caller at a position may call. -/
def WriterMayCall (runId : String) (writers : List RunBudgetWriter) (i : Nat) (o : BudgetCacheCall) : Prop :=
  ∃ writer, writers[i]? = some writer ∧ writer.MayCall runId o

/-- A writer sends its own command, and then at most gives the key a lifetime. -/
theorem guar_method {P : BudgetCacheCall → Prop} (writer : RunBudgetWriter)
    (hcommand : P (writer.command runId)) (hexpire : ∀ seconds, P (.expire (runBudgetKey runId) seconds)) :
    ((writer.method cache runId).on ()).Guar (fun _ _ => True) P fun _ => True := by
  have hkeeps : (writer.method cache runId).Keeps (fun _ _ => True) P fun _ => True := by
    cases writer with
    | setRunBudget _ | incrementRunSpent _ | incrementRunSteps =>
      exact Proc.keeps_tryCatch (Proc.keeps_tryCall_bind hcommand fun _ _ _ _ =>
        Proc.keeps_tryCall_bind (hexpire _) fun _ _ _ _ => Proc.keeps_pure true) fun _ =>
          Proc.keeps_pure false
    | invalidateRun =>
      exact Proc.keeps_tryCatch (Proc.keeps_tryCall_bind hcommand fun _ _ _ _ =>
        Proc.keeps_pure true) fun _ => Proc.keeps_pure false
  exact hkeeps () trivial

/-- The rules keep entries readable, whatever the writers do. -/
theorem runBudgetRules_respect : (runBudgetRules runId writers).Respect (Readable runId) (fun _ _ => True)
    (WriterMayCall runId writers) where
  answer fails i o s hs hmay := by
    obtain ⟨writer, hwriter, hmay⟩ := hmay
    refine ⟨trivial, ?_⟩
    simp only [runBudgetRules, hwriter, Option.map_some, Option.getD_some]
    exact hs.after hmay fails
  outside ms s hs := (moves_elapse ms).readable hs

/-- Writers of a run that has no entry start from a readable state, and send only their commands. -/
theorem guaranteed_writerPool {redis : BudgetRedis}
    (habsent : redis.liveEntry (runBudgetKey runId) = none) :
    (writerPool cache runId writers redis).Guaranteed (Readable runId) (fun _ _ => True)
      (WriterMayCall runId writers) fun _ _ => True := by
  refine ⟨fun i q hq => ?_, ⟨fun h => ?_, fun _ => rfl⟩, nofun⟩
  · obtain ⟨writer, hwriter, rfl⟩ : ∃ writer, writers[i]? = some writer ∧
        (writer.method cache runId).on () = q := by
      simpa [writerPool] using hq
    exact guar_method writer ⟨writer, hwriter, .inl rfl⟩ fun seconds => ⟨writer, hwriter, .inr ⟨seconds, rfl⟩⟩
  · simp only [writerPool, habsent] at h
    cases h

/-- Where no entry is there at first, every state along a schedule has the entry whole or absent exactly if
every increment that Redis carries out finds the entry. -/
theorem wholeOrAbsent_iff_findsEntry (cache : BudgetCache) (runId : String)
    (writers : List RunBudgetWriter) {redis : BudgetRedis}
    (habsent : redis.liveEntry (runBudgetKey runId) = none) (schedule : List (Act (Option PyError) Nat)) :
    (∀ schedule', schedule' <+: schedule → WholeOrAbsent runId
      ((writerPool cache runId writers redis).run (runBudgetRules runId writers) schedule').shared) ↔
      Pool.Meets (runBudgetRules runId writers) (Pool.ActMeets FindsEntry)
        (writerPool cache runId writers redis) schedule := by
  refine (Pool.meets_actMeets_iff runBudgetRules_respect
    (fun ms s _ hwhole => (moves_elapse ms).wholeOrAbsent hwhole) ?_ (guaranteed_writerPool habsent) ?_).symm
  · rintro fails i o s hs hwhole ⟨writer, hwriter, hmay⟩
    simp only [runBudgetRules, hwriter, Option.map_some, Option.getD_some]
    exact wholeOrAbsent_after_iff hs hwhole hmay fails i
  · rw [wholeOrAbsent_iff]
    intro budget hbudget
    have hnone : (writerPool cache runId writers redis).shared.redis.runBudget runId = none :=
      BudgetRedis.runBudget_of_none habsent
    rw [hnone] at hbudget
    cases hbudget

/-- The next command of the writer at a position. -/
def nextCommand (i : Nat) : Act (Option PyError) Nat := .thread i none

/-- A budget that is set and spent of. -/
def setAndSpent : List RunBudgetWriter :=
  [.setRunBudget ⟨1000, 0, 10, 0, 60⟩, .incrementRunSpent 5]

/-- The increment comes while the entry is there. -/
theorem wholeOrAbsent_iff_findsEntry_inTime :
    BudgetRedis.liveEntry (runBudgetKey "r") ⟨fun _ => none, 0⟩ = none ∧
      ((∀ schedule', schedule' <+:
          [nextCommand 0, nextCommand 0, .outside 1000, nextCommand 1, nextCommand 1] →
        WholeOrAbsent "r" ((writerPool {} "r" setAndSpent ⟨fun _ => none, 0⟩).run
          (runBudgetRules "r" setAndSpent) schedule').shared) ↔
        Pool.Meets (runBudgetRules "r" setAndSpent) (Pool.ActMeets FindsEntry)
          (writerPool {} "r" setAndSpent ⟨fun _ => none, 0⟩)
          [nextCommand 0, nextCommand 0, .outside 1000, nextCommand 1, nextCommand 1]) := by
  have habsent : BudgetRedis.liveEntry (runBudgetKey "r") ⟨fun _ => none, 0⟩ = none := rfl
  exact ⟨habsent, wholeOrAbsent_iff_findsEntry {} "r" setAndSpent habsent _⟩

/-- The increment comes after the expiry: a budget is read whose limits were not set. -/
theorem not_wholeOrAbsent :
    (¬∀ (cache : BudgetCache) (runId : String) (writers : List RunBudgetWriter) (redis : BudgetRedis)
        (schedule : List (Act (Option PyError) Nat)), redis.liveEntry (runBudgetKey runId) = none →
      WholeOrAbsent runId
        ((writerPool cache runId writers redis).run (runBudgetRules runId writers) schedule).shared) ∧
    ((writerPool {} "r" setAndSpent ⟨fun _ => none, 0⟩).run (runBudgetRules "r" setAndSpent)
      [nextCommand 0, nextCommand 0, .outside 300001, nextCommand 1, nextCommand 1]).shared.redis.runBudget
        "r" = some ⟨0, 5, 0, 0, 90⟩ := by
  have hread : ((writerPool {} "r" setAndSpent ⟨fun _ => none, 0⟩).run (runBudgetRules "r" setAndSpent)
      [nextCommand 0, nextCommand 0, .outside 300001, nextCommand 1, nextCommand 1]).shared.redis.runBudget
        "r" = some ⟨0, 5, 0, 0, 90⟩ := by decide +kernel
  refine ⟨fun h => ?_, hread⟩
  have hwhole := h {} "r" setAndSpent ⟨fun _ => none, 0⟩
    [nextCommand 0, nextCommand 0, .outside 300001, nextCommand 1, nextCommand 1] rfl
  have hheld : ((writerPool {} "r" setAndSpent ⟨fun _ => none, 0⟩).run (runBudgetRules "r" setAndSpent)
      [nextCommand 0, nextCommand 0, .outside 300001, nextCommand 1, nextCommand 1]).shared.held = none := by
    decide +kernel
  exact Made.not_wholeOrAbsent ⟨hheld, _, hread⟩ hwhole

end

end AgentRuntime
