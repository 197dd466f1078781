import AgentRuntime.Db.Store
import AgentRuntime.Db.TenantRepository
import AgentRuntime.Interaction.BigStep
import AgentRuntime.Interaction.History
import Mathlib.Algebra.BigOperators.Group.List.Basic
import Mathlib.Algebra.Order.Field.Rat
import Mathlib.Tactic.Linarith
import Mathlib.Tactic.NormNum

/-!
# The budget of a tenant

`BudgetService.check_tenant_budget` and `reset_tenant_budget` (`app/application/services/budget_service.py`)
beside the recording of costs. The check compares the cost with the budget of a tenant that is loaded, and
such a tenant has the default budget and has spent nothing; the costs are recorded on the runs, and the
reset stores nothing. So a check keeps the tenant within its budget as long as what has been recorded since
the reset leaves the default budget free (`tenant_budget_capped`).
-/

namespace AgentRuntime

open Interaction

/-- Result of a budget check. -/
structure BudgetCheckResult where
  allowed : Bool
  reason : Option String := none
  warning : Option String := none
  remainingBudget : Money := 0
  remainingSteps : Nat := 0
  remainingSeconds : Rat := 0

/-- `int(x)` of a float. -/
def truncate (x : Rat) : Int := x.num.tdiv x.den

/-- Dollars of an amount in micro-units. -/
def dollars (microUnits : Int) : Rat := microUnits / 1000000

namespace BudgetService

variable (str : StrMethods)

/-- Check if a tenant can proceed based on its budget constraints. -/
def checkTenantBudget (tenantId : UUID) (additionalCost : Money) (budgetType : String) :
    Method PyError TenantTable BudgetCheckResult := do
  match ← TenantRepository.get str tenantId with
  | none => return { allowed := false, reason := "Tenant not found" }
  | some tenant =>
    let maxBudget := tenant.budgetUsd budgetType
    let spentBudget := tenant.spentUsd budgetType
    let newTotal := spentBudget + dollars additionalCost.microUnits
    if maxBudget < newTotal then
      let remainingBudget ← Method.ofExcept
        (Money.ofInt (truncate ((maxBudget - spentBudget) * 1000000)))
      return { allowed := false, reason := s!"Tenant would exceed {budgetType} budget limit",
               remainingBudget }
    else
      let remainingBudget ← Method.ofExcept
        (Money.ofInt (truncate ((maxBudget - newTotal) * 1000000)))
      return { allowed := true, remainingBudget }

/-- Reset tenant budget tracking (typically called by scheduled job). -/
def resetTenantBudget (tenantId : UUID) (budgetType : String) (now : Time) :
    Method PyError TenantTable Unit := do
  match ← TenantRepository.get str tenantId with
  | none => return
  | some tenant =>
    let tenant ← Method.ofExcept (tenant.setSpentUsd 0 budgetType)
    let _ ← TenantRepository.update str { tenant with budgetResetAt := now }

end BudgetService

/-- A call of the budget service about a tenant's budget. -/
inductive BudgetCall where
  | checkTenantBudget (tenantId : UUID) (additionalCost : Money) (budgetType : String)
  | recordSpent (runId : UUID) (cost : Money) (provider model : String)
  | recordProviderUsage (runId : UUID) (provider model : String) (promptTokens completionTokens : Int)
  | resetTenantBudget (tenantId : UUID) (budgetType : String)

/-- What the calls run against: the cost service, how the repository of the runs reads the column of the
costs and what its access to the steps of an updated run does, and the methods of `str`. -/
structure BudgetSetting where
  str : StrMethods
  reading : SpentCostReading
  lazyLoad : Outside → Except PyError Unit := loadsSteps
  calculateCost : String → String → Int → Int → Except PyError Int

/-- The tables of the tenants and of the runs. -/
structure BudgetWorld where
  tenants : TenantTable
  store : Store

namespace BudgetCall

variable (setting : BudgetSetting) (outside : Outside) (world : BudgetWorld)

/-- The coroutine of a recording. -/
def program : BudgetCall → Service Unit Unit
  | recordSpent runId cost provider model => BudgetService.recordSpent runId cost provider model
  | recordProviderUsage runId provider model promptTokens completionTokens =>
    BudgetService.recordProviderUsage setting.calculateCost runId provider model promptTokens
      completionTokens
  | checkTenantBudget _ _ _ | resetTenantBudget _ _ => pure ()

/-- What the call leaves, whether it returns or raises. -/
def apply (call : BudgetCall) : BudgetWorld :=
  match call with
  | checkTenantBudget tenantId additionalCost budgetType =>
    { world with tenants := ((BudgetService.checkTenantBudget setting.str tenantId additionalCost
        budgetType).on world.tenants).2 }
  | resetTenantBudget tenantId budgetType =>
    { world with tenants := ((BudgetService.resetTenantBudget setting.str tenantId budgetType
        (outside .now)).on world.tenants).2 }
  | recordSpent _ _ _ _ | recordProviderUsage _ _ _ _ _ =>
    { world with store := (((call.program setting).on ()).exec
        (storeAnswer setting.reading setting.lazyLoad outside 0) world.store).state }

/-- The run and the cost that the call records. -/
def records : BudgetCall → Option (UUID × Nat)
  | recordSpent runId cost _ _ => some (runId, cost.microUnits)
  | recordProviderUsage runId provider model promptTokens completionTokens =>
    match setting.calculateCost provider model promptTokens completionTokens with
    | .ok costMicro => if 0 < costMicro then some (runId, costMicro.toNat) else none
    | .error _ => none
  | checkTenantBudget _ _ _ | resetTenantBudget _ _ => none

end BudgetCall

/-! ## What a recording does -/

/-- The cost of a run that is loaded is the stored one, as an integer or as money. -/
theorem RunRepository.spentCost_of_get {reading : SpentCostReading} {runId : UUID} {tables : RunTables}
    {run : Run}
    (h : ((RunRepository.get reading runId).on tables).1 = .ok (some run)) :
    ∃ row, tables.find runId = some row ∧ run.id = runId ∧
      ((∃ n, run.spentCost = .int n) ∨
        ∃ m, run.spentCost = .money m ∧ (m.microUnits : Int) = row.spentCostMicrounits) := by
  obtain ⟨row, hrow, htoEntity⟩ := RunRepository.get_on_eq_some.1 h
  obtain ⟨spentCost, maxCost, hspent, -, -, -, rfl⟩ := RunRepository.toEntity_eq_ok.1 htoEntity
  refine ⟨row, hrow, RunTables.id_of_find hrow, ?_⟩
  cases reading with
  | asInt =>
    obtain rfl := Except.ok.inj hspent
    exact .inl ⟨_, rfl⟩
  | asMoney =>
    obtain ⟨m, hm, rfl⟩ := map_eq_ok.1 hspent
    exact .inr ⟨m, rfl, (Money.ofInt_eq_ok.1 hm).symm⟩

/-- A recording adds its cost to the row of the run, or changes no table. -/
theorem BudgetService.recordSpent_tables (reading : SpentCostReading)
    (lazyLoad : Outside → Except PyError Unit) (outside : Outside) (runId : UUID) (cost : Money)
    (provider model : String) (s : Store) :
    let s' := (((BudgetService.recordSpent runId cost provider model : Service Unit Unit).on ()).exec
      (storeAnswer reading lazyLoad outside 0) s).state
    s'.tables = s.tables ∨ ∃ row run, s.tables.find runId = some row ∧
      s'.tables = s.tables.put
        (RunRepository.assigned row run (row.spentCostMicrounits + cost.microUnits)) := by
  intro s'
  have hget : (storeAnswer reading lazyLoad outside 0 (.runGet runId) s) =
    (((RunRepository.get reading runId).on s.tables).1,
      { s with lastRead := Function.update s.lastRead 0 (s.tables.find runId) }) := rfl
  simp only [s', BudgetService.recordSpent, Proc.on_bind, Proc.on_tryCall, Prog.call_bind, Prog.exec_call,
    Prog.ret_bind]
  rw [hget]
  rcases hrun : ((RunRepository.get reading runId).on s.tables).1 with e | _ | run
  · exact .inl rfl
  · exact .inl rfl
  · obtain ⟨row, hrow, hid, ⟨n, hint⟩ | ⟨m, hmoney, hm⟩⟩ := RunRepository.spentCost_of_get hrun
    · simp only [id, Proc.thenOn_ok, Proc.on_withObject, Proc.on_bind, Proc.on_call, Prog.call_bind, Prog.exec_call,
        Prog.ret_bind, Proc.on_method, RunOperation.recordCost_on_int hint]
      exact .inl rfl
    · simp only [id, Proc.thenOn_ok, Proc.on_withObject, Proc.on_bind, Proc.on_call, Prog.call_bind, Prog.exec_call,
        Prog.ret_bind, Proc.on_method, RunOperation.recordCost_on_money hmoney]
      split
      · exact .inl rfl
      · simp only [Proc.thenOn_ok, Proc.on_bind, Proc.on_get, Prog.ret_bind, Proc.on_tryCall,
          Prog.call_bind, Prog.exec_call]
        have hstate (r : Except PyError Run) (run' : Run) (s₁ : Store) :
            (Prog.exec (storeAnswer reading lazyLoad outside 0) (Proc.thenOn (fun _ => do
              let totalSpent ← Proc.ofExcept (SpentCost.money (m + cost)).microUnits
              Proc.method (Run.addEvent (.costRecorded run.id run.tenantId cost.microUnits totalSpent
                provider model))) (r, run') >>= fun r => Prog.ret (r.1, ())) s₁).state = s₁ := by
          cases r <;> rfl
        rw [hstate]
        let recorded : Run := { run with spentCost := .money (m + cost), updatedAt := outside .now }
        rcases RunRepository.update_on_cases reading (lazyLoad outside) recorded s.tables with
          ⟨e, hupdate⟩ | ⟨old, total, hold, htotal, hupdate⟩
        · exact .inl (congrArg Prod.snd hupdate)
        · obtain rfl : m + cost = total := SpentCost.money.inj htotal
          obtain rfl : row = old := Option.some.inj (hrow.symm.trans (hid ▸ hold))
          refine .inr ⟨row, recorded, hrow, (congrArg Prod.snd hupdate).trans ?_⟩
          rw [← hm]
          rfl
namespace RunTables

/-- What is recorded on the runs of a tenant, in micro-units. -/
def recordedFor (self : RunTables) (tenantId : UUID) : Int :=
  ((self.runs.filter fun row => row.tenantId = tenantId).map RunRow.spentCostMicrounits).sum

/-- Overwriting a run keeps the identifiers. -/
theorem map_id_put (self : RunTables) (row : RunRow) :
    (self.put row).runs.map RunRow.id = self.runs.map RunRow.id := by
  unfold put
  rw [List.map_map]
  refine List.map_congr_left fun old _ => ?_
  by_cases h : old.id = row.id
  · simp [h]
  · simp [h]

/-- What is recorded for a tenant is the sum over its runs. -/
@[simp] theorem recordedFor_cons (r : RunRow) (rs : List RunRow) (steps : List RunStep) (tenantId : UUID) :
    recordedFor ⟨r :: rs, steps⟩ tenantId =
      (if r.tenantId = tenantId then r.spentCostMicrounits else 0) + recordedFor ⟨rs, steps⟩ tenantId := by
  unfold recordedFor
  split
  · next h => simp [h]
  · next h => simp [h]

/-- A row that takes the place of another of its tenant adds the difference. -/
theorem recordedFor_put {self : RunTables} {runId : UUID} {old row : RunRow} (tenantId : UUID)
    (hids : (self.runs.map RunRow.id).Nodup) (hold : self.find runId = some old) (hid : row.id = old.id)
    (htenant : row.tenantId = old.tenantId) : (self.put row).recordedFor tenantId =
      self.recordedFor tenantId +
        if old.tenantId = tenantId then row.spentCostMicrounits - old.spentCostMicrounits else 0 := by
  obtain ⟨runs, steps⟩ := self
  have hrow : row.id = runId := hid.trans (id_of_find hold)
  induction runs with
  | nil => cases hold
  | cons r rs ih =>
    obtain ⟨hr, hrs⟩ := List.nodup_cons.1 hids
    by_cases hid' : r.id = runId
    · -- the rows after it have other keys
      have hfind : find ⟨r :: rs, steps⟩ runId = some r := by simp [find, hid']
      obtain rfl := Option.some.inj (hfind.symm.trans hold)
      have hrest : (rs.map fun other => if other.id = row.id then row else other) = rs := by
        refine (List.map_congr_left fun other hother => if_neg fun h => hr ?_).trans (List.map_id' rs)
        exact List.mem_map.2 ⟨other, hother, h.trans hid⟩
      have hput : put ⟨r :: rs, steps⟩ row = ⟨row :: rs, steps⟩ := by
        rw [put, List.map_cons, hrest, if_pos hid.symm]
      rw [hput, recordedFor_cons, recordedFor_cons, htenant]
      split <;> omega
    · have hfind : find ⟨r :: rs, steps⟩ runId = find ⟨rs, steps⟩ runId := by simp [find, hid']
      have hput : put ⟨r :: rs, steps⟩ row = ⟨r :: (put ⟨rs, steps⟩ row).runs, steps⟩ := by
        simp [put, hrow, hid']
      have htail := ih hrs (hfind.symm.trans hold)
      rw [hput, recordedFor_cons, recordedFor_cons, Int.add_assoc, ← htail]
      rfl

end RunTables

/-! ## What a check and a reset do -/

namespace BudgetService

variable {str : StrMethods} {table : TenantTable} {tenantId : UUID} {budgetType : String}

/-- The check returns, and allows the cost. -/
def allows (str : StrMethods) (table : TenantTable) (tenantId : UUID) (additionalCost : Money)
    (budgetType : String) : Bool :=
  match ((checkTenantBudget str tenantId additionalCost budgetType).on table).1 with
  | .ok result => result.allowed
  | .error _ => false

/-- Truncating a number that is not negative gives one that is not. -/
theorem truncate_nonneg {x : Rat} (h : 0 ≤ x) : 0 ≤ truncate x :=
  Int.tdiv_nonneg (Rat.num_nonneg.2 h) (Int.natCast_nonneg _)

/-- An amount that is not negative is an amount of money. -/
theorem ofInt_truncate {x : Rat} (h : 0 ≤ x) : ∃ money, Money.ofInt (truncate x) = .ok money :=
  ⟨⟨(truncate x).toNat⟩, Money.ofInt_eq_ok.2 (Int.toNat_of_nonneg (truncate_nonneg h)).symm⟩

/-- A check changes nothing. What it allows is a cost within the default budget, of a tenant that can be
loaded. -/
theorem checkTenantBudget_on (additionalCost : Money) :
    ((checkTenantBudget str tenantId additionalCost budgetType).on table).2 = table ∧
      (allows str table tenantId additionalCost budgetType = true ↔
        (∃ tenant, ((TenantRepository.get str tenantId).on table).1 = .ok (some tenant)) ∧
          dollars additionalCost.microUnits ≤ Tenant.defaultBudgetUsd budgetType) := by
  have hstate : ((TenantRepository.get str tenantId).on table).2 = table :=
    TenantRepository.get_on_state tenantId table
  unfold allows
  rw [checkTenantBudget, Method.on_bind]
  rcases hget : (TenantRepository.get str tenantId).on table with ⟨e | _ | tenant, table'⟩ <;>
    rw [hget] at hstate <;> obtain rfl := hstate
  · simp
  · simp
  · obtain ⟨row, -, htenant⟩ := TenantRepository.get_on_eq_some.1 (congrArg Prod.fst hget)
    obtain ⟨hbudget, hspent, -⟩ := TenantRepository.of_toEntity htenant budgetType
    dsimp only
    rw [hbudget, hspent, zero_add, sub_zero, Method.on_ite]
    split
    · next hover =>
      have hnot := not_le.2 hover
      rw [Method.on_bind, Method.on_ofExcept]
      cases Money.ofInt (truncate (Tenant.defaultBudgetUsd budgetType * 1000000)) with
      | error e => simp [hnot]
      | ok remainingBudget => simp [hnot]
    · next hwithin =>
      have hle := not_lt.1 hwithin
      have hrest : 0 ≤ (Tenant.defaultBudgetUsd budgetType - dollars additionalCost.microUnits) * 1000000 := by
        linarith
      obtain ⟨remainingBudget, hremaining⟩ := ofInt_truncate hrest
      rw [Method.on_bind, Method.on_ofExcept, hremaining]
      simp [hle]

end BudgetService

/-! ## The ledger of a tenant -/

/-- The world with the costs that have been allowed to the tenant and not yet recorded, and what had been
recorded on its runs when its budget was last reset. -/
structure BudgetLedger where
  world : BudgetWorld
  granted : List Nat := []
  atReset : Int

namespace BudgetLedger

section
variable (setting : BudgetSetting) (tenantId : UUID) (budgetType : String)

/-- At the start of a period. -/
def start (world : BudgetWorld) : BudgetLedger where
  world
  atReset := world.store.tables.recordedFor tenantId

variable (self : BudgetLedger)

/-- The total cost recorded for the tenant since the reset. -/
def spent : Int := self.world.store.tables.recordedFor tenantId - self.atReset

/-- What has been allowed since and is still to be recorded. -/
def pending : Int := (self.granted.sum : Nat)

/-- The run is one of the tenant's. -/
def OwnsRun (runId : UUID) : Prop :=
  ∃ row, self.world.store.tables.find runId = some row ∧ row.tenantId = tenantId

instance (runId : UUID) : Decidable (self.OwnsRun tenantId runId) :=
  decidable_of_iff ((self.world.store.tables.find runId).any (·.tenantId = tenantId) = true) (by
    simp [OwnsRun, Option.any_eq_true])

/-- The costs that are granted after the call: a check that allows a cost of the tenant's adds it, a
recording on a run of the tenant takes it away. -/
def grantedAfter (self : BudgetLedger) (call : BudgetCall) : List Nat :=
  match call with
  | .checkTenantBudget id additionalCost type =>
    if id = tenantId ∧ type = budgetType ∧
        BudgetService.allows setting.str self.world.tenants id additionalCost type then
      additionalCost.microUnits :: self.granted
    else self.granted
  | call =>
    match call.records setting with
    | some (runId, cost) => if self.OwnsRun tenantId runId then self.granted.erase cost else self.granted
    | none => self.granted

/-- A call, with what is outside at its time. -/
def step (call : BudgetCall × Outside) (self : BudgetLedger) : BudgetLedger where
  world := call.1.apply setting call.2 self.world
  granted := self.grantedAfter setting tenantId budgetType call.1
  atReset :=
    match call.1 with
    | .resetTenantBudget id type =>
      if id = tenantId ∧ type = budgetType then self.world.store.tables.recordedFor tenantId
      else self.atReset
    | _ => self.atReset

/-- A cost is recorded on a run of the tenant after it was allowed, once for each time. -/
def Disciplined (self : BudgetLedger) (call : BudgetCall × Outside) : Prop :=
  ∀ runId cost, call.1.records setting = some (runId, cost) → self.OwnsRun tenantId runId →
    cost ∈ self.granted

/-- When a cost of the tenant's is checked, what has been recorded since the reset and what has been
allowed leave the default budget of the tenant's own. -/
def Covered (budgetUsd : Rat) (self : BudgetLedger) (call : BudgetCall × Outside) : Prop :=
  ∀ additionalCost, call.1 = .checkTenantBudget tenantId additionalCost budgetType →
    dollars (self.spent tenantId + self.pending) + Tenant.defaultBudgetUsd budgetType ≤ budgetUsd

end

variable {setting : BudgetSetting} {tenantId : UUID} {budgetType : String} {budgetUsd : Rat}
  {self : BudgetLedger} {call : BudgetCall × Outside}

/-- What has been recorded and what has been allowed are within the budget. -/
structure Within (tenantId : UUID) (budgetUsd : Rat) (ledger : BudgetLedger) : Prop where
  ids : (ledger.world.store.tables.runs.map RunRow.id).Nodup
  nonneg : 0 ≤ ledger.spent tenantId
  within : dollars (ledger.spent tenantId + ledger.pending) ≤ budgetUsd

end BudgetLedger

/-- Dollars are added like micro-units. -/
theorem dollars_add (a b : Int) : dollars (a + b) = dollars a + dollars b := by
  unfold dollars
  rw [Int.cast_add, add_div]

/-- They are compared like micro-units. -/
theorem dollars_le_dollars {a b : Int} (h : a ≤ b) : dollars a ≤ dollars b := by
  have hcast : (a : Rat) ≤ b := Int.cast_le.2 h
  unfold dollars
  linarith

namespace BudgetCall

variable {setting : BudgetSetting} {outside : Outside} {world : BudgetWorld}

/-- A call that records a cost adds it to the row of the run, or changes no table of the runs. -/
theorem apply_tables (setting : BudgetSetting) (outside : Outside) (world : BudgetWorld) (call : BudgetCall) :
    (call.apply setting outside world).store.tables = world.store.tables ∨
      ∃ runId cost row run, call.records setting = some (runId, cost) ∧
        world.store.tables.find runId = some row ∧
        (call.apply setting outside world).store.tables = world.store.tables.put
          (RunRepository.assigned row run (row.spentCostMicrounits + cost)) := by
  cases call with
  | checkTenantBudget tenantId additionalCost budgetType => exact .inl rfl
  | resetTenantBudget tenantId budgetType => exact .inl rfl
  | recordSpent runId cost provider model =>
    obtain h | ⟨row, run, hrow, h⟩ := BudgetService.recordSpent_tables setting.reading setting.lazyLoad
      outside runId cost provider model world.store
    · exact .inl h
    · exact .inr ⟨runId, cost.microUnits, row, run, rfl, hrow, h⟩
  | recordProviderUsage runId provider model promptTokens completionTokens =>
    cases hcost : setting.calculateCost provider model promptTokens completionTokens with
    | error e =>
      left
      simp [apply, program, BudgetService.recordProviderUsage, hcost]
    | ok costMicro =>
      by_cases hpos : 0 < costMicro
      · have hprogram : (recordProviderUsage runId provider model promptTokens completionTokens).program setting =
            BudgetService.recordSpent runId ⟨costMicro.toNat⟩ provider model := by
          rw [program, BudgetService.recordProviderUsage, hcost]
          exact if_pos hpos
        have hrecords : (recordProviderUsage runId provider model promptTokens completionTokens).records
            setting = some (runId, costMicro.toNat) := by
          simp [records, hcost, hpos]
        obtain h | ⟨row, run, hrow, h⟩ := BudgetService.recordSpent_tables setting.reading setting.lazyLoad
          outside runId ⟨costMicro.toNat⟩ provider model world.store
        · left
          rw [apply, hprogram]
          exact h
        · right
          refine ⟨runId, costMicro.toNat, row, run, hrecords, hrow, ?_⟩
          rw [apply, hprogram]
          exact h
      · left
        simp [apply, program, BudgetService.recordProviderUsage, hcost, hpos]

end BudgetCall

namespace BudgetLedger

variable {setting : BudgetSetting} {tenantId : UUID} {budgetType : String} {budgetUsd : Rat}
  {self : BudgetLedger} {call : BudgetCall} {outside : Outside}

/-- A recording on a run of the tenant uses up the cost that was allowed for it. -/
theorem grantedAfter_of_records {runId : UUID} {cost : Nat}
    (h : call.records setting = some (runId, cost)) :
    self.grantedAfter setting tenantId budgetType call =
      if self.OwnsRun tenantId runId then self.granted.erase cost else self.granted := by
  cases call with
  | checkTenantBudget | resetTenantBudget => cases h
  | recordSpent | recordProviderUsage =>
    simp only [grantedAfter]
    rw [h]

/-- What a call may record on the tenant's runs is taken from what was granted. -/
theorem pending_step_of_records (budgetType : String) {runId : UUID} {cost : Nat}
    (h : call.records setting = some (runId, cost))
    (hdisciplined : self.Disciplined setting tenantId (call, outside)) :
    (self.step setting tenantId budgetType (call, outside)).pending =
      self.pending - if self.OwnsRun tenantId runId then (cost : Int) else 0 := by
  have hgranted : (self.step setting tenantId budgetType (call, outside)).granted =
      if self.OwnsRun tenantId runId then self.granted.erase cost else self.granted :=
    grantedAfter_of_records h
  unfold pending
  rw [hgranted]
  split
  · next howns =>
    have hsum := List.sum_erase (hdisciplined runId cost h howns)
    omega
  · omega

/-- A recording keeps the sum of what is recorded and what is granted, or makes it less. -/
theorem Within.step_of_records (h : self.Within tenantId budgetUsd) {runId : UUID} {cost : Nat}
    (hrecords : call.records setting = some (runId, cost))
    (hdisciplined : self.Disciplined setting tenantId (call, outside)) :
    (self.step setting tenantId budgetType (call, outside)).Within tenantId budgetUsd := by
  have hpending := pending_step_of_records budgetType hrecords hdisciplined
  have hreset : (self.step setting tenantId budgetType (call, outside)).atReset = self.atReset := by
    cases call with
    | checkTenantBudget | resetTenantBudget => cases hrecords
    | recordSpent | recordProviderUsage => rfl
  have hworld : (self.step setting tenantId budgetType (call, outside)).world =
      call.apply setting outside self.world := rfl
  obtain hsame | ⟨runId', cost', row, run, hrecords', hrow, hput⟩ :=
    BudgetCall.apply_tables setting outside self.world call
  · have hspent : (self.step setting tenantId budgetType (call, outside)).spent tenantId =
        self.spent tenantId := by
      rw [spent, spent, hworld, hsame, hreset]
    refine ⟨by rw [hworld, hsame]; exact h.ids, by rw [hspent]; exact h.nonneg, ?_⟩
    rw [hspent, hpending]
    refine le_trans (dollars_le_dollars ?_) h.within
    split <;> omega
  · obtain ⟨rfl, rfl⟩ : runId = runId' ∧ cost = cost' := by
      simpa using hrecords.symm.trans hrecords'
    have howns : self.OwnsRun tenantId runId ↔ row.tenantId = tenantId := by
      simp [OwnsRun, hrow]
    have hspent : (self.step setting tenantId budgetType (call, outside)).spent tenantId =
        self.spent tenantId + if self.OwnsRun tenantId runId then (cost : Int) else 0 := by
      have hid : (RunRepository.assigned row run (row.spentCostMicrounits + cost)).id = row.id := rfl
      have hrecorded := RunTables.recordedFor_put tenantId h.ids hrow hid rfl
      rw [spent, spent, hworld, hput, hreset, hrecorded]
      simp only [howns, RunRepository.assigned]
      split <;> omega
    refine ⟨?_, ?_, ?_⟩
    · rw [hworld, hput, RunTables.map_id_put]
      exact h.ids
    · have hnonneg := h.nonneg
      rw [hspent]
      split <;> omega
    · rw [hspent, hpending]
      refine le_trans (dollars_le_dollars ?_) h.within
      split <;> omega

/-- A call that records nothing leaves the runs as they are. -/
theorem step_tables (hrecords : call.records setting = none) :
    (self.step setting tenantId budgetType (call, outside)).world.store.tables = self.world.store.tables := by
  obtain hsame | ⟨_, _, _, _, hrecords', -⟩ := BudgetCall.apply_tables setting outside self.world call
  · exact hsame
  · rw [hrecords] at hrecords'
    cases hrecords'

/-- A check that is covered grants what is left at most. -/
theorem Within.step_of_check (h : self.Within tenantId budgetUsd) {id : UUID} {additionalCost : Money}
    {type : String}
    (hcovered : self.Covered tenantId budgetType budgetUsd (.checkTenantBudget id additionalCost type, outside)) :
    (self.step setting tenantId budgetType (.checkTenantBudget id additionalCost type, outside)).Within tenantId
      budgetUsd := by
  have hspent : (self.step setting tenantId budgetType
      (.checkTenantBudget id additionalCost type, outside)).spent tenantId = self.spent tenantId := rfl
  refine ⟨h.ids, h.nonneg, ?_⟩
  rw [hspent]
  by_cases hgrants : id = tenantId ∧ type = budgetType ∧
      BudgetService.allows setting.str self.world.tenants id additionalCost type = true
  · have hgranted : (self.step setting tenantId budgetType
        (.checkTenantBudget id additionalCost type, outside)).granted =
          additionalCost.microUnits :: self.granted := if_pos hgrants
    obtain ⟨rfl, rfl, hallows⟩ := hgrants
    obtain ⟨-, hcost⟩ := (BudgetService.checkTenantBudget_on additionalCost).2.1 hallows
    have hfree := hcovered additionalCost rfl
    have hsum : self.spent id + ((additionalCost.microUnits :: self.granted).sum : Nat) =
        self.spent id + self.pending + additionalCost.microUnits := by
      rw [List.sum_cons, pending]
      omega
    rw [pending, hgranted, hsum, dollars_add]
    linarith
  · have hgranted : (self.step setting tenantId budgetType
        (.checkTenantBudget id additionalCost type, outside)).granted = self.granted := if_neg hgrants
    rw [pending, hgranted]
    exact h.within

/-- A reset begins a period, with what is granted. -/
theorem Within.step_of_reset (h : self.Within tenantId budgetUsd) (id : UUID) (type : String) :
    (self.step setting tenantId budgetType (.resetTenantBudget id type, outside)).Within tenantId budgetUsd := by
  have hids : ((self.step setting tenantId budgetType
      (.resetTenantBudget id type, outside)).world.store.tables.runs.map RunRow.id).Nodup := by
    rw [step_tables rfl]
    exact h.ids
  by_cases hperiod : id = tenantId ∧ type = budgetType
  · have hreset : (self.step setting tenantId budgetType (.resetTenantBudget id type, outside)).atReset =
        self.world.store.tables.recordedFor tenantId := if_pos hperiod
    have hspent : (self.step setting tenantId budgetType
        (.resetTenantBudget id type, outside)).spent tenantId = 0 := by
      rw [spent, hreset, step_tables rfl]
      exact Int.sub_self _
    have hpending : (self.step setting tenantId budgetType
        (.resetTenantBudget id type, outside)).pending = self.pending := rfl
    refine ⟨hids, hspent.ge, ?_⟩
    have hnonneg := h.nonneg
    rw [hspent, hpending]
    exact le_trans (dollars_le_dollars (by omega)) h.within
  · have hreset : (self.step setting tenantId budgetType (.resetTenantBudget id type, outside)).atReset =
        self.atReset := if_neg hperiod
    have hspent : (self.step setting tenantId budgetType
        (.resetTenantBudget id type, outside)).spent tenantId = self.spent tenantId := by
      rw [spent, hreset, step_tables rfl]
      rfl
    exact ⟨hids, hspent.symm ▸ h.nonneg, hspent.symm ▸ h.within⟩

/-- A call that is disciplined and covered keeps to the budget, by cases of what it is. -/
theorem Within.step (h : self.Within tenantId budgetUsd)
    (hdisciplined : self.Disciplined setting tenantId (call, outside))
    (hcovered : self.Covered tenantId budgetType budgetUsd (call, outside)) :
    (self.step setting tenantId budgetType (call, outside)).Within tenantId budgetUsd := by
  cases hrecords : call.records setting with
  | some record => exact h.step_of_records hrecords hdisciplined
  | none =>
    cases call with
    | checkTenantBudget id additionalCost type => exact h.step_of_check hcovered
    | resetTenantBudget id type => exact h.step_of_reset id type
    | recordSpent runId cost provider model => cases hrecords
    | recordProviderUsage runId provider model promptTokens completionTokens =>
      have hspent : (self.step setting tenantId budgetType (.recordProviderUsage runId provider model
          promptTokens completionTokens, outside)).spent tenantId = self.spent tenantId := by
        rw [spent, step_tables hrecords]
        rfl
      have hgranted : (self.step setting tenantId budgetType (.recordProviderUsage runId provider model
          promptTokens completionTokens, outside)).granted = self.granted := by
        simp only [BudgetLedger.step, grantedAfter]
        rw [hrecords]
      refine ⟨?_, hspent.symm ▸ h.nonneg, ?_⟩
      · rw [step_tables hrecords]
        exact h.ids
      · rw [hspent, pending, hgranted]
        exact h.within

end BudgetLedger

/-- In every run of calls in which the tenant's costs are recorded once they are allowed, and each check
finds the default budget free, what is recorded between two resets is within the budget. Whether a check can
allow too much depends on that alone, and a tenant that is loaded after a reset has spent nothing. -/
theorem tenant_budget_capped (setting : BudgetSetting) (tenant : Tenant) (budgetType : String)
    (world : BudgetWorld) (hids : (world.store.tables.runs.map RunRow.id).Nodup)
    (hbudget : 0 ≤ tenant.budgetUsd budgetType) :
    (∀ calls, Along (BudgetLedger.step setting tenant.id budgetType)
        (fun self call => self.Disciplined setting tenant.id call ∧
          self.Covered tenant.id budgetType (tenant.budgetUsd budgetType) call)
        (.start tenant.id world) calls →
      dollars ((after (BudgetLedger.step setting tenant.id budgetType) (.start tenant.id world)
        calls).spent tenant.id) ≤ tenant.budgetUsd budgetType) ∧
    (∀ (ledger : BudgetLedger) (loaded : Tenant),
      ((TenantRepository.get setting.str tenant.id).on ledger.world.tenants).1 = .ok (some loaded) →
      ((∀ additionalCost : Money,
          BudgetService.allows setting.str ledger.world.tenants tenant.id additionalCost budgetType = true →
          dollars (ledger.spent tenant.id + ledger.pending + additionalCost.microUnits) ≤
            tenant.budgetUsd budgetType) ↔
        dollars (ledger.spent tenant.id + ledger.pending) + Tenant.defaultBudgetUsd budgetType ≤
          tenant.budgetUsd budgetType)) ∧
    ∀ (table : TenantTable) (now : Time) (loaded : Tenant),
      ((TenantRepository.get setting.str tenant.id).on ((BudgetService.resetTenantBudget setting.str
        tenant.id budgetType now).on table).2).1 = .ok (some loaded) →
      loaded.spentUsd budgetType = 0 := by
  refine ⟨fun calls hcalls => ?_, fun ledger loaded hloaded => ?_, fun table now loaded hloaded => ?_⟩
  · have hstart : (BudgetLedger.start tenant.id world).Within tenant.id (tenant.budgetUsd budgetType) := by
      have hspent : (BudgetLedger.start tenant.id world).spent tenant.id = 0 := Int.sub_self _
      refine ⟨hids, hspent.ge, ?_⟩
      rw [hspent]
      simpa [dollars, BudgetLedger.start, BudgetLedger.pending] using hbudget
    have hwithin := hcalls.after_induction hstart
      fun ledger call hcall hledger => hledger.step hcall.1 hcall.2
    refine le_trans (dollars_le_dollars ?_) hwithin.within
    rw [BudgetLedger.pending]
    omega
  · have hallows (additionalCost : Money) : BudgetService.allows setting.str ledger.world.tenants tenant.id
        additionalCost budgetType = true ↔
          dollars additionalCost.microUnits ≤ Tenant.defaultBudgetUsd budgetType :=
      (BudgetService.checkTenantBudget_on additionalCost).2.trans (and_iff_right ⟨loaded, hloaded⟩)
    simp only [hallows, dollars_add]
    constructor
    · intro hcost
      obtain ⟨whole, hwhole⟩ : ∃ whole : Money,
          dollars whole.microUnits = Tenant.defaultBudgetUsd budgetType := by
        unfold Tenant.defaultBudgetUsd
        split
        · exact ⟨⟨1000000000⟩, by norm_num [dollars]⟩
        · exact ⟨⟨100000000⟩, by norm_num [dollars]⟩
      have hover := hcost whole hwhole.le
      linarith
    · intro hfree additionalCost hcost
      linarith
  · obtain ⟨row, -, htoEntity⟩ := TenantRepository.get_on_eq_some.1 hloaded
    exact (TenantRepository.of_toEntity htoEntity budgetType).2.1

/-! ## A tenant that spends more -/

namespace TenantBudget

/-- A repository that reads the column as money, as `Run` declares it. -/
def setting : BudgetSetting where
  str := { islower := fun s => s.toList.all Char.isLower, isalnum := fun s => s.toList.all Char.isAlphanum }
  reading := .asMoney
  calculateCost _ _ promptTokens completionTokens := .ok (promptTokens + completionTokens)

def tenant : Tenant := { id := ⟨3⟩, createdAt := 0, updatedAt := 0, slug := "acme" }

/-- The tenant has a run that may cost 500 dollars. -/
def world : BudgetWorld where
  tenants := [TenantRepository.toModel tenant]
  store := Store.sample { RunRow.sample .running with maxCostMicrounits := 500000000 }

/-- A cost in dollars is checked, and recorded on the run. -/
def spend (cost : Nat) : List (BudgetCall × Outside) :=
  [(.checkTenantBudget tenant.id ⟨cost * 1000000⟩ "daily", Call.quiet),
    (.recordSpent ⟨1⟩ ⟨cost * 1000000⟩ "openai" "gpt-4", Call.quiet)]

/-- Costs that are checked right before they are recorded, and allowed, are disciplined. -/
theorem disciplined_spend (ledger : BudgetLedger) (cost : Nat)
    (hallows : BudgetService.allows setting.str ledger.world.tenants tenant.id ⟨cost * 1000000⟩ "daily" = true) :
    Along (BudgetLedger.step setting tenant.id "daily") (BudgetLedger.Disciplined setting tenant.id) ledger
      (spend cost) := by
  unfold spend
  refine ⟨fun runId cost' hrecords => ?_, fun runId cost' hrecords _ => ?_, trivial⟩
  · cases hrecords
  · obtain ⟨-, rfl⟩ : (⟨1⟩ : UUID) = runId ∧ cost * 1000000 = cost' := by simpa [BudgetCall.records] using hrecords
    have hgranted : (ledger.step setting tenant.id "daily" (.checkTenantBudget tenant.id ⟨cost * 1000000⟩ "daily",
        Call.quiet)).granted = cost * 1000000 :: ledger.granted := if_pos ⟨rfl, rfl, hallows⟩
    rw [hgranted]
    exact List.mem_cons_self

end TenantBudget

namespace TenantBudget

/-- The tenant with a budget of 250 dollars a day, of which each check sees the default of 100. -/
def largeTenant : Tenant := { tenant with dailyBudgetUsd := 250 }

def largeWorld : BudgetWorld := { world with tenants := [TenantRepository.toModel largeTenant] }

/-- The default budget is free where a cost is checked. -/
theorem covered_spend {ledger : BudgetLedger} (cost : Nat)
    (hfree : dollars (ledger.spent tenant.id + ledger.pending) + Tenant.defaultBudgetUsd "daily" ≤
      largeTenant.budgetUsd "daily") :
    Along (BudgetLedger.step setting tenant.id "daily")
      (BudgetLedger.Covered tenant.id "daily" (largeTenant.budgetUsd "daily")) ledger (spend cost) :=
  ⟨fun _ _ => hfree, fun _ hcheck => (by cases hcheck), trivial⟩

/-- A reset, and a cost after it. -/
def resetAndSpend (cost : Nat) : List (BudgetCall × Outside) :=
  (.resetTenantBudget tenant.id "daily", Call.quiet) :: spend cost

end TenantBudget

open TenantBudget in
/-- Two costs of 60 dollars in one period and one of 90 in the next stay within the budget of 250. -/
theorem tenant_budget_capped_periods :
    dollars ((after (BudgetLedger.step setting tenant.id "daily") (.start tenant.id largeWorld)
      (spend 60 ++ spend 60 ++ resetAndSpend 90)).spent tenant.id) ≤ 250 := by
  have hids : (largeWorld.store.tables.runs.map RunRow.id).Nodup := by decide
  have hbudget : 0 ≤ largeTenant.budgetUsd "daily" := by decide
  refine (tenant_budget_capped setting largeTenant "daily" largeWorld hids hbudget).1 _ (Along.and ?_ ?_)
  · refine (along_append _ _).2 ⟨(along_append _ _).2 ⟨?_, ?_⟩, fun _ _ hrecords => (by cases hrecords), ?_⟩
    · exact disciplined_spend _ 60 (by decide +kernel)
    · exact disciplined_spend _ 60 (by decide +kernel)
    · exact disciplined_spend _ 90 (by decide +kernel)
  · refine (along_append _ _).2 ⟨(along_append _ _).2 ⟨?_, ?_⟩, fun _ hcheck => (by cases hcheck), ?_⟩
    · exact covered_spend 60 (by decide +kernel)
    · exact covered_spend 60 (by decide +kernel)
    · exact covered_spend 90 (by decide +kernel)

open TenantBudget in
/-- Two costs of 60 dollars are allowed and recorded in one period, where the budget is 100: the second check
does not see what was recorded. -/
theorem not_tenant_budget_capped :
    ¬∀ calls, Along (BudgetLedger.step setting tenant.id "daily")
        (BudgetLedger.Disciplined setting tenant.id) (.start tenant.id world) calls →
      dollars ((after (BudgetLedger.step setting tenant.id "daily") (.start tenant.id world)
        calls).spent tenant.id) ≤ tenant.budgetUsd "daily" := by
  intro hcapped
  have hspent : (after (BudgetLedger.step setting tenant.id "daily") (.start tenant.id world)
      (spend 60 ++ spend 60)).spent tenant.id = 120000000 := by
    decide +kernel
  have hdisciplined := hcapped (spend 60 ++ spend 60) ((along_append _ _).2
    ⟨disciplined_spend _ _ (by decide +kernel), disciplined_spend _ _ (by decide +kernel)⟩)
  rw [hspent] at hdisciplined
  revert hdisciplined
  decide +kernel

end AgentRuntime
