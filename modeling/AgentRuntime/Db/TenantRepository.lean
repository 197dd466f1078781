import AgentRuntime.Db.Rows
import AgentRuntime.Interaction.Method
import AgentRuntime.Python.Values

/-!
# The tenant repository

`Tenant` (`app/domain/entities/tenant.py`) and `SQLTenantRepository`
(`app/infrastructure/db/repositories/tenant.py`). The row of a tenant has no column for its budgets, so a
tenant that is loaded has the default budgets and has spent nothing (`loaded`). Amounts in dollars are floats
in the source and rational numbers here; the defaults have no rounding.
-/

namespace AgentRuntime

open Interaction

/-- Tenant status values. -/
inductive TenantStatus where
  | active
  | suspended
  | deleted
  deriving DecidableEq, Repr

/-- Tenant plan tiers. -/
inductive TenantPlan where
  | free
  | starter
  | professional
  | enterprise
  deriving DecidableEq, Repr

/-- Tenant aggregate root. -/
structure Tenant where
  id : UUID
  createdAt : Time
  updatedAt : Time
  slug : String
  plan : TenantPlan := .free
  status : TenantStatus := .active
  dailyBudgetUsd : Rat := 100
  monthlyBudgetUsd : Rat := 1000
  spentDailyUsd : Rat := 0
  spentMonthlyUsd : Rat := 0
  budgetResetAt : Option Time := none

/-- The methods of `str` that look at classes of characters. -/
structure StrMethods where
  islower : String → Bool
  isalnum : String → Bool

namespace Tenant

/-- `Tenant.__post_init__`. -/
def postInit (str : StrMethods) (self : Tenant) : Except PyError Tenant :=
  if isBlank self.slug then .error (.valueError "Slug cannot be empty")
  else if 100 < self.slug.length then .error (.valueError "Slug too long (max 100 characters)")
  else if ¬str.islower self.slug ∨
      ¬str.isalnum (String.ofList (self.slug.toList.filter (· ≠ '-'))) then
    .error (.valueError "Slug must be lowercase alphanumeric with hyphens")
  else .ok self

variable (self : Tenant)

/-- The budgets of a tenant that is built without. -/
def defaultBudgetUsd (budgetType : String) : Rat := if budgetType = "monthly" then 1000 else 100

/-- `getattr(tenant, f"{budget_type}_budget_usd", 100.0)`. -/
def budgetUsd (budgetType : String) : Rat :=
  if budgetType = "daily" then self.dailyBudgetUsd
  else if budgetType = "monthly" then self.monthlyBudgetUsd
  else 100

/-- `getattr(tenant, f"spent_{budget_type}_usd", 0.0)`. -/
def spentUsd (budgetType : String) : Rat :=
  if budgetType = "daily" then self.spentDailyUsd
  else if budgetType = "monthly" then self.spentMonthlyUsd
  else 0

/-- `setattr(tenant, f"spent_{budget_type}_usd", value)`; the class has slots. -/
def setSpentUsd (value : Rat) (budgetType : String) : Except PyError Tenant :=
  if budgetType = "daily" then .ok { self with spentDailyUsd := value }
  else if budgetType = "monthly" then .ok { self with spentMonthlyUsd := value }
  else .error (.attributeError s!"'Tenant' object has no attribute 'spent_{budgetType}_usd'")

end Tenant

/-- A row of `tenants`. -/
structure TenantRow where
  id : UUID
  slug : String
  plan : TenantPlan
  status : TenantStatus
  createdAt : Time
  updatedAt : Time

/-- The table `tenants`. -/
abbrev TenantTable := List TenantRow

namespace TenantTable

/-- The row with this primary key. -/
def find (self : TenantTable) (tenantId : UUID) : Option TenantRow :=
  List.find? (fun row => row.id = tenantId) self

/-- The row with the key of `row` is overwritten by it. -/
def put (self : TenantTable) (row : TenantRow) : TenantTable :=
  List.map (fun old => if old.id = row.id then row else old) self

end TenantTable

namespace TenantRepository

/-- `_to_entity`. -/
def toEntity (str : StrMethods) (model : TenantRow) : Except PyError Tenant :=
  Tenant.postInit str
    { id := model.id, slug := model.slug, plan := model.plan, status := model.status,
      createdAt := model.createdAt, updatedAt := model.updatedAt }

/-- `_to_model`. -/
def toModel (entity : Tenant) : TenantRow where
  id := entity.id
  slug := entity.slug
  plan := entity.plan
  status := entity.status
  createdAt := entity.createdAt
  updatedAt := entity.updatedAt

variable (str : StrMethods)

def get (tenantId : UUID) : Method PyError TenantTable (Option Tenant) := do
  let table ← MonadState.get
  match table.find tenantId with
  | none => return none
  | some model => some <$> Method.ofExcept (toEntity str model)

/-- Overwrite the columns of the row of a tenant. -/
def update (tenant : Tenant) : Method PyError TenantTable Tenant := do
  let table ← MonadState.get
  match table.find tenant.id with
  | none => throw (.valueError s!"Tenant {tenant.id.str} not found")
  | some model =>
    let model := { model with
      slug := tenant.slug, plan := tenant.plan, status := tenant.status,
      updatedAt := tenant.updatedAt }
    modify fun table => table.put model
    Method.ofExcept (toEntity str model)

/-! ## What is loaded -/

variable {str}

/-- Whatever was stored, a tenant is loaded with the default budgets, and has spent nothing. -/
theorem of_toEntity {model : TenantRow} {tenant : Tenant} (h : toEntity str model = .ok tenant)
    (budgetType : String) :
    tenant.budgetUsd budgetType = Tenant.defaultBudgetUsd budgetType ∧ tenant.spentUsd budgetType = 0 ∧
      toModel tenant = model := by
  unfold toEntity Tenant.postInit at h
  split_ifs at h
  obtain rfl := Except.ok.inj h
  refine ⟨?_, ?_, rfl⟩
  · unfold Tenant.budgetUsd Tenant.defaultBudgetUsd
    by_cases hdaily : budgetType = "daily"
    · subst hdaily
      rfl
    · rw [if_neg hdaily]
  · unfold Tenant.spentUsd
    rw [ite_self, ite_self]

/-- Loading a tenant changes nothing. -/
@[simp] theorem get_on_state (tenantId : UUID) (table : TenantTable) :
    ((get str tenantId).on table).2 = table := by
  rw [get, Method.on_bind, Method.on_get]
  cases h : table.find tenantId with
  | none => simp [h]
  | some model => simp [h]

/-- A tenant is loaded from the row with its identifier, which must be decodable. -/
theorem get_on_eq_some {tenantId : UUID} {table : TenantTable} {tenant : Tenant} :
    ((get str tenantId).on table).1 = .ok (some tenant) ↔
      ∃ row, table.find tenantId = some row ∧ toEntity str row = .ok tenant := by
  rw [get, Method.on_bind, Method.on_get]
  cases h : table.find tenantId with
  | none => simp [h]
  | some model => cases htoEntity : toEntity str model <;> simp [h, htoEntity, Except.map]

end TenantRepository

end AgentRuntime
