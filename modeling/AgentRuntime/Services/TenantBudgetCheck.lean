import AgentRuntime.Services.TenantBudget
import Mathlib.Data.Rat.Floor

/-!
# Checks against the budget of a tenant

What `BudgetService.check_tenant_budget` (`app/application/services/budget_service.py`) does with a tenant
of any budgets, whatever repository it was loaded from (`checkTenantBudget_on_of_get`). A denial reports
what is left of the budget as `Money`, which is refused when less than nothing is left. So the check is
total and exact precisely while less than a micro-unit is spent above the budget (`exactCheck_iff`).
-/

namespace AgentRuntime

open Interaction

/-! ## Truncation -/

/-- `int(x)` rounds what is not negative down. -/
theorem truncate_of_nonneg {x : Rat} (h : 0 ≤ x) : truncate x = ⌊x⌋ := by
  rw [truncate, Int.tdiv_eq_ediv_of_nonneg (Rat.num_nonneg.2 h), Rat.floor_def']

/-- Truncating is toward zero from either side. -/
theorem truncate_neg (x : Rat) : truncate (-x) = -truncate x := by
  rw [truncate, truncate, Rat.neg_num, Rat.neg_den, Int.neg_tdiv]

/-- What is not positive is rounded up, so that it stays an amount of money only above minus one. -/
theorem truncate_of_nonpos {x : Rat} (h : x ≤ 0) : truncate x = -⌊-x⌋ := by
  rw [← truncate_of_nonneg (neg_nonneg.2 h), truncate_neg, neg_neg]

namespace BudgetService

/-- What `check_tenant_budget` does with the tenant it has loaded. -/
def checkLoadedTenant (tenant : Tenant) (additionalCost : Money) (budgetType : String) :
    Except PyError BudgetCheckResult := do
  let maxBudget := tenant.budgetUsd budgetType
  let spentBudget := tenant.spentUsd budgetType
  let newTotal := spentBudget + dollars additionalCost.microUnits
  if maxBudget < newTotal then
    let remainingBudget ← Money.ofInt (truncate ((maxBudget - spentBudget) * 1000000))
    return { allowed := false, reason := s!"Tenant would exceed {budgetType} budget limit",
             remainingBudget }
  else
    let remainingBudget ← Money.ofInt (truncate ((maxBudget - newTotal) * 1000000))
    return { allowed := true, remainingBudget }

/-- `check_tenant_budget` loads the tenant and checks it. -/
theorem checkTenantBudget_on_of_get {str : StrMethods} {tenantId : UUID} {table : TenantTable}
    {tenant : Tenant} (hget : (TenantRepository.get str tenantId).on table = (.ok (some tenant), table))
    (additionalCost : Money) (budgetType : String) :
    (checkTenantBudget str tenantId additionalCost budgetType).on table =
      (checkLoadedTenant tenant additionalCost budgetType, table) := by
  rw [checkTenantBudget, Method.on_bind, hget, checkLoadedTenant]
  dsimp only
  split
  · rw [Method.on_bind, Method.on_ofExcept]
    cases Money.ofInt (truncate ((tenant.budgetUsd budgetType - tenant.spentUsd budgetType) * 1000000)) with
    | error e => rfl
    | ok remainingBudget => rfl
  · rw [Method.on_bind, Method.on_ofExcept]
    cases Money.ofInt (truncate ((tenant.budgetUsd budgetType -
        (tenant.spentUsd budgetType + dollars additionalCost.microUnits)) * 1000000)) with
    | error e => rfl
    | ok remainingBudget => rfl

/-- The check returns this result, which allows the cost exactly if it fits into the budget, and reports
what is left of it, rounded down to a micro-unit. -/
structure ExactCheck (tenant : Tenant) (additionalCost : Money) (budgetType : String)
    (result : BudgetCheckResult) : Prop where
  returns : checkLoadedTenant tenant additionalCost budgetType = .ok result
  allowed : result.allowed = true ↔
    tenant.spentUsd budgetType + dollars additionalCost.microUnits ≤ tenant.budgetUsd budgetType
  denied_remaining : result.allowed = false → (result.remainingBudget.microUnits : Int) =
    ⌊max 0 (tenant.budgetUsd budgetType - tenant.spentUsd budgetType) * 1000000⌋
  allowed_remaining : result.allowed = true → (result.remainingBudget.microUnits : Int) =
    ⌊(tenant.budgetUsd budgetType - tenant.spentUsd budgetType - dollars additionalCost.microUnits) *
      1000000⌋

/-- Money is not negative in dollars. -/
theorem dollars_nonneg (money : Money) : 0 ≤ dollars money.microUnits :=
  div_nonneg (Int.cast_nonneg (Int.natCast_nonneg _)) (by norm_num)

/-- What is left is an amount of money exactly if less than a micro-unit is missing, and then it is what is
left above nothing. -/
theorem ofInt_truncate_eq_ok {left : Rat} {money : Money} :
    Money.ofInt (truncate (left * 1000000)) = .ok money ↔
      -left * 1000000 < 1 ∧ (money.microUnits : Int) = ⌊max 0 left * 1000000⌋ := by
  rw [Money.ofInt_eq_ok, eq_comm]
  rcases le_total 0 left with hleft | hleft
  · rw [truncate_of_nonneg (mul_nonneg hleft (by norm_num)), max_eq_right hleft]
    exact (and_iff_right (by linarith)).symm
  · rw [truncate_of_nonpos (mul_nonpos_of_nonpos_of_nonneg hleft (by norm_num)), max_eq_left hleft,
      zero_mul, Int.floor_zero, ← neg_mul]
    have hfloor : 0 ≤ ⌊-left * 1000000⌋ :=
      Int.floor_nonneg.2 (mul_nonneg (neg_nonneg.2 hleft) (by norm_num))
    have hone : -left * 1000000 < 1 ↔ ⌊-left * 1000000⌋ < 1 := by
      rw [Int.floor_lt, Int.cast_one]
    rw [hone]
    omega

/-- What is left is an amount of money unless it is short of a micro-unit or more. -/
theorem exists_ofInt_truncate {left : Rat} (h : -left * 1000000 < 1) :
    ∃ money, Money.ofInt (truncate (left * 1000000)) = .ok money := by
  have hleft : 0 ≤ max 0 left * 1000000 := mul_nonneg (le_max_left _ _) (by norm_num)
  refine ⟨⟨⌊max 0 left * 1000000⌋.toNat⟩, ofInt_truncate_eq_ok.2 ⟨h, ?_⟩⟩
  exact Int.toNat_of_nonneg (Int.floor_nonneg.2 hleft)

/-- If the check returns, less than a micro-unit is spent above the budget. -/
theorem ExactCheck.spent_lt {tenant : Tenant} {additionalCost : Money} {budgetType : String}
    {result : BudgetCheckResult} (h : ExactCheck tenant additionalCost budgetType result) :
    (tenant.spentUsd budgetType - tenant.budgetUsd budgetType) * 1000000 < 1 := by
  have hcost := dollars_nonneg additionalCost
  by_cases hover : tenant.budgetUsd budgetType <
      tenant.spentUsd budgetType + dollars additionalCost.microUnits
  · have hreturns := h.returns
    rw [checkLoadedTenant, if_pos hover] at hreturns
    obtain ⟨money, hmoney, -⟩ := bind_eq_ok.1 hreturns
    rw [← neg_sub]
    exact (ofInt_truncate_eq_ok.1 hmoney).1
  · linarith

/-- The check of a tenant returns the exact result precisely if less than a micro-unit is spent above the
budget. -/
theorem exactCheck_iff (tenant : Tenant) (additionalCost : Money) (budgetType : String) :
    (∃ result, ExactCheck tenant additionalCost budgetType result) ↔
      (tenant.spentUsd budgetType - tenant.budgetUsd budgetType) * 1000000 < 1 := by
  refine ⟨fun ⟨_, h⟩ => h.spent_lt, fun hspent => ?_⟩
  by_cases hover : tenant.budgetUsd budgetType <
      tenant.spentUsd budgetType + dollars additionalCost.microUnits
  · rw [← neg_sub] at hspent
    obtain ⟨money, hmoney⟩ := exists_ofInt_truncate hspent
    refine ⟨{ allowed := false, reason := s!"Tenant would exceed {budgetType} budget limit",
              remainingBudget := money }, ?_, ?_, fun _ => ?_, ?_⟩
    · rw [checkLoadedTenant, if_pos hover, hmoney]
      rfl
    · exact iff_of_false Bool.false_ne_true (not_le.2 hover)
    · exact (ofInt_truncate_eq_ok.1 hmoney).2
    · exact fun hallowed => absurd hallowed Bool.false_ne_true
  · have hwithin := not_lt.1 hover
    have hleft : 0 ≤ tenant.budgetUsd budgetType -
        (tenant.spentUsd budgetType + dollars additionalCost.microUnits) := sub_nonneg.2 hwithin
    have hmissing : -(tenant.budgetUsd budgetType -
        (tenant.spentUsd budgetType + dollars additionalCost.microUnits)) * 1000000 < 1 := by linarith
    obtain ⟨money, hmoney⟩ := exists_ofInt_truncate hmissing
    refine ⟨{ allowed := true, remainingBudget := money }, ?_, iff_of_true rfl hwithin, ?_, fun _ => ?_⟩
    · rw [checkLoadedTenant, if_neg hover, hmoney]
      rfl
    · exact fun hdenied => absurd hdenied.symm Bool.false_ne_true
    · have hremaining := (ofInt_truncate_eq_ok.1 hmoney).2
      rwa [max_eq_right hleft, ← sub_sub] at hremaining

/-- After its daily budget was lowered below what it had spent, a tenant's check raises. -/
theorem not_exactCheck : ¬∀ (tenant : Tenant) (additionalCost : Money) (budgetType : String),
    0 ≤ tenant.budgetUsd budgetType → 0 ≤ tenant.spentUsd budgetType →
      ∃ result, ExactCheck tenant additionalCost budgetType result := by
  intro h
  let tenant : Tenant :=
    { id := ⟨1⟩, createdAt := 0, updatedAt := 0, slug := "t", spentDailyUsd := 150 }
  have hbudget : tenant.budgetUsd "daily" = 100 := rfl
  have hspent : tenant.spentUsd "daily" = 150 := rfl
  obtain ⟨result, hexact⟩ := h tenant ⟨0⟩ "daily" (by rw [hbudget]; norm_num) (by rw [hspent]; norm_num)
  have hlt := hexact.spent_lt
  rw [hbudget, hspent] at hlt
  norm_num at hlt

end BudgetService

end AgentRuntime
