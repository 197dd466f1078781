import AgentRuntime.Domain.RunLog
import Mathlib.Algebra.BigOperators.Group.List.Basic
import Mathlib.Algebra.Ring.Nat

/-!
# The cost of token usage, recorded in parts

`record_token_usage` charges 10 micro-units for 1000 tokens, rounded down for each record, and records
nothing where that is zero. Usage that is recorded in parts costs the sum of the parts' charges, in any
order, and that is what the whole usage would cost exactly if the tokens left over by the parts are fewer than
100 (`recordUsages_spentCost`).
-/

namespace AgentRuntime

open Interaction

/-- A sum of quotients falls short of the quotient of the sum by what the remainders make up. -/
theorem sum_div_eq {m : Nat} (hm : 0 < m) (l : List Nat) :
    l.sum / m = (l.map (· / m)).sum + (l.map (· % m)).sum / m := by
  have hsum : l.sum = m * (l.map (· / m)).sum + (l.map (· % m)).sum := by
    induction l with
    | nil => rfl
    | cons a l ih =>
      rw [List.sum_cons, List.map_cons, List.sum_cons, List.map_cons, List.sum_cons, ih, Nat.mul_add]
      have ha := Nat.div_add_mod a m
      omega
  rw [hsum, Nat.mul_add_div hm]

/-- What a usage is charged: `(total_tokens * 10) // 1000`. -/
def TokenUsage.costMicro (self : TokenUsage) : Nat := self.totalTokens * 10 / 1000

/-- The cost of a usage is a hundredth of its tokens in micro-units, rounded down. -/
theorem TokenUsage.costMicro_eq (self : TokenUsage) : self.costMicro = self.totalTokens / 100 := by
  unfold costMicro
  omega

/-- Recording one usage after another, each at its time. -/
def recordUsages (order : List (TokenUsage × Time)) : List RunCall :=
  order.map fun entry => ⟨.recordTokenUsage entry.1, entry.2⟩

section
variable {run : Run} {spent : Money}

/-- A usage within the budget is recorded, and nothing but the time of the update changes beside the cost. -/
theorem recordTokenUsage_on (hspent : run.spentCost = .money spent) (usage : TokenUsage)
    (hfits : spent.microUnits + usage.costMicro ≤ run.maxCost.microUnits) (now : Time) :
    ∃ updatedAt, (Run.recordTokenUsage usage now).on run =
      (.ok (), { run with spentCost := .money ⟨spent.microUnits + usage.costMicro⟩, updatedAt }) := by
  unfold Run.recordTokenUsage
  by_cases hcost : 0 < usage.totalTokens * 10 / 1000
  · refine ⟨now, ?_⟩
    have hmax : ¬run.maxCost < spent + ⟨usage.totalTokens * 10 / 1000⟩ := by
      rw [Money.lt_iff]
      exact Nat.not_lt.2 hfits
    simp only [hcost, if_true]
    rw [RunOperation.recordCost_on_money hspent, if_neg hmax]
    rfl
  · refine ⟨run.updatedAt, ?_⟩
    have hzero : usage.costMicro = 0 := Nat.eq_zero_of_not_pos hcost
    simp only [hcost, if_false, Method.on_pure, hzero, Nat.add_zero, ← hspent]

/-- Usages whose charges fit the budget are recorded one after another. -/
theorem after_recordUsages (hspent : run.spentCost = .money spent) (order : List (TokenUsage × Time))
    (hfits : spent.microUnits + (order.map fun entry => entry.1.costMicro).sum ≤ run.maxCost.microUnits) :
    Along RunCall.apply (fun run call => ¬call.Raises run) run (recordUsages order) ∧
    (after RunCall.apply run (recordUsages order)).spentCost =
      .money ⟨spent.microUnits + (order.map fun entry => entry.1.costMicro).sum⟩ := by
  induction order generalizing run spent with
  | nil => exact ⟨trivial, hspent⟩
  | cons entry order ih =>
    rw [List.map_cons, List.sum_cons, ← Nat.add_assoc] at hfits ⊢
    obtain ⟨updatedAt, hon⟩ := recordTokenUsage_on hspent entry.1
      (Nat.le_of_add_right_le hfits) entry.2
    have hcall : (⟨.recordTokenUsage entry.1, entry.2⟩ : RunCall).method.on run = (.ok (), _) := hon
    let recorded : Run :=
      { run with spentCost := .money ⟨spent.microUnits + entry.1.costMicro⟩, updatedAt }
    have hspent' : recorded.spentCost = .money ⟨spent.microUnits + entry.1.costMicro⟩ := rfl
    obtain ⟨hreturns, hafter⟩ := ih hspent' hfits
    rw [recordUsages, List.map_cons, along_cons, after_cons, RunCall.apply_eq hcall]
    exact ⟨⟨RunCall.not_raises hcall, hreturns⟩, hafter⟩

end

/-- The tokens of the sum of usages. -/
theorem totalTokens_sum (usages : List TokenUsage) :
    (usages.foldr (· + ·) 0).totalTokens = (usages.map (·.totalTokens)).sum := by
  induction usages with
  | nil => rfl
  | cons usage usages ih => rw [List.foldr_cons, TokenUsage.totalTokens_add, ih, List.map_cons, List.sum_cons]

/-- The charge of the whole usage, by the charges of its parts and what is left over. -/
theorem costMicro_sum (usages : List TokenUsage) :
    (usages.foldr (· + ·) 0).costMicro =
      (usages.map TokenUsage.costMicro).sum + (usages.map (·.totalTokens % 100)).sum / 100 := by
  rw [TokenUsage.costMicro_eq, totalTokens_sum, sum_div_eq (by decide), List.map_map, List.map_map]
  congr 2
  exact List.map_congr_left fun usage _ => usage.costMicro_eq.symm

/-- **Usage that is recorded in parts is recorded, in any order, and costs the sum of the parts' charges**:
what the whole usage costs exactly if the parts leave over fewer than 100 tokens, and less otherwise. -/
theorem recordUsages_spentCost (run : Run) (usages : List TokenUsage) {spent : Money}
    (hspent : run.spentCost = .money spent)
    (hfits : spent.microUnits + (usages.foldr (· + ·) 0).costMicro ≤ run.maxCost.microUnits)
    {order : List (TokenUsage × Time)} (horder : (order.map Prod.fst).Perm usages) (now : Time) :
    Along RunCall.apply (fun run call => ¬call.Raises run) run (recordUsages order) ∧
    (after RunCall.apply run (recordUsages order)).spentCost =
      .money ⟨spent.microUnits + (usages.map TokenUsage.costMicro).sum⟩ ∧
    ((⟨.recordTokenUsage (usages.foldr (· + ·) 0), now⟩ : RunCall).apply run).spentCost =
      .money ⟨spent.microUnits + ((usages.map TokenUsage.costMicro).sum +
        (usages.map (·.totalTokens % 100)).sum / 100)⟩ ∧
    ((after RunCall.apply run (recordUsages order)).spentCost =
        ((⟨.recordTokenUsage (usages.foldr (· + ·) 0), now⟩ : RunCall).apply run).spentCost ↔
      (usages.map (·.totalTokens % 100)).sum < 100) := by
  have hparts : (order.map fun entry => entry.1.costMicro).sum =
      (usages.map TokenUsage.costMicro).sum := by
    rw [← (horder.map TokenUsage.costMicro).sum_eq, List.map_map]
    rfl
  have hsum := costMicro_sum usages
  obtain ⟨hreturns, hafter⟩ := after_recordUsages hspent order (by omega)
  rw [hparts] at hafter
  obtain ⟨updatedAt, hon⟩ := recordTokenUsage_on hspent _ hfits now
  have hwhole : (⟨.recordTokenUsage (usages.foldr (· + ·) 0), now⟩ : RunCall).method.on run =
    (.ok (), _) := hon
  rw [RunCall.apply_eq hwhole, hafter, hsum]
  refine ⟨hreturns, rfl, rfl, ?_⟩
  rw [SpentCost.money.injEq, Money.mk.injEq]
  omega

/-- A usage of so many prompt tokens. -/
def promptUsage (promptTokens : Nat) : TokenUsage := ⟨promptTokens, 0, promptTokens, rfl⟩

/-- A new run. -/
def newRun : Run where
  id := ⟨1⟩
  createdAt := 0
  updatedAt := 0
  tenantId := ⟨2⟩
  agentVersionId := ⟨3⟩
  idempotencyKey := "key"

/-- Usages of 120 and 250 tokens cost 3 micro-units, each rounded down for itself or both together: what is
rounded off adds up to less than one. -/
theorem recordUsages_spentCost_sample :
    Along RunCall.apply (fun run call => ¬call.Raises run) newRun
      (recordUsages [(promptUsage 120, 1), (promptUsage 250, 2)]) ∧
    (after RunCall.apply newRun (recordUsages [(promptUsage 120, 1), (promptUsage 250, 2)])).spentCost =
      .money ⟨0 + 3⟩ ∧
    ((⟨.recordTokenUsage (promptUsage 250 + (promptUsage 120 + 0)), 3⟩ : RunCall).apply newRun).spentCost =
      .money ⟨0 + (3 + 70 / 100)⟩ ∧
    ((after RunCall.apply newRun (recordUsages [(promptUsage 120, 1), (promptUsage 250, 2)])).spentCost =
        ((⟨.recordTokenUsage (promptUsage 250 + (promptUsage 120 + 0)), 3⟩ : RunCall).apply
          newRun).spentCost ↔
      70 < 100) := by
  have horder : (List.map Prod.fst [(promptUsage 120, (1 : Time)), (promptUsage 250, 2)]).Perm
      [promptUsage 250, promptUsage 120] := .swap _ _ []
  exact recordUsages_spentCost newRun [promptUsage 250, promptUsage 120] rfl (by decide) horder 3

/-- Two usages of 50 tokens cost nothing, and one of 100 does: each is rounded down for itself. -/
theorem not_recordUsages_additive : ¬∀ (run : Run) (spent : Money) (usages : List TokenUsage)
    (order : List (TokenUsage × Time)) (now : Time), run.spentCost = .money spent →
    spent.microUnits + (usages.foldr (· + ·) 0).costMicro ≤ run.maxCost.microUnits →
    (order.map Prod.fst).Perm usages →
      (after RunCall.apply run (recordUsages order)).spentCost =
        ((⟨.recordTokenUsage (usages.foldr (· + ·) 0), now⟩ : RunCall).apply run).spentCost := by
  intro h
  have heq := h newRun 0 [promptUsage 50, promptUsage 50] [(promptUsage 50, 1), (promptUsage 50, 2)] 3 rfl
    (by decide) (.refl _)
  exact absurd heq (by decide)

end AgentRuntime
