import AgentRuntime.Domain.RunOperation
import AgentRuntime.Interaction.BigStep
import AgentRuntime.Services.CostService
import AgentRuntime.Services.RunServices

/-!
# The cost of provider usage, recorded on a run

Each call of `record_provider_usage` adds a cost that is rounded to an integer, or nothing where it is zero.
After `n` calls that all succeed, what the run has spent is within `n / 2` of what the tokens cost.
-/

namespace AgentRuntime

open Interaction Decimal

/-- The amount that the run has spent, in micro-units. -/
def SpentCost.value : SpentCost → Int
  | .money m => m.microUnits
  | .int n => n

/-- A call of `record_provider_usage`, with the cost service as the call finds it. -/
structure ProviderUsage where
  costService : CostService
  provider : String
  model : String
  promptTokens : Int
  completionTokens : Int

namespace ProviderUsage

def pricing (self : ProviderUsage) : CostCalculation := self.costService.pricing self.provider self.model

/-- What the tokens cost. -/
def exactCost (self : ProviderUsage) : Rat := self.pricing.exactCost self.promptTokens self.completionTokens

def WithinDigits (self : ProviderUsage) : Prop :=
  self.pricing.WithinDigits self.promptTokens self.completionTokens

def record (self : ProviderUsage) (runId : UUID) : Service Unit Unit :=
  BudgetService.recordProviderUsage self.costService.calculateCost runId self.provider self.model
    self.promptTokens self.completionTokens

end ProviderUsage

/-- The run is found, as far as the repository answers, and an update is durable: what the run had spent
then is what it has spent later. -/
structure DurableRun {W : Type} (env : CallEnv W) (runId : UUID) (stored : W → Run) : Prop where
  ofRun : ∀ w, (stored w).id = runId
  get : ∀ w, (∃ e, (env (.runGet runId) w).1 = .error e) ∨ (env (.runGet runId) w).1 = .ok (some (stored w))
  update : ∀ run w updated, run.id = runId → (env (.runUpdate run) w).1 = .ok updated →
    (stored (env (.runUpdate run) w).2).spentCost.value = run.spentCost.value

/-- The calls are made one after another, and all succeed. -/
def RecordsAll {W : Type} (env : CallEnv W) (runId : UUID) : W → List ProviderUsage → W → Prop
  | w, [], w' => w = w'
  | w, usage :: usages, w' =>
    ∃ w₁, Proc.Ends env w (usage.record runId) (.ok ()) w₁ ∧ RecordsAll env runId w₁ usages w'

section
variable {W : Type} {env : CallEnv W} {runId : UUID} {stored : W → Run} {w w' : W}

/-- A cost that is recorded is added to money. -/
theorem Run.spentCost_of_recordCost {run run' : Run} {cost : Money} {now : Time}
    (h : (Run.recordCost cost now).on run = (.ok (), run')) :
    run'.id = run.id ∧ run'.spentCost.value = run.spentCost.value + cost.microUnits := by
  cases hspent : run.spentCost with
  | int n =>
    rw [RunOperation.recordCost_on_int hspent] at h
    cases h
  | money m =>
    rw [RunOperation.recordCost_on_money hspent] at h
    split_ifs at h with hmax
    · cases h
    · obtain rfl := congrArg Prod.snd h
      exact ⟨rfl, by simp [SpentCost.value]⟩

/-- A recorded cost is added to what the run has spent. -/
theorem DurableRun.recordSpent (h : DurableRun env runId stored) {cost : Money} {provider model : String}
    (hends : Proc.Ends env w (BudgetService.recordSpent runId cost provider model) (.ok ()) w') :
    (stored w').spentCost.value = (stored w).spentCost.value + cost.microUnits := by
  unfold BudgetService.recordSpent at hends
  obtain ⟨e, -, he⟩ | ⟨found, w₁, hget, hends⟩ := hends.of_bind
  · cases he
  obtain ⟨hfound, rfl⟩ := hget.unique (Proc.ends_tryCall _ _)
  have hfound : found = some (stored w) := by
    rcases h.get w with ⟨e, he⟩ | hok
    · rw [he] at hfound
      cases hfound
    · rw [hok] at hfound
      exact Except.ok.inj hfound
  subst hfound
  obtain ⟨run', hends⟩ := hends.of_withObject
  obtain ⟨now, run₁, w₂, hnow, hends⟩ := hends.of_bind
  obtain ⟨-, rfl, rfl⟩ := hnow.unique (Proc.endsOn_call _)
  obtain ⟨⟨⟩, recorded, w₃, hrecord, hends⟩ := hends.of_bind
  obtain ⟨x, run₂, hon⟩ : ∃ x run₂, (Run.recordCost cost now).on (stored w) = (x, run₂) := ⟨_, _, rfl⟩
  obtain ⟨rfl, rfl, rfl⟩ := hrecord.unique (Proc.endsOn_method hon)
  obtain ⟨hid, hspent⟩ := Run.spentCost_of_recordCost hon
  obtain ⟨run₃, run₄, w₄, hrun, hends⟩ := hends.of_bind
  obtain ⟨hself, rfl, rfl⟩ := hrun.unique Proc.endsOn_get
  obtain rfl := Except.ok.inj hself
  obtain ⟨updated, run₅, w₅, hupdate, hends⟩ := hends.of_bind
  obtain ⟨hupdated, rfl, rfl⟩ := hupdate.unique (Proc.endsOn_tryCall _ _)
  -- what follows makes no call
  obtain ⟨total, run₆, w₆, htotal, hevent⟩ := hends.of_bind
  obtain ⟨-, -, rfl⟩ := htotal.unique (Proc.endsOn_ofExcept _)
  obtain ⟨-, -, rfl⟩ := hevent.unique (Proc.endsOn_method rfl)
  rw [h.update _ _ updated (hid.trans (h.ofRun w)) hupdated.symm, hspent]

/-- A call records the rounded cost, unless it is zero. -/
theorem ProviderUsage.record_eq (usage : ProviderUsage) (hwithin : usage.WithinDigits) :
    usage.record runId = if 0 < roundHalfEven usage.exactCost then
      BudgetService.recordSpent runId ⟨(roundHalfEven usage.exactCost).toNat⟩ usage.provider usage.model
      else pure () := by
  have hcost : usage.costService.calculateCost usage.provider usage.model usage.promptTokens
      usage.completionTokens = .ok (roundHalfEven usage.exactCost) := CostCalculation.calculateCost_eq hwithin
  rw [record, BudgetService.recordProviderUsage, hcost]
  rfl

/-- What a call that succeeds adds is the rounded cost. -/
theorem DurableRun.record (h : DurableRun env runId stored) {usage : ProviderUsage}
    (hwithin : usage.WithinDigits) (hends : Proc.Ends env w (usage.record runId) (.ok ()) w') :
    (stored w').spentCost.value = (stored w).spentCost.value + roundHalfEven usage.exactCost := by
  have hnonneg : 0 ≤ roundHalfEven usage.exactCost := by
    rw [← roundHalfEven_zero]
    exact roundHalfEven_mono hwithin.exactCost_nonneg
  rw [usage.record_eq hwithin] at hends
  split_ifs at hends with hpos
  · rw [h.recordSpent hends]
    simp [hnonneg]
  · obtain ⟨-, rfl⟩ := hends.unique (Proc.ends_pure ())
    rw [show roundHalfEven usage.exactCost = 0 by omega, add_zero]

/-- What the calls add is the sum of the rounded costs. -/
theorem DurableRun.recordsAll (h : DurableRun env runId stored) {usages : List ProviderUsage}
    (hwithin : ∀ usage ∈ usages, usage.WithinDigits) (hrecords : RecordsAll env runId w usages w') :
    (stored w').spentCost.value =
      (stored w).spentCost.value + (usages.map fun usage => roundHalfEven usage.exactCost).sum := by
  induction usages generalizing w with
  | nil => rw [hrecords, List.map_nil, List.sum_nil, add_zero]
  | cons usage usages ih =>
    obtain ⟨w₁, hends, hrest⟩ := hrecords
    rw [ih (fun u hu => hwithin u (List.mem_cons_of_mem usage hu)) hrest,
      h.record (hwithin usage List.mem_cons_self) hends, List.map_cons, List.sum_cons, add_assoc]

end

/-- Costs that are rounded one by one are within half a unit each of the exact ones. -/
theorem abs_sum_roundHalfEven_sub_le (costs : List Rat) :
    |((costs.map roundHalfEven).sum : Rat) - costs.sum| ≤ costs.length / 2 := by
  induction costs with
  | nil => simp
  | cons cost costs ih =>
    have hcost := abs_sub_roundHalfEven_le cost
    rw [abs_sub_comm] at hcost
    rw [List.map_cons, List.sum_cons, List.sum_cons, List.length_cons, Int.cast_add, Nat.cast_add,
      Nat.cast_one]
    calc |(roundHalfEven cost + ((costs.map roundHalfEven).sum : Rat)) - (cost + costs.sum)|
        = |((roundHalfEven cost : Rat) - cost) + (((costs.map roundHalfEven).sum : Rat) - costs.sum)| := by
          rw [add_sub_add_comm]
      _ ≤ |(roundHalfEven cost : Rat) - cost| + |((costs.map roundHalfEven).sum : Rat) - costs.sum| :=
          abs_add_le _ _
      _ ≤ (costs.length + 1) / 2 := by linarith

/-- Within the digits, a cost is the integer nearest to what the tokens cost, of two the even one, and more
tokens cost no less; and what a run has spent after calls that all succeed is within half a unit for each of
what their tokens cost. -/
theorem CostService.errorBound (self : CostService) (provider model : String) :
    (∀ promptTokens completionTokens,
      (self.pricing provider model).WithinDigits promptTokens completionTokens →
      ∃ cost, self.calculateCost provider model promptTokens completionTokens = .ok cost ∧
        IsNearest ((self.pricing provider model).exactCost promptTokens completionTokens) cost) ∧
    (∀ promptTokens completionTokens promptTokens' completionTokens' cost cost',
      (self.pricing provider model).WithinDigits promptTokens completionTokens →
      (self.pricing provider model).WithinDigits promptTokens' completionTokens' →
      promptTokens ≤ promptTokens' → completionTokens ≤ completionTokens' →
      self.calculateCost provider model promptTokens completionTokens = .ok cost →
      self.calculateCost provider model promptTokens' completionTokens' = .ok cost' → cost ≤ cost') ∧
    ∀ (W : Type) (env : CallEnv W) (runId : UUID) (stored : W → Run), DurableRun env runId stored →
      ∀ (w w' : W) (usages : List ProviderUsage), (∀ usage ∈ usages, usage.WithinDigits) →
        RecordsAll env runId w usages w' →
        |(((stored w').spentCost.value - (stored w).spentCost.value : Int) : Rat) -
          (usages.map ProviderUsage.exactCost).sum| ≤ usages.length / 2 := by
  refine ⟨fun promptTokens completionTokens h => ?_, ?_, ?_⟩
  · exact ⟨_, CostCalculation.calculateCost_eq h, isNearest_roundHalfEven _⟩
  · intro promptTokens completionTokens promptTokens' completionTokens' cost cost' h h' hprompt hcompletion
      hcost hcost'
    rw [CostService.calculateCost, CostCalculation.calculateCost_eq h] at hcost
    rw [CostService.calculateCost, CostCalculation.calculateCost_eq h'] at hcost'
    obtain rfl := Except.ok.inj hcost
    obtain rfl := Except.ok.inj hcost'
    exact roundHalfEven_mono (CostCalculation.exactCost_mono h.prices hprompt hcompletion)
  · intro W env runId stored hdurable w w' usages hwithin hrecords
    have hsum := abs_sum_roundHalfEven_sub_le (usages.map ProviderUsage.exactCost)
    rw [List.map_map, List.length_map] at hsum
    rw [hdurable.recordsAll hwithin hrecords, add_sub_cancel_left]
    exact hsum

/-- A repository with one run, of which it keeps what the run has spent. -/
def spentRun (spent : SpentCost) : Run := { Run.sample .running [] with spentCost := spent }

def spentEnv : CallEnv SpentCost
  | .runGet _, spent => (.ok (some (spentRun spent)), spent)
  | .runUpdate run, _ => (.ok run, run.spentCost)
  | o, spent => (o.quiet, spent)

/-- The environment of the sample loads what it has stored. -/
theorem durableRun_spentEnv : DurableRun spentEnv (Run.sample .running []).id spentRun where
  ofRun _ := rfl
  get _ := .inr rfl
  update _ _ _ _ _ := rfl

/-- A call for a prompt, of a provider without pricing. -/
def promptOf (promptTokens : Int) : ProviderUsage := ⟨{}, "fake", "m", promptTokens, 0⟩

/-- A token of the sample's prompt costs a hundredth of a micro-unit. -/
theorem exactCost_promptOf (promptTokens : Int) : (promptOf promptTokens).exactCost = promptTokens / 100 := by
  have hpricing : (promptOf promptTokens).pricing = ⟨"fake", "m", 1 / 100, 2 / 100⟩ := rfl
  rw [ProviderUsage.exactCost, hpricing, CostCalculation.exactCost]
  simp [promptOf, div_eq_mul_inv]

/-- Its prompts are within the digits of the context. -/
theorem withinDigits_promptOf {promptTokens : Int} (hnonneg : 0 ≤ promptTokens) (hle : promptTokens ≤ 1000) :
    (promptOf promptTokens).WithinDigits := by
  have hdigits : HasDigits 28 ((promptTokens : Rat) / 100) :=
    ⟨promptTokens, -2, by rw [abs_of_nonneg hnonneg]; omega, by norm_num [div_eq_mul_inv]⟩
  have hexact := exactCost_promptOf promptTokens
  constructor
  · exact ⟨hnonneg, Int.le_refl 0⟩
  · exact ⟨(by norm_num : (0 : Rat) ≤ 1 / 100), (by norm_num : (0 : Rat) ≤ 2 / 100)⟩
  · change HasDigits 28 ((promptTokens : Rat) * (1 / 100))
    rwa [mul_one_div]
  · change HasDigits 28 (((0 : Int) : Rat) * (2 / 100))
    rw [Int.cast_zero, zero_mul]
    exact hasDigits_zero 28
  · change HasDigits 28 (promptOf promptTokens).exactCost
    rwa [hexact]
  · change Int.log 10 (promptOf promptTokens).exactCost ≤ 999999
    rw [hexact]
    have hcast : (promptTokens : Rat) ≤ 1000 := by exact_mod_cast hle
    have hten : Int.log 10 (10 : Rat) ≤ 999999 := by
      rw [Int.log_ofNat]
      decide
    exact log_le_of_le (by positivity) (by linarith) (by decide) hten

/-- A call that costs one and a half is charged two, and one that costs a half is charged nothing. -/
theorem CostService.errorBound_twoPrompts :
    (∃ cost, CostService.calculateCost {} "fake" "m" 150 0 = .ok cost ∧
      IsNearest (promptOf 150).exactCost cost) ∧
    (∀ cost cost', CostService.calculateCost {} "fake" "m" 50 0 = .ok cost →
      CostService.calculateCost {} "fake" "m" 150 0 = .ok cost' → cost ≤ cost') ∧
    |(((spentRun (.money ⟨2⟩)).spentCost.value - (spentRun (.money ⟨0⟩)).spentCost.value : Int) : Rat) -
      ([promptOf 150, promptOf 50].map ProviderUsage.exactCost).sum| ≤
        ([promptOf 150, promptOf 50].length : Rat) / 2 := by
  have hlarge : (promptOf 150).WithinDigits := withinDigits_promptOf (by decide) (by decide)
  have hsmall : (promptOf 50).WithinDigits := withinDigits_promptOf (by decide) (by decide)
  have hrounded : roundHalfEven (promptOf 150).exactCost = 2 := by
    rw [exactCost_promptOf]
    norm_num [roundHalfEven]
  have hzero : roundHalfEven (promptOf 50).exactCost = 0 := by
    rw [exactCost_promptOf]
    norm_num [roundHalfEven]
  have hrecords : RecordsAll spentEnv (Run.sample .running []).id (.money ⟨0⟩)
      [promptOf 150, promptOf 50] (.money ⟨2⟩) := by
    refine ⟨.money ⟨2⟩, ?_, .money ⟨2⟩, ?_, rfl⟩
    · rw [(promptOf 150).record_eq hlarge, hrounded]
      exact ⟨rfl, rfl⟩
    · rw [(promptOf 50).record_eq hsmall, hzero]
      exact Proc.ends_pure ()
  obtain ⟨hnearest, hmono, hsum⟩ := CostService.errorBound {} "fake" "m"
  refine ⟨hnearest 150 0 hlarge,
    fun cost cost' => hmono 50 0 150 0 cost cost' hsmall hlarge (by decide) (by decide),
    hsum SpentCost spentEnv _ spentRun durableRun_spentEnv _ _ _ ?_ hrecords⟩
  simp [hlarge, hsmall]

end AgentRuntime
