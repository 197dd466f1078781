import AgentRuntime.Python.Decimals
import AgentRuntime.Python.Values
import AgentRuntime.Interaction.Method
import Mathlib.Data.List.AList

/-!
# The cost service

`CostService` (`app/application/services/cost_service.py`) and `CostCalculation`
(`app/domain/providers/value_objects.py`): the price of a provider's tokens, in micro-units. A price is the
number that its decimal stands for. The default context of the decimals bounds the digits and the exponents
of each result; a result that overflows raises.

Where the products of the tokens with their prices, and their sum, have no more digits than the context, the
cost is the integer nearest to that sum, of two the even one (`calculateCost_eq`): the division by a million
and the multiplication are then exact, or the sum is too small to count.
-/

namespace AgentRuntime

open Interaction Decimal

/-- The default context of Python's decimals. -/
@[irreducible] def decimalContext : Decimal.Context := { prec := 28, emin := -999999, emax := 999999 }

/-- The result of an operation on decimals. -/
def decimalResult (q : Rat) : Except PyError Rat :=
  match decimalContext.fix q with
  | some r => .ok r
  | none => .error (.external "decimal.Overflow")

/-- Cost calculation for a provider and model. -/
structure CostCalculation where
  provider : String
  model : String
  promptPriceUsdPer1m : Rat
  completionPriceUsdPer1m : Rat
  deriving DecidableEq, Repr

namespace CostCalculation

variable (self : CostCalculation)

/-- Calculate cost in micro-units. -/
def calculateCost (promptTokens completionTokens : Int) : Except PyError Int :=
  if promptTokens < 0 ∨ completionTokens < 0 then
    .error (.valueError "Token counts cannot be negative")
  else do
    let promptCostUsd ← decimalResult ((← decimalResult (promptTokens * self.promptPriceUsdPer1m)) / 1000000)
    let completionCostUsd ←
      decimalResult ((← decimalResult (completionTokens * self.completionPriceUsdPer1m)) / 1000000)
    let totalCostUsd ← decimalResult (promptCostUsd + completionCostUsd)
    return roundHalfEven (← decimalResult (totalCostUsd * 1000000))

end CostCalculation

/-- Service for calculating costs based on provider usage and pricing. -/
structure CostService where
  pricingConfig : AList fun _ : String => CostCalculation := ∅

namespace CostService

variable (self : CostService) (provider model : String)

/-- `provider:model`. -/
def pricingKey : String := s!"{provider}:{model}"

/-- Get pricing configuration for a provider and model. -/
def getPricing : Option CostCalculation := self.pricingConfig.lookup (pricingKey provider model)

/-- The pricing that a cost is calculated with: without one, the default. -/
def pricing : CostCalculation :=
  (self.getPricing provider model).getD
    { provider, model, promptPriceUsdPer1m := 1 / 100, completionPriceUsdPer1m := 2 / 100 }

/-- Calculate cost in micro-units for a provider request. -/
def calculateCost (promptTokens completionTokens : Int) : Except PyError Int :=
  (self.pricing provider model).calculateCost promptTokens completionTokens

end CostService

namespace CostCalculation

/-- What the tokens cost, in micro-units. -/
def exactCost (self : CostCalculation) (promptTokens completionTokens : Int) : Rat :=
  promptTokens * self.promptPriceUsdPer1m + completionTokens * self.completionPriceUsdPer1m

/-- Counts and prices that are not negative, whose products and sum have at most 28 digits, within the
exponents of the context. -/
structure WithinDigits (pricing : CostCalculation) (promptTokens completionTokens : Int) : Prop where
  tokens : 0 ≤ promptTokens ∧ 0 ≤ completionTokens
  prices : 0 ≤ pricing.promptPriceUsdPer1m ∧ 0 ≤ pricing.completionPriceUsdPer1m
  prompt : HasDigits 28 (promptTokens * pricing.promptPriceUsdPer1m)
  completion : HasDigits 28 (completionTokens * pricing.completionPriceUsdPer1m)
  total : HasDigits 28 (pricing.exactCost promptTokens completionTokens)
  overflow : Int.log 10 (pricing.exactCost promptTokens completionTokens) ≤ 999999

end CostCalculation

/-! ## Exact results -/

/-- A result that the context can represent is returned as it is. -/
theorem decimalResult_of_fix {q r : Rat} (h : decimalContext.fix q = some r) : decimalResult q = .ok r := by
  unfold decimalResult
  simp only [h]

/-- The default context has 28 digits. -/
theorem decimalContext_prec : decimalContext.prec = 28 := by
  unfold decimalContext
  rfl

/-- Its greatest exponent is 999999. -/
theorem decimalContext_emax : decimalContext.emax = 999999 := by
  unfold decimalContext
  rfl

/-- Its least exponent leaves room for the products and quotients of prices and tokens. -/
theorem decimalContext_emin_le : decimalContext.emin + 34 ≤ -9 := by
  unfold decimalContext
  decide

/-- The least exponent of a last digit is 27 below. -/
theorem decimalContext_etiny : decimalContext.etiny = decimalContext.emin - 27 := by
  rw [Decimal.Context.etiny, decimalContext_prec]
  omega

/-- A result with no more digits than the context, that is neither too small nor too large, is exact. -/
theorem decimalResult_of_hasDigits {q : Rat} (h : HasDigits 28 q) (hnonneg : 0 ≤ q)
    (hnormal : q = 0 ∨ 10 ^ decimalContext.emin ≤ q) (hmax : Int.log 10 q ≤ 999999) :
    decimalResult q = .ok q := by
  have hfix : decimalContext.fix q = some q := by
    rw [← decimalContext_prec] at h
    rw [← decimalContext_emax, ← abs_of_nonneg hnonneg] at hmax
    refine Decimal.Context.fix_of_hasDigits h (fun hq => ?_) hmax
    have hle := hnormal.resolve_left hq
    rw [abs_of_nonneg hnonneg, ← Int.zpow_le_iff_le_log (by norm_num) (hnonneg.lt_of_ne' hq)]
    exact_mod_cast hle
  exact decimalResult_of_fix hfix

/-- A small result stays small. -/
theorem exists_decimalResult_le {q b : Rat} (h : 0 ≤ q) (hb : q ≤ b) (htiny : 10 ^ decimalContext.etiny ≤ b)
    (hone : 2 * b ≤ 1) : ∃ r, decimalResult q = .ok r ∧ 0 ≤ r ∧ r ≤ 2 * b := by
  have hprec : 0 < decimalContext.prec := by rw [decimalContext_prec]; decide
  have hmax : 0 ≤ decimalContext.emax := by rw [decimalContext_emax]; decide
  obtain ⟨r, hr, hnonneg, hle⟩ := Decimal.Context.exists_fix_le hprec hmax h hb htiny hone
  exact ⟨r, decimalResult_of_fix hr, hnonneg, hle⟩

/-- A part of a number that does not overflow does not. -/
theorem log_le_of_le {p q : Rat} {n : Int} (hp : 0 ≤ p) (hle : p ≤ q) (hn : 0 ≤ n) (hq : Int.log 10 q ≤ n) :
    Int.log 10 p ≤ n := by
  rcases hp.eq_or_lt with rfl | hpos
  · rwa [Int.log_zero_right]
  · exact (Int.log_mono_right hpos hle).trans hq

/-- A number with enough digits that is not too small is exact, and so is its millionth. -/
theorem decimalResult_million {q : Rat} (h : HasDigits 28 q) (hnonneg : 0 ≤ q)
    (hnormal : q = 0 ∨ 10 ^ (decimalContext.emin + 6) ≤ q) (hmax : Int.log 10 q ≤ 999999) :
    decimalResult q = .ok q ∧ decimalResult (q / 1000000) = .ok (q / 1000000) := by
  have hten : (1 : Rat) < 10 := by norm_num
  have hdiv : q / 1000000 = q * 10 ^ (-6 : Int) := by norm_num [div_eq_mul_inv]
  constructor
  · refine decimalResult_of_hasDigits h hnonneg (hnormal.imp_right fun hle => ?_) hmax
    exact (zpow_le_zpow_right₀ hten.le (by omega)).trans hle
  · refine decimalResult_of_hasDigits ?_ (by positivity) ?_ ?_
    · rw [hdiv]
      exact h.mul_zpow (-6)
    · refine hnormal.imp (fun hq => by rw [hq, zero_div]) fun hle => ?_
      rw [le_div_iff₀ (by norm_num)]
      rw [zpow_add₀ (by norm_num)] at hle
      exact_mod_cast hle
    · exact log_le_of_le (by positivity) (div_le_self hnonneg (by norm_num)) (by decide) hmax

/-- A small number and its millionth stay small. -/
theorem exists_decimalResult_million_le {q b : Rat} (h : 0 ≤ q) (hb : q ≤ b)
    (htiny : 10 ^ decimalContext.etiny ≤ b) (hone : 4 * b ≤ 1) :
    ∃ r usd, decimalResult q = .ok r ∧ decimalResult (r / 1000000) = .ok usd ∧ 0 ≤ usd ∧ usd ≤ 4 * b := by
  obtain ⟨r, hr, hr₀, hrb⟩ := exists_decimalResult_le h hb htiny (by linarith)
  have hdiv : r / 1000000 ≤ 2 * b := (div_le_self hr₀ (by norm_num)).trans hrb
  obtain ⟨usd, husd, husd₀, husdb⟩ := exists_decimalResult_le (div_nonneg hr₀ (by norm_num)) hdiv
    (by linarith) (by linarith)
  exact ⟨r, usd, hr, husd, husd₀, by linarith⟩

namespace CostCalculation

variable {self : CostCalculation} {promptTokens completionTokens : Int}

/-- The cost of the prompt is not negative. -/
theorem WithinDigits.prompt_nonneg (h : self.WithinDigits promptTokens completionTokens) :
    0 ≤ promptTokens * self.promptPriceUsdPer1m :=
  mul_nonneg (by exact_mod_cast h.tokens.1) h.prices.1

/-- Neither is that of the completion. -/
theorem WithinDigits.completion_nonneg (h : self.WithinDigits promptTokens completionTokens) :
    0 ≤ completionTokens * self.completionPriceUsdPer1m :=
  mul_nonneg (by exact_mod_cast h.tokens.2) h.prices.2

/-- Neither is their sum. -/
theorem WithinDigits.exactCost_nonneg (h : self.WithinDigits promptTokens completionTokens) :
    0 ≤ self.exactCost promptTokens completionTokens :=
  add_nonneg h.prompt_nonneg h.completion_nonneg

/-- The steps of the calculation. -/
theorem calculateCost_of_steps (htokens : 0 ≤ promptTokens ∧ 0 ≤ completionTokens)
    {prompt promptUsd completion completionUsd totalUsd total : Rat}
    (hprompt : decimalResult (promptTokens * self.promptPriceUsdPer1m) = .ok prompt)
    (hpromptUsd : decimalResult (prompt / 1000000) = .ok promptUsd)
    (hcompletion : decimalResult (completionTokens * self.completionPriceUsdPer1m) = .ok completion)
    (hcompletionUsd : decimalResult (completion / 1000000) = .ok completionUsd)
    (htotalUsd : decimalResult (promptUsd + completionUsd) = .ok totalUsd)
    (htotal : decimalResult (totalUsd * 1000000) = .ok total) :
    self.calculateCost promptTokens completionTokens = .ok (roundHalfEven total) := by
  have hnonneg : ¬(promptTokens < 0 ∨ completionTokens < 0) := by omega
  rw [calculateCost, if_neg hnonneg, hprompt]
  simp only [bind, Except.bind, hpromptUsd, hcompletion, hcompletionUsd, htotalUsd, htotal]
  rfl

/-- A cost that is not too small is exact up to the last step. -/
theorem calculateCost_of_le (h : self.WithinDigits promptTokens completionTokens)
    (hle : 10 ^ (decimalContext.emin + 34) ≤ self.exactCost promptTokens completionTokens) :
    self.calculateCost promptTokens completionTokens =
      .ok (roundHalfEven (self.exactCost promptTokens completionTokens)) := by
  have hexponent : decimalContext.emin + 34 - (28 : Nat) = decimalContext.emin + 6 := by omega
  have hprompt := HasDigits.eq_zero_or_zpow_le (by decide) h.completion h.total h.prompt_nonneg hle
  have hcompletion := HasDigits.eq_zero_or_zpow_le (by decide) h.prompt
    (by rw [add_comm]; exact h.total) h.completion_nonneg (by rw [add_comm]; exact hle)
  rw [hexponent] at hprompt hcompletion
  have htotal : 10 ^ (decimalContext.emin + 6) ≤ self.exactCost promptTokens completionTokens :=
    (zpow_le_zpow_right₀ (by norm_num) (by omega)).trans hle
  obtain ⟨hpromptExact, hpromptUsd⟩ := decimalResult_million h.prompt h.prompt_nonneg hprompt
    (log_le_of_le h.prompt_nonneg (le_add_of_nonneg_right h.completion_nonneg) (by decide) h.overflow)
  obtain ⟨hcompletionExact, hcompletionUsd⟩ := decimalResult_million h.completion h.completion_nonneg
    hcompletion (log_le_of_le h.completion_nonneg (le_add_of_nonneg_left h.prompt_nonneg) (by decide)
      h.overflow)
  obtain ⟨htotalExact, htotalUsd⟩ := decimalResult_million h.total h.exactCost_nonneg (.inr htotal) h.overflow
  rw [exactCost, add_div] at htotalUsd
  refine calculateCost_of_steps h.tokens hpromptExact hpromptUsd hcompletionExact hcompletionUsd htotalUsd ?_
  rw [← add_div, div_mul_cancel₀ _ (by norm_num)]
  exact htotalExact

/-- A cost that is too small for the digits is nothing, however its parts are rounded. -/
theorem calculateCost_of_lt (h : self.WithinDigits promptTokens completionTokens)
    (hlt : self.exactCost promptTokens completionTokens < 10 ^ (decimalContext.emin + 34)) :
    self.calculateCost promptTokens completionTokens = .ok 0 := by
  have hten : (1 : Rat) ≤ 10 := by norm_num
  obtain ⟨b, hb⟩ : ∃ b : Rat, b = 10 ^ (decimalContext.emin + 34) := ⟨_, rfl⟩
  have hsmall : b ≤ 10 ^ (-9 : Int) := hb ▸ zpow_le_zpow_right₀ hten decimalContext_emin_le
  have htiny : 10 ^ decimalContext.etiny ≤ b := by
    rw [hb, decimalContext_etiny]
    exact zpow_le_zpow_right₀ hten (by omega)
  norm_num at hsmall
  have hpos : 0 < b := hb ▸ zpow_pos (by norm_num) _
  rw [← hb] at hlt
  have hprompt : promptTokens * self.promptPriceUsdPer1m ≤ b :=
    (le_add_of_nonneg_right h.completion_nonneg).trans hlt.le
  have hcompletion : completionTokens * self.completionPriceUsdPer1m ≤ b :=
    (le_add_of_nonneg_left h.prompt_nonneg).trans hlt.le
  obtain ⟨p, pUsd, hp, hpUsd, hp₀, hpb⟩ :=
    exists_decimalResult_million_le h.prompt_nonneg hprompt htiny (by linarith)
  obtain ⟨c, cUsd, hc, hcUsd, hc₀, hcb⟩ :=
    exists_decimalResult_million_le h.completion_nonneg hcompletion htiny (by linarith)
  have hsum : pUsd + cUsd ≤ 8 * b := by linarith
  obtain ⟨t, ht, ht₀, htb⟩ := exists_decimalResult_le (add_nonneg hp₀ hc₀) hsum (by linarith) (by linarith)
  have hproduct : t * 1000000 ≤ 16000000 * b := by linarith
  obtain ⟨u, hu, hu₀, hub⟩ := exists_decimalResult_le (mul_nonneg ht₀ (by norm_num)) hproduct (by linarith)
    (by linarith)
  rw [calculateCost_of_steps h.tokens hp hpUsd hc hcUsd ht hu, roundHalfEven_eq_zero hu₀ (by linarith)]

/-- Within the digits, the cost is the exact one, rounded to an integer. -/
theorem calculateCost_eq (h : self.WithinDigits promptTokens completionTokens) :
    self.calculateCost promptTokens completionTokens =
      .ok (roundHalfEven (self.exactCost promptTokens completionTokens)) := by
  rcases le_or_gt (10 ^ (decimalContext.emin + 34)) (self.exactCost promptTokens completionTokens)
    with hle | hlt
  · exact calculateCost_of_le h hle
  · have hone : (10 : Rat) ^ (decimalContext.emin + 34) ≤ 10 ^ (-9 : Int) :=
      zpow_le_zpow_right₀ (by norm_num) decimalContext_emin_le
    norm_num at hone
    rw [calculateCost_of_lt h hlt, roundHalfEven_eq_zero h.exactCost_nonneg (by linarith)]

/-- More tokens do not cost less. -/
theorem exactCost_mono (hprices : 0 ≤ self.promptPriceUsdPer1m ∧ 0 ≤ self.completionPriceUsdPer1m)
    {promptTokens' completionTokens' : Int} (hprompt : promptTokens ≤ promptTokens')
    (hcompletion : completionTokens ≤ completionTokens') :
    self.exactCost promptTokens completionTokens ≤ self.exactCost promptTokens' completionTokens' :=
  add_le_add (mul_le_mul_of_nonneg_right (by exact_mod_cast hprompt) hprices.1)
    (mul_le_mul_of_nonneg_right (by exact_mod_cast hcompletion) hprices.2)

end CostCalculation

end AgentRuntime
