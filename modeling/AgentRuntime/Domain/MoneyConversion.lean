import AgentRuntime.Domain.Money
import AgentRuntime.Services.CostService

/-!
# Money and decimals

`Money.to_decimal` and `Money.from_decimal` (`app/domain/value_objects/money.py`), which compute in the default
context of the decimals. An amount is read back from its dollars exactly if its micro-units have no more than
28 digits; a greater one is refused and never becomes another amount (`fromDecimal_toDecimal_eq_ok_iff`).
-/

namespace AgentRuntime

open Interaction Decimal

/-- `ROUND_HALF_UP`, which rounds a half away from zero. -/
def roundHalfUp (x : Rat) : Int := if 0 ≤ x then ⌊x + 1 / 2⌋ else -⌊-x + 1 / 2⌋

/-- `q.quantize(Decimal("1"), rounding=ROUND_HALF_UP)`, which must have the digits of the context. -/
def quantize (q : Rat) : Except PyError Int :=
  if 10 ^ decimalContext.prec ≤ |roundHalfUp q| then .error (.external "decimal.InvalidOperation")
  else .ok (roundHalfUp q)

namespace Money

/-- Convert to Decimal dollars. -/
def toDecimal (self : Money) : Except PyError Rat := decimalResult (self.microUnits / 1000000)

/-- Create Money from Decimal dollars. -/
def fromDecimal (amount : Rat) : Except PyError Money := do
  let micro ← quantize (← decimalResult (amount * 1000000))
  ofInt micro

/-- A whole number is rounded to itself. -/
theorem roundHalfUp_natCast (n : Nat) : roundHalfUp n = n := by
  have hfloor : ⌊(n : Rat) + 1 / 2⌋ = n := by
    rw [Int.floor_eq_iff]
    push_cast
    constructor
    · linarith
    · linarith
  rw [roundHalfUp, if_pos (Nat.cast_nonneg n), hfloor]

/-- Micro-units with the digits of the context are exact, and so are their dollars. -/
theorem decimalResult_microUnits {n : Nat} (h : n < 10 ^ 28) :
    decimalResult (n / 1000000) = .ok ((n : Rat) / 1000000) ∧ decimalResult n = .ok (n : Rat) := by
  have hdigits : HasDigits 28 (n : Rat) := ⟨n, 0, by rw [Int.abs_natCast]; exact_mod_cast h, by simp⟩
  have hnormal : (n : Rat) = 0 ∨ 10 ^ (decimalContext.emin + 6) ≤ (n : Rat) := by
    rcases Nat.eq_zero_or_pos n with hzero | hpos
    · exact Or.inl (by exact_mod_cast hzero)
    · right
      have hemin := decimalContext_emin_le
      have hone : (1 : Rat) ≤ n := by exact_mod_cast hpos
      exact (zpow_le_one_of_nonpos₀ (by norm_num) (by omega)).trans hone
  have hmax : Int.log 10 (n : Rat) ≤ 999999 := by
    rw [Int.log_natCast]
    have hlog : Nat.log 10 n ≤ 28 := (Nat.log_mono_right h.le).trans (by rw [Nat.log_pow (by norm_num)])
    omega
  obtain ⟨hexact, hmillion⟩ := decimalResult_million hdigits (Nat.cast_nonneg n) hnormal hmax
  exact ⟨hmillion, hexact⟩

/-- A result above a power of ten stays above it. -/
theorem zpow_le_of_decimalResult {q r : Rat} {k : Int} (hk : 0 ≤ k) (hq : 10 ^ k ≤ q)
    (hr : decimalResult q = .ok r) : 10 ^ k ≤ r := by
  unfold decimalResult Decimal.Context.fix at hr
  have hprec : 0 < decimalContext.prec := by rw [decimalContext_prec]; decide
  have htiny : decimalContext.etiny ≤ k := by
    have hemin := decimalContext_emin_le
    rw [decimalContext_etiny]
    omega
  have hround := Decimal.Context.zpow_le_round hprec htiny hq
  split_ifs at hr
  cases hr
  exact hround

/-- A number that is not less than a power of ten has too many digits to be quantized. -/
theorem quantize_of_ge {q : Rat} (h : 10 ^ 28 ≤ q) : quantize q = .error (.external "decimal.InvalidOperation") := by
  have hq : 0 ≤ q := le_trans (by positivity) h
  have hround : (10 : Int) ^ 28 ≤ roundHalfUp q := by
    rw [roundHalfUp, if_pos hq, Int.le_floor]
    push_cast
    linarith
  rw [quantize, decimalContext_prec, if_pos (hround.trans (le_abs_self _))]

/-- An amount comes back from its dollars exactly if it has no more than 28 digits, and no other ever does:
the division rounds what is longer, and the constructor refuses a fraction. -/
theorem fromDecimal_toDecimal_eq_ok_iff (m m' : Money) :
    (m.toDecimal >>= fromDecimal) = .ok m' ↔ m' = m ∧ m.microUnits < 10 ^ 28 := by
  rcases Nat.lt_or_ge m.microUnits (10 ^ 28) with hlt | hge
  · obtain ⟨hdollars, hexact⟩ := decimalResult_microUnits hlt
    have hback : (m.microUnits : Rat) / 1000000 * 1000000 = m.microUnits := by
      rw [div_mul_cancel₀ _ (by norm_num)]
    have hquantize : quantize m.microUnits = .ok (m.microUnits : Int) := by
      have hfew : ¬(10 : Int) ^ 28 ≤ |(m.microUnits : Int)| := by
        rw [Int.abs_natCast, not_le]
        exact_mod_cast hlt
      rw [quantize, decimalContext_prec, roundHalfUp_natCast, if_neg hfew]
    have hread : (m.toDecimal >>= fromDecimal) = ofInt m.microUnits := by
      rw [toDecimal, hdollars]
      change fromDecimal (m.microUnits / 1000000) = _
      rw [fromDecimal, hback, hexact]
      change (quantize m.microUnits >>= fun micro => ofInt micro) = _
      rw [hquantize]
      rfl
    rw [hread, ofInt_eq_ok]
    constructor
    · intro h
      refine ⟨?_, hlt⟩
      cases m
      cases m'
      exact congrArg Money.mk (Int.ofNat.inj h).symm
    · rintro ⟨rfl, -⟩
      rfl
  · refine ⟨fun h => ?_, fun h => absurd h.2 (Nat.not_lt.2 hge)⟩
    -- both roundings leave at least 29 digits
    obtain ⟨dollars, hdollars, h⟩ := bind_eq_ok.1 h
    obtain ⟨micro, hmicro, h⟩ := bind_eq_ok.1 h
    obtain ⟨n, hn, -⟩ := bind_eq_ok.1 h
    have hgeRat : (10 : Rat) ^ 28 ≤ m.microUnits := by exact_mod_cast hge
    have hdollarsGe : (10 : Rat) ^ (22 : Int) ≤ dollars := by
      refine zpow_le_of_decimalResult (by decide) ?_ hdollars
      rw [le_div_iff₀ (by norm_num)]
      exact le_trans (by norm_num) hgeRat
    have hmicroGe : (10 : Rat) ^ (28 : Int) ≤ micro := by
      refine zpow_le_of_decimalResult (by decide) ?_ hmicro
      exact le_trans (by norm_num) (mul_le_mul_of_nonneg_right hdollarsGe (by norm_num : (0 : Rat) ≤ 1000000))
    rw [quantize_of_ge (by exact_mod_cast hmicroGe)] at hn
    cases hn

end Money

end AgentRuntime
