import Mathlib.Algebra.Order.Round
import Mathlib.Data.Int.Log
import Mathlib.Data.Rat.Floor
import Mathlib.Tactic.FieldSimp
import Mathlib.Tactic.Linarith
import Mathlib.Tactic.Positivity

/-!
# Decimal arithmetic

The arithmetic of decimal numbers with a bounded number of digits, on the numbers themselves: an operation
rounds its exact result to the digits of the context, half to even, and to the least exponent that the
context has (`Context.fix`). A result that has no more digits and no smaller exponent is exact
(`Context.fix_of_hasDigits`).
-/

namespace Decimal

/-- The nearest integer, of two the even one. -/
def roundHalfEven (x : Rat) : Int :=
  if Int.fract x < 1 / 2 then ⌊x⌋
  else if 1 / 2 < Int.fract x then ⌊x⌋ + 1
  else if ⌊x⌋ % 2 = 0 then ⌊x⌋
  else ⌊x⌋ + 1

/-- An integer is rounded to itself. -/
@[simp] theorem roundHalfEven_intCast (n : Int) : roundHalfEven n = n := by
  simp [roundHalfEven]

/-- So is zero. -/
@[simp] theorem roundHalfEven_zero : roundHalfEven 0 = 0 := roundHalfEven_intCast 0

/-- Rounding moves a number by half at most. -/
theorem abs_sub_roundHalfEven_le (x : Rat) : |x - roundHalfEven x| ≤ 1 / 2 := by
  have hfract : x = ⌊x⌋ + Int.fract x := (Int.floor_add_fract x).symm
  have hnonneg := Int.fract_nonneg x
  have hlt := Int.fract_lt_one x
  unfold roundHalfEven
  split_ifs <;> push_cast <;> rw [abs_le] <;> constructor <;> linarith

/-- The integer is nearest to the number, and even where another is as near. -/
structure IsNearest (x : Rat) (n : Int) : Prop where
  near : ∀ m : Int, |x - n| ≤ |x - m|
  even : ∀ m : Int, m ≠ n → |x - n| = |x - m| → n % 2 = 0

/-- Another integer is at least half away from a number that is at most half away from one. -/
theorem half_le_abs_sub {x : Rat} {n m : Int} (hn : |x - n| ≤ 1 / 2) (hm : m ≠ n) : 1 / 2 ≤ |x - m| := by
  have hone : (1 : Rat) ≤ |(n : Rat) - m| := by
    exact_mod_cast Int.one_le_abs (sub_ne_zero.2 (Ne.symm hm))
  have htriangle := abs_sub_le (n : Rat) x m
  rw [abs_sub_comm (n : Rat) x] at htriangle
  linarith

/-- The rounded number is a nearest integer. -/
theorem isNearest_roundHalfEven (x : Rat) : IsNearest x (roundHalfEven x) := by
  have hhalf := abs_sub_roundHalfEven_le x
  constructor
  · intro m
    by_cases hm : m = roundHalfEven x
    · rw [hm]
    · exact hhalf.trans (half_le_abs_sub hhalf hm)
  · intro m hm hequal
    -- only a number half way between two integers has another as near
    have htie : |x - roundHalfEven x| = 1 / 2 := le_antisymm hhalf (hequal ▸ half_le_abs_sub hhalf hm)
    have hfract : x - ⌊x⌋ = Int.fract x := rfl
    have hnonneg := Int.fract_nonneg x
    have hlt := Int.fract_lt_one x
    unfold roundHalfEven at htie ⊢
    split_ifs at htie ⊢ with hbelow habove heven
    · rw [hfract, abs_of_nonneg hnonneg] at htie
      linarith
    · push_cast at htie
      rw [← sub_sub, hfract, abs_of_neg (by linarith)] at htie
      linarith
    · exact heven
    · omega

/-- It is the floor at least. -/
theorem floor_le_roundHalfEven (x : Rat) : ⌊x⌋ ≤ roundHalfEven x := by
  unfold roundHalfEven
  split_ifs <;> omega

/-- It is the next integer at most. -/
theorem roundHalfEven_le_floor_add_one (x : Rat) : roundHalfEven x ≤ ⌊x⌋ + 1 := by
  unfold roundHalfEven
  split_ifs <;> omega

/-- Rounding keeps the order. -/
theorem roundHalfEven_mono {x y : Rat} (h : x ≤ y) : roundHalfEven x ≤ roundHalfEven y := by
  rcases (Int.floor_le_floor h).lt_or_eq with hlt | heq
  · exact (roundHalfEven_le_floor_add_one x).trans
      ((Int.add_one_le_of_lt hlt).trans (floor_le_roundHalfEven y))
  · have hfract : Int.fract x ≤ Int.fract y := by
      rw [Int.fract, Int.fract, heq]
      exact sub_le_sub_right h _
    unfold roundHalfEven
    rw [heq]
    split_ifs <;> first | omega | linarith

/-- What is less than half is rounded to zero. -/
theorem roundHalfEven_eq_zero {x : Rat} (h : 0 ≤ x) (hlt : x < 1 / 2) : roundHalfEven x = 0 := by
  have hfloor : ⌊x⌋ = 0 := Int.floor_eq_zero_iff.2 ⟨h, by linarith⟩
  have hfract : Int.fract x = x := by rw [Int.fract, hfloor, Int.cast_zero, sub_zero]
  rw [roundHalfEven, hfract, if_pos hlt, hfloor]

/-! ## The context of an operation -/

/-- The number of digits, and the exponents of the first digit. -/
structure Context where
  prec : Nat
  emin : Int
  emax : Int

/-- The number has no more digits than `prec`. -/
def HasDigits (prec : Nat) (q : Rat) : Prop := ∃ c e : Int, |c| < 10 ^ prec ∧ q = c * 10 ^ e

namespace Context

variable (ctx : Context)

/-- The least exponent. -/
def etiny : Int := ctx.emin - ctx.prec + 1

/-- The exponent of the last digit that the context has for a number. -/
def lastExponent (q : Rat) : Int := max (Int.log 10 |q| + 1 - ctx.prec) ctx.etiny

/-- The number, rounded to the digits and the least exponent of the context. -/
def round (q : Rat) : Rat := roundHalfEven (q / 10 ^ ctx.lastExponent q) * 10 ^ ctx.lastExponent q

/-- The result of an operation, out of the exact one; nothing where it overflows. -/
def fix (q : Rat) : Option Rat :=
  if ctx.emax < Int.log 10 |ctx.round q| then none else some (ctx.round q)

end Context

/-- Zero has as few digits as any context allows. -/
theorem hasDigits_zero (prec : Nat) : HasDigits prec 0 := ⟨0, 0, by positivity, by simp⟩

/-- Another power of ten has the same digits. -/
theorem HasDigits.mul_zpow {prec : Nat} {q : Rat} (h : HasDigits prec q) (k : Int) :
    HasDigits prec (q * 10 ^ k) := by
  obtain ⟨c, e, hc, rfl⟩ := h
  exact ⟨c, e + k, hc, by rw [mul_assoc, ← zpow_add₀ (by norm_num)]⟩

/-- The digits are multiples of a power of ten that the number itself bounds. -/
theorem HasDigits.exists_multiple {prec : Nat} {q : Rat} (h : HasDigits prec q) {k : Int}
    (hk : q ≠ 0 → k ≤ Int.log 10 |q| + 1 - prec) : ∃ n : Int, q = n * 10 ^ k := by
  by_cases hq : q = 0
  · exact ⟨0, by simp [hq]⟩
  obtain ⟨c, e, hc, hce⟩ := h
  have hlog : (10 : Rat) ^ Int.log 10 |q| ≤ |q| := by
    exact_mod_cast Int.zpow_log_le_self (b := 10) (by norm_num) (abs_pos.2 hq)
  have hlt : |q| < (10 : Rat) ^ (prec + e : Int) := by
    have hcast : |(c : Rat)| < 10 ^ prec := by exact_mod_cast hc
    rw [hce, abs_mul, abs_of_pos (zpow_pos (by norm_num : (0 : Rat) < 10) e), zpow_add₀ (by norm_num),
      zpow_natCast]
    exact mul_lt_mul_of_pos_right hcast (zpow_pos (by norm_num) e)
  have hexponent : Int.log 10 |q| < prec + e :=
    (zpow_lt_zpow_iff_right₀ (by norm_num : (1 : Rat) < 10)).1 (hlog.trans_lt hlt)
  have hke : k ≤ e := by
    have := hk hq
    omega
  refine ⟨c * 10 ^ (e - k).toNat, ?_⟩
  rw [hce]
  push_cast
  rw [mul_assoc, ← zpow_natCast, ← zpow_add₀ (by norm_num), Int.toNat_of_nonneg (by omega), sub_add_cancel]

/-- Of two numbers whose sum has no more digits than they have, none is too small for the digits. -/
theorem HasDigits.eq_zero_or_zpow_le {prec : Nat} {p q : Rat} (hprec : 0 < prec) (hq : HasDigits prec q)
    (hsum : HasDigits prec (p + q)) (hp₀ : 0 ≤ p) {k : Int} (hk : 10 ^ k ≤ p + q) :
    p = 0 ∨ 10 ^ (k - prec) ≤ p := by
  have hten : (1 : Rat) < 10 := by norm_num
  have hsumPos : 0 < p + q := (zpow_pos (by norm_num) k).trans_le hk
  have hhalf : (10 : Rat) ^ (k - 1) ≤ (p + q) / 2 := by
    rw [zpow_sub_one₀ (by norm_num)]
    linarith [zpow_pos (by norm_num : (0 : Rat) < 10) k]
  rcases le_total q p with hle | hle
  · right
    calc (10 : Rat) ^ (k - prec) ≤ 10 ^ (k - 1) := zpow_le_zpow_right₀ hten.le (by omega)
      _ ≤ (p + q) / 2 := hhalf
      _ ≤ p := by linarith
  · have hqPos : 0 < q := by linarith
    have hkq : k - 1 ≤ Int.log 10 |q| := by
      rw [abs_of_pos hqPos, ← Int.zpow_le_iff_le_log (by norm_num) hqPos]
      exact_mod_cast hhalf.trans (by linarith)
    have hksum : k ≤ Int.log 10 |p + q| := by
      rw [abs_of_pos hsumPos, ← Int.zpow_le_iff_le_log (by norm_num) hsumPos]
      exact_mod_cast hk
    obtain ⟨n, hn⟩ := hq.exists_multiple (k := k - prec) fun _ => by omega
    obtain ⟨m, hm⟩ := hsum.exists_multiple (k := k - prec) fun _ => by omega
    -- the number is a multiple of the same power as the other and the sum
    have hp : p = ((m - n : Int) : Rat) * 10 ^ (k - prec) := by
      push_cast
      rw [sub_mul, ← hm, ← hn, add_sub_cancel_right]
    have hpow : (0 : Rat) < 10 ^ (k - prec) := zpow_pos (by norm_num) _
    rcases hp₀.eq_or_lt with hzero | hpos
    · exact .inl hzero.symm
    · right
      have hone : (1 : Int) ≤ m - n := by
        rw [hp] at hpos
        exact_mod_cast (pos_iff_pos_of_mul_pos hpos).2 hpow
      rw [hp]
      exact le_mul_of_one_le_left hpow.le (by exact_mod_cast hone)

namespace Context

variable {ctx : Context} {q : Rat}

/-- A number with the digits of the context, and no smaller than these go, is not rounded. -/
theorem round_of_hasDigits (h : HasDigits ctx.prec q) (hnormal : q ≠ 0 → ctx.emin ≤ Int.log 10 |q|) :
    ctx.round q = q := by
  obtain ⟨n, hn⟩ := h.exists_multiple (k := ctx.lastExponent q) fun hq => by
    have := hnormal hq
    unfold lastExponent etiny
    omega
  have hpos : (10 : Rat) ^ ctx.lastExponent q ≠ 0 := zpow_ne_zero _ (by norm_num)
  have hdiv : q / 10 ^ ctx.lastExponent q = n := by rw [div_eq_iff hpos, ← hn]
  rw [round, hdiv, roundHalfEven_intCast, ← hn]

/-- A number that a context can represent is not changed by it. -/
theorem fix_of_hasDigits (h : HasDigits ctx.prec q) (hnormal : q ≠ 0 → ctx.emin ≤ Int.log 10 |q|)
    (hmax : Int.log 10 |q| ≤ ctx.emax) : ctx.fix q = some q := by
  rw [fix, round_of_hasDigits h hnormal, if_neg (by omega)]

/-- A number that is not negative is rounded to one that is not. -/
theorem round_nonneg (h : 0 ≤ q) : 0 ≤ ctx.round q := by
  have hpos : (0 : Rat) < 10 ^ ctx.lastExponent q := zpow_pos (by norm_num) _
  have hround : 0 ≤ roundHalfEven (q / 10 ^ ctx.lastExponent q) := by
    rw [← roundHalfEven_zero]
    exact roundHalfEven_mono (div_nonneg h hpos.le)
  exact mul_nonneg (by exact_mod_cast hround) hpos.le

/-- Rounding at most doubles a number, or makes the least one of it. -/
theorem round_le {b : Rat} (hprec : 0 < ctx.prec) (h : 0 ≤ q) (hb : q ≤ b) (htiny : 10 ^ ctx.etiny ≤ b) :
    ctx.round q ≤ 2 * b := by
  by_cases hq : q = 0
  · have hzero : ctx.round q = 0 := by simp [round, hq]
    rw [hzero, ← hq]
    linarith
  have hpos : (0 : Rat) < 10 ^ ctx.lastExponent q := zpow_pos (by norm_num) _
  have hlast : (10 : Rat) ^ ctx.lastExponent q ≤ b := by
    rcases max_choice (Int.log 10 |q| + 1 - ctx.prec) ctx.etiny with hmax | hmax
    · have hlog : (10 : Rat) ^ Int.log 10 |q| ≤ |q| := by
        exact_mod_cast Int.zpow_log_le_self (b := 10) (by norm_num) (abs_pos.2 hq)
      rw [abs_of_nonneg h] at hlog hmax
      rw [lastExponent, abs_of_nonneg h, hmax]
      refine le_trans ?_ (hlog.trans hb)
      exact zpow_le_zpow_right₀ (by norm_num) (by omega)
    · rw [lastExponent, hmax]
      exact htiny
  have hhalf := (abs_le.1 (abs_sub_roundHalfEven_le (q / 10 ^ ctx.lastExponent q))).1
  have hround : (roundHalfEven (q / 10 ^ ctx.lastExponent q) : Rat) ≤ q / 10 ^ ctx.lastExponent q + 1 := by
    linarith
  calc ctx.round q
      ≤ (q / 10 ^ ctx.lastExponent q + 1) * 10 ^ ctx.lastExponent q :=
        mul_le_mul_of_nonneg_right hround hpos.le
    _ = q + 10 ^ ctx.lastExponent q := by rw [add_mul, div_mul_cancel₀ q hpos.ne', one_mul]
    _ ≤ 2 * b := by linarith

/-- A small number leads to a small one. -/
theorem exists_fix_le {b : Rat} (hprec : 0 < ctx.prec) (hmax : 0 ≤ ctx.emax) (h : 0 ≤ q) (hb : q ≤ b)
    (htiny : 10 ^ ctx.etiny ≤ b) (hone : 2 * b ≤ 1) : ∃ r, ctx.fix q = some r ∧ 0 ≤ r ∧ r ≤ 2 * b := by
  have hle := round_le hprec h hb htiny
  have hlog : Int.log 10 |ctx.round q| ≤ 0 := by
    rw [abs_of_nonneg (round_nonneg h)]
    rcases (round_nonneg h).eq_or_lt with hzero | hpos
    · rw [← hzero, Int.log_zero_right]
    · exact (Int.log_mono_right hpos (hle.trans hone)).trans_eq (Int.log_one_right 10)
  refine ⟨ctx.round q, ?_, round_nonneg h, hle⟩
  rw [fix, if_neg (by omega)]

/-- Rounding keeps a number above a power of ten that it is above. -/
theorem zpow_le_round {k : Int} (hprec : 0 < ctx.prec) (htiny : ctx.etiny ≤ k) (hk : 10 ^ k ≤ q) :
    10 ^ k ≤ ctx.round q := by
  have hten : (1 : Rat) < 10 := by norm_num
  have hq : 0 < q := (zpow_pos (by norm_num) k).trans_le hk
  have habs : |q| = q := abs_of_pos hq
  have hklog : k ≤ Int.log 10 q := by
    rw [← Int.zpow_le_iff_le_log (by norm_num) hq]
    exact_mod_cast hk
  have hlog : (10 : Rat) ^ Int.log 10 q ≤ q := by
    exact_mod_cast Int.zpow_log_le_self (b := 10) (by norm_num) hq
  -- the last digit is at or behind the first one
  obtain ⟨n, hn⟩ : ∃ n : Nat, Int.log 10 q = ctx.lastExponent q + n := by
    have hle : ctx.lastExponent q ≤ Int.log 10 q := by
      unfold lastExponent
      rw [habs]
      exact max_le (by omega) (by omega)
    exact ⟨(Int.log 10 q - ctx.lastExponent q).toNat, by omega⟩
  have hpos : (0 : Rat) < 10 ^ ctx.lastExponent q := zpow_pos (by norm_num) _
  have hpow : (10 : Rat) ^ Int.log 10 q = ((10 ^ n : Int) : Rat) * 10 ^ ctx.lastExponent q := by
    rw [hn, zpow_add₀ (by norm_num), zpow_natCast, mul_comm]
    push_cast
    rfl
  have hround : (10 ^ n : Int) ≤ roundHalfEven (q / 10 ^ ctx.lastExponent q) := by
    rw [← roundHalfEven_intCast (10 ^ n)]
    refine roundHalfEven_mono ?_
    rw [le_div_iff₀ hpos, ← hpow]
    exact hlog
  calc (10 : Rat) ^ k ≤ 10 ^ Int.log 10 q := zpow_le_zpow_right₀ hten.le hklog
    _ = ((10 ^ n : Int) : Rat) * 10 ^ ctx.lastExponent q := hpow
    _ ≤ ctx.round q := mul_le_mul_of_nonneg_right (by exact_mod_cast hround) hpos.le

end Context

end Decimal
