import Mathlib

/-!
# Products of integers and floats

Python's `float` is binary64, which is Lean's `Float`, and this module works on the logical model that Lean
gives of it (`Float.Model`). `truncatedProduct` is `int(n * x)`: the integer is converted, the product is
rounded to the nearest number of the format, and what is behind its point is cut off. The rounded product may
be a whole number where the exact one is not, as for `102 * (1 / 102)`. But a factor below one never gives the
integer itself (`truncatedProduct_lt`): the distance to it is more than the half unit of the rounding.
-/

namespace Binary64

open Float.Model (Format totalExponent UnpackedFloat)
open Float.Model.UnpackedFloat

/-- `int(n * x)`, for a natural number and a float that is not negative, whose product is below `2 ^ 64`:
the word that the product is truncated to would be clamped from there on. -/
def truncatedProduct (n : Nat) (x : Float) : Nat := (n.toUInt64.toFloat * x).toUInt64.toNat

example : truncatedProduct 102 (1 / 102) = 1 := by decide +kernel
example : truncatedProduct 400 0.7 = 280 := by decide +kernel

/-! ## Shifted mantissas -/

/-- A mantissa that is shifted to the right is divided by a power of two. A round bit that is set says that at
least half of a unit was cut off, by induction on the shifts: it is the bit that the last one cut off. -/
theorem shiftRight_exact (m k : Nat) :
    (ExtendedMantissa.ofMantissaAndAccuracy m .exact >>> k).mantissa = m / 2 ^ k ∧
      ((ExtendedMantissa.ofMantissaAndAccuracy m .exact >>> k).roundBit = true → 2 ^ k ≤ 2 * (m % 2 ^ k)) := by
  change (k.repeat ExtendedMantissa.shiftRightOne _).mantissa = _ ∧
    ((k.repeat ExtendedMantissa.shiftRightOne _).roundBit = true → _)
  induction k with
  | zero => exact ⟨(Nat.div_one m).symm, fun h => by cases h⟩
  | succ k ih =>
    obtain ⟨hmantissa, -⟩ := ih
    rw [Nat.repeat]
    simp only [ExtendedMantissa.shiftRightOne, hmantissa]
    refine ⟨by rw [Nat.div_div_eq_div_mul, Nat.pow_succ], fun hbit => ?_⟩
    have hodd : m / 2 ^ k % 2 = 1 := by simpa using hbit
    rw [Nat.pow_succ, Nat.mod_mul, hodd]
    omega

/-- A mantissa is rounded to itself, or to the next one where the round bit is set. The sticky bit and the
parity only decide between the two. -/
theorem roundedMantissa_cases (em : ExtendedMantissa) :
    em.roundedMantissa = em.mantissa ∨ em.roundedMantissa = em.mantissa + 1 ∧ em.roundBit = true := by
  obtain ⟨m, r, s⟩ := em
  cases r <;> cases s <;>
    simp [ExtendedMantissa.roundedMantissa, ExtendedMantissa.accuracy, Accuracy.roundToNearestEven]
  omega

/-- What is rounded lies at most half of a unit above the exact number, and not below its whole units.
The bound is multiplied by two, so that it is one of natural numbers. -/
theorem roundedMantissa_bounds (m k : Nat) :
    let r := (ExtendedMantissa.ofMantissaAndAccuracy m .exact >>> k).roundedMantissa
    m / 2 ^ k ≤ r ∧ r ≤ m / 2 ^ k + 1 ∧ 2 * (r * 2 ^ k) ≤ 2 * m + 2 ^ k := by
  obtain ⟨hmantissa, hbit⟩ := shiftRight_exact m k
  have hdiv := Nat.div_add_mod' m (2 ^ k)
  rcases roundedMantissa_cases (ExtendedMantissa.ofMantissaAndAccuracy m .exact >>> k) with heq | ⟨heq, hset⟩
  · rw [hmantissa] at heq
    simp only [heq]
    omega
  · rw [hmantissa] at heq
    have hhalf := hbit hset
    simp only [heq, Nat.succ_mul]
    omega

/-! ## Numbers of the format -/

/-- The mantissa and the exponent of a binary64 number: the mantissa has at most 53 bits, and exactly 53
unless the exponent is the least one (a subnormal number). -/
structure Canonical (m : Nat) (e : Int) : Prop where
  lt : m < 2 ^ 53
  least : -1074 ≤ e
  normal : 2 ^ 52 ≤ m ∨ e = -1074

/-- The number that a stored mantissa stands for with its implicit bit. -/
theorem toNat_implicit (m : BitVec 52) : (1#1 ++ m).toNat = 2 ^ 52 + m.toNat := by
  rw [BitVec.toNat_append, ← Nat.shiftLeft_add_eq_or_of_lt m.isLt]
  rfl

/-- What is unpacked from a word and finite is a number of the format: by cases of the stored exponent, which
is zero for the subnormal numbers and all ones for infinities and not-a-number. -/
theorem canonical_of_unpack {b : BitVec Format.binary64.numBits} {s : Sign} {m : Nat} {e : Int} {hm : 0 < m}
    (h : unpack Format.binary64 b = .finite s m e hm) : Canonical m e := by
  unfold unpack at h
  dsimp only at h
  have hbias : ((Format.binary64.exponentBias : Int) + (52 : Nat)) = 1075 := rfl
  split at h
  · split at h <;> cases h
  split at h
  · next hzero =>
    split at h
    · cases h
    · simp only [UnpackedFloat.finite.injEq] at h
      obtain ⟨-, rfl, rfl⟩ := h
      have hlt : (unpackMantissa b).toNat < 2 ^ 52 := (unpackMantissa b).isLt
      rw [hzero, hbias]
      exact ⟨by omega, by decide, .inr rfl⟩
  · next hnonzero =>
    simp only [UnpackedFloat.finite.injEq] at h
    obtain ⟨-, rfl, rfl⟩ := h
    have hlt : (unpackMantissa b).toNat < 2 ^ 52 := (unpackMantissa b).isLt
    have hpos : (unpackExponent b).toNat ≠ 0 := fun h0 => hnonzero (BitVec.eq_of_toNat_eq h0)
    have himplicit : (1#1 ++ unpackMantissa b).toNat = 2 ^ 52 + (unpackMantissa b).toNat := toNat_implicit _
    rw [himplicit, hbias]
    exact ⟨by omega, by omega, .inl (by omega)⟩

/-- A number of the format that is not too great for it is unpacked again as it was packed, normal or
subnormal. -/
theorem unpack_pack (s : Sign) {m : Nat} {e : Int} (hm : 0 < m) (h : Canonical m e) (he : e ≤ 971) :
    unpack Format.binary64 (pack Format.binary64 (.finite s m e hm)) = .finite s m e hm := by
  obtain ⟨hlt, hleast, hnormal⟩ := h
  have hbiased : (e + Format.binary64.exponentBias + (52 : Nat)).toNat = (e + 1075).toNat := by
    change (e + 1023 + 52).toNat = _
    omega
  have hbias : ((Format.binary64.exponentBias : Int) + (52 : Nat)) = 1075 := rfl
  have hfits : ¬2 ^ 11 ≤ (e + 1075).toNat + 1 := by omega
  have hexponent : (BitVec.ofNat 11 (e + 1075).toNat).toNat = (e + 1075).toNat := by
    rw [BitVec.toNat_ofNat, Nat.mod_eq_of_lt (by omega)]
  unfold pack
  simp only [hbiased, if_neg hfits]
  by_cases hfull : 2 ^ 52 ≤ m
  · have hlog : m.log2 = 52 := (Nat.log2_eq_iff hm.ne').2 ⟨hfull, hlt⟩
    have hnotInfinite : BitVec.ofNat 11 (e + 1075).toNat ≠ -1#11 := fun heq => by
      have := congrArg BitVec.toNat heq
      rw [hexponent] at this
      change (e + 1075).toNat = 2047 at this
      omega
    have hnotZero : BitVec.ofNat 11 (e + 1075).toNat ≠ 0#11 := fun heq => by
      have := congrArg BitVec.toNat heq
      rw [hexponent] at this
      change (e + 1075).toNat = 0 at this
      omega
    have hmantissa : (1#1 ++ BitVec.ofNat 52 m).toNat = m := by
      rw [toNat_implicit, BitVec.toNat_ofNat]
      omega
    rw [hlog, if_pos (show 52 + 1 = Format.binary64.mantissaBits from rfl)]
    simp only [unpack, unpackMantissa_packComponents, unpackExponent_packComponents, unpackSign_packComponents,
      Sign.ofBitVec_toBitVec, if_neg hnotInfinite, if_neg hnotZero, hexponent, hmantissa, hbias,
      UnpackedFloat.finite.injEq]
    exact ⟨trivial, trivial, by omega⟩
  · obtain rfl : e = -1074 := hnormal.resolve_left hfull
    have hlog : ¬m.log2 + 1 = Format.binary64.mantissaBits := by
      have hbelow := (Nat.log2_lt hm.ne').2 (Nat.lt_of_not_le hfull)
      change ¬m.log2 + 1 = 53
      omega
    have hmantissa : (BitVec.ofNat 52 m).toNat = m := by
      rw [BitVec.toNat_ofNat]
      omega
    have hnotZero : BitVec.ofNat 52 m ≠ 0#52 := fun heq => by
      have := congrArg BitVec.toNat heq
      rw [hmantissa] at this
      exact hm.ne' this
    rw [if_neg hlog]
    simp only [unpack, unpackMantissa_packComponents, unpackExponent_packComponents, unpackSign_packComponents,
      Sign.ofBitVec_toBitVec, if_neg (show 0#11 ≠ -1#11 by decide), if_pos, dif_neg hnotZero, hmantissa, hbias,
      UnpackedFloat.finite.injEq]
    exact ⟨trivial, trivial, by decide⟩

/-! ## Rounding -/

/-- The exponent that a number of this size has in the format: it leaves 53 bits to the mantissa, unless that
were below the least one. -/
theorem targetExponent_eq (m : Nat) (e : Int) :
    Format.binary64.targetExponent (totalExponent m e) = max (m.log2 + e - 52) (-1074) := by
  simp only [Format.targetExponent, totalExponent, Format.mantissaBits, Format.minExponent]
  norm_num
  omega

/-- What a product rounds to: zero, or a number of the format that is at most half of a unit above it. The
unit is that of the exponent `t`, or of the next one, if the rounded mantissa became one bit longer. -/
theorem roundWithAccuracy_cases (s : Sign) {m : Nat} {e t : Int} (hm : 0 < m)
    (ht : t = max (m.log2 + e - 52) (-1074)) (he : e ≤ t) :
    roundWithAccuracy Format.binary64 s m e .exact = .zero s ∨
      ∃ (r : Nat) (u : Int) (hr : 0 < r), roundWithAccuracy Format.binary64 s m e .exact = .finite s r u hr ∧
        Canonical r u ∧ t ≤ u ∧ u ≤ t + 1 ∧ 2 * (r * 2 ^ (u - e).toNat) ≤ 2 * m + 2 ^ (t - e).toNat := by
  set k := (t - e).toNat with hk
  obtain ⟨hlower, hupper, hhalf⟩ := roundedMantissa_bounds m k
  set em := ExtendedMantissa.ofMantissaAndAccuracy m .exact >>> k with hem
  have hfirst : shiftToTargetExponent Format.binary64 m e .exact = (em, t) := by
    simp only [shiftToTargetExponent, shiftToExponent, targetExponent_eq, ← ht, ← hk, ← hem]
    exact Prod.ext rfl (by dsimp only; omega)
  -- the product has at most 53 bits above the exponent
  have hlog : m < 2 ^ (m.log2 + 1) := Nat.lt_log2_self
  have hbits : m.log2 + 1 ≤ 53 + k := by omega
  have hdiv : m / 2 ^ k < 2 ^ 53 := by
    rw [Nat.div_lt_iff_lt_mul (Nat.two_pow_pos k), ← Nat.pow_add]
    exact Nat.lt_of_lt_of_le hlog (Nat.pow_le_pow_right (by decide) hbits)
  have hnormal : 2 ^ 52 ≤ em.roundedMantissa ∨ t = -1074 := by
    refine or_iff_not_imp_right.2 fun hnot => Nat.le_trans ?_ hlower
    have heq : m.log2 = 52 + k := by omega
    rw [Nat.le_div_iff_mul_le (Nat.two_pow_pos k), ← Nat.pow_add, ← heq]
    exact Nat.log2_self_le hm.ne'
  simp only [roundWithAccuracy, hfirst]
  split
  · exact .inl rfl
  · next hpos =>
    refine .inr ⟨_, _, Nat.pos_of_ne_zero hpos, rfl, ?_⟩
    clear hpos
    rcases (Nat.le_trans hupper hdiv).lt_or_eq with hlt | heq
    · -- the rounded mantissa fits
      have hfits : (max ((em.roundedMantissa.log2 : Int) + t - 52) (-1074) - t).toNat = 0 := by
        have hlog : em.roundedMantissa.log2 ≤ 52 := by
          by_cases hzero : em.roundedMantissa = 0
          · rw [hzero]
            decide
          · exact Nat.le_of_lt_succ ((Nat.log2_lt hzero).2 hlt)
        omega
      simp only [shiftToTargetExponent, shiftToExponent, targetExponent_eq, hfits]
      change Canonical em.roundedMantissa (t + 0) ∧ t ≤ t + 0 ∧ t + 0 ≤ t + 1 ∧
        2 * (em.roundedMantissa * 2 ^ (t + 0 - e).toNat) ≤ 2 * m + 2 ^ k
      rw [Int.add_zero]
      exact ⟨⟨hlt, by omega, hnormal⟩, Int.le_refl t, by omega, hhalf⟩
    · -- it has become one bit longer
      have hfits : (max (((2 ^ 53 : Nat).log2 : Int) + t - 52) (-1074) - t).toNat = 1 := by
        rw [Nat.log2_two_pow]
        omega
      simp only [shiftToTargetExponent, shiftToExponent, targetExponent_eq, heq, hfits]
      change Canonical (2 ^ 53 / 2) (t + 1) ∧ t ≤ t + 1 ∧ t + 1 ≤ t + 1 ∧
        2 * (2 ^ 53 / 2 * 2 ^ (t + 1 - e).toNat) ≤ 2 * m + 2 ^ k
      have hshift : (t + 1 - e).toNat = k + 1 := by omega
      rw [heq] at hhalf
      rw [hshift, Nat.pow_succ]
      refine ⟨⟨by decide, by omega, .inl (by decide)⟩, by omega, Int.le_refl _, ?_⟩
      omega

/-- A number of the format is rounded to itself. -/
theorem roundWithAccuracy_of_canonical (s : Sign) {m : Nat} {e : Int} (hm : 0 < m) (h : Canonical m e) :
    roundWithAccuracy Format.binary64 s m e .exact = .finite s m e hm := by
  have htarget : Format.binary64.targetExponent (totalExponent m e) = e := by
    rw [targetExponent_eq]
    have hlog := (Nat.log2_lt hm.ne').2 h.lt
    have hleast := h.least
    rcases h.normal with hnormal | rfl
    · have hfull := (Nat.le_log2 hm.ne').2 hnormal
      omega
    · omega
  have hshift : shiftToTargetExponent Format.binary64 m e .exact = (⟨m, false, false⟩, e) := by
    simp only [shiftToTargetExponent, shiftToExponent, htarget, Int.sub_self]
    exact Prod.ext rfl (Int.add_zero e)
  have hrounded : (⟨m, false, false⟩ : ExtendedMantissa).roundedMantissa = m := rfl
  simp only [roundWithAccuracy, hshift, hrounded, dif_neg hm.ne']

/-! ## The product of a natural number and a float -/

/-- A natural number of at most 32 bits is a float: its mantissa is filled up with zeros to 53 bits, and
nothing is rounded. -/
theorem unpack_natCast {n : Nat} (hn : 0 < n) (hlt : n < 2 ^ 32) :
    ∃ (a d : Nat) (ha : 0 < a), n.toUInt64.toFloat.toModel.unpack = .finite .positive a (-d) ha ∧
      a = n * 2 ^ d ∧ 2 ^ 52 ≤ a ∧ a < 2 ^ 53 ∧ 21 ≤ d ∧ d ≤ 52 := by
  have hlog : n.log2 < 32 := (Nat.log2_lt hn.ne').2 hlt
  obtain ⟨d, hd⟩ : ∃ d, n.log2 + d = 52 := ⟨52 - n.log2, by omega⟩
  have hlower := Nat.mul_le_mul_right (2 ^ d) (Nat.log2_self_le hn.ne')
  have hupper := Nat.mul_lt_mul_of_pos_right (Nat.lt_log2_self (n := n)) (Nat.two_pow_pos d)
  rw [← Nat.pow_add, hd] at hlower
  rw [← Nat.pow_add, show n.log2 + 1 + d = 53 by omega] at hupper
  have hcanonical : Canonical (n * 2 ^ d) (-d) := ⟨hupper, by omega, .inl hlower⟩
  have hpos : 0 < n * 2 ^ d := Nat.mul_pos hn (Nat.two_pow_pos d)
  have hword : n.toUInt64.toNat = n := by
    rw [UInt64.toNat_ofNat']
    omega
  have hround : UnpackedFloat.normalize Format.binary64 n 0 .positive =
      .finite .positive (n * 2 ^ d) (-d) hpos := by
    have hcompare : compare (n : Int) 0 = .gt := by
      rw [Int.compare_eq_gt]
      omega
    have hshift : (0 - max ((n.log2 : Int) + 0 - 52) (-1074)).toNat = d := by omega
    have hexponent : (0 : Int) - (d : Nat) = -d := Int.zero_sub _
    simp only [UnpackedFloat.normalize, hcompare, Int.toNat_natCast, UnpackedFloat.round, targetExponent_eq,
      decreaseExponent, hshift, hexponent, Nat.shiftLeft_eq]
    exact roundWithAccuracy_of_canonical .positive hpos hcanonical
  refine ⟨n * 2 ^ d, d, hpos, ?_, rfl, hlower, hupper, by omega, by omega⟩
  change unpack Format.binary64
    (pack Format.binary64 (UnpackedFloat.normalize Format.binary64 n.toUInt64.toNat 0 .positive)) = _
  rw [hword, hround]
  exact unpack_pack .positive hpos hcanonical (by omega)

/-- The comparison of floats is one of what they unpack to. -/
theorem lt_of_float_lt {x y : Float} (h : x < y) : x.toModel.unpack.lt y.toModel.unpack = true :=
  of_decide_eq_true h

/-- As `lt_of_float_lt`. -/
theorem le_of_float_le {x y : Float} (h : x ≤ y) : x.toModel.unpack.le y.toModel.unpack = true :=
  of_decide_eq_true h

/-- A float from zero to below one is a zero (of either sign), or a positive number of the format whose
exponent is that of the greatest float below one, or less. -/
theorem unpack_of_lt_one {x : Float} (hnonneg : 0.0 ≤ x) (hlt : x < 1.0) :
    (∃ s, x.toModel.unpack = .zero s) ∨
      ∃ (m : Nat) (e : Int) (hm : 0 < m),
        x.toModel.unpack = .finite .positive m e hm ∧ Canonical m e ∧ e ≤ -53 := by
  have hone : (1.0 : Float).toModel.unpack = .finite .positive (2 ^ 52) (-52) (by decide) := by rfl
  have hzero : (0.0 : Float).toModel.unpack = .zero .positive := by rfl
  have hbelow := lt_of_float_lt hlt
  have habove := le_of_float_le hnonneg
  rw [hone] at hbelow
  rw [hzero] at habove
  cases hx : x.toModel.unpack with
  | notANumber =>
    rw [hx] at hbelow
    cases hbelow
  | infinity s =>
    rw [hx] at hbelow habove
    cases s with
    | positive => cases hbelow
    | negative => cases habove
  | zero s => exact .inl ⟨s, rfl⟩
  | finite s m e hm =>
    rw [hx] at hbelow habove
    cases s with
    | negative => cases habove
    | positive =>
      have hcanonical := canonical_of_unpack hx
      refine .inr ⟨m, e, hm, rfl, hcanonical, ?_⟩
      have hcompare : (compare e (-52)).then (compare m (2 ^ 52)) = .lt := by
        simpa [UnpackedFloat.lt, UnpackedFloat.compare] using hbelow
      rcases hcanonical.normal with hnormal | rfl
      · have hmantissa : compare m (2 ^ 52) ≠ .lt := fun h => Nat.not_lt.2 hnormal (Nat.compare_eq_lt.1 h)
        rcases Ordering.then_eq_lt.1 hcompare with hlt | ⟨-, hlt⟩
        · have hexponent := Int.compare_eq_lt.1 hlt
          omega
        · exact absurd hlt hmantissa
      · decide

/-- A positive float is truncated to the whole units of its mantissa. -/
theorem toUInt64_of_finite {x : Float} {m : Nat} {e : Int} {hm : 0 < m}
    (hx : x.toModel.unpack = .finite .positive m e hm) (he : e ≤ 0) (hlt : m / 2 ^ (-e).toNat < 2 ^ 64) :
    x.toUInt64.toNat = m / 2 ^ (-e).toNat := by
  have hint : (UnpackedFloat.finite .positive m e hm).toInt 0 (UInt64.size - 1) = (m / 2 ^ (-e).toNat : Nat) := by
    have hshift : (e - 0).toNat = 0 := by omega
    simp only [UnpackedFloat.toInt, roundToInt, decreaseExponent, shiftToExponent, hshift, Nat.shiftLeft_zero,
      (shiftRight_exact _ _).1]
    have hamount : (0 - (e - (0 : Nat))).toNat = (-e).toNat := by omega
    rw [hamount]
    rfl
  change (UInt64.ofNatClamp (x.toModel.unpack.toInt 0 (UInt64.size - 1)).toNat).toNat = _
  rw [hx, hint, Int.toNat_natCast]
  rw [UInt64.ofNatClamp_eq_ofNat _ hlt, UInt64.toNat_ofNat', Nat.mod_eq_of_lt hlt]

/-- The unit to which the product of two mantissas is rounded is less than twice the first one, if that has
all its 53 bits. -/
theorem unit_lt_factor {a m : Nat} {e t : Int} (ha : 2 ^ 52 ≤ a) (hm : 0 < m) (hlt : m < 2 ^ 53)
    (ht : t = max ((a * m).log2 + e - 52) (-1074)) (he : -1126 ≤ e) : 2 ^ (t - e).toNat < 2 * a := by
  have hpos : a * m ≠ 0 := (Nat.mul_pos (by omega) hm).ne'
  have hproduct : 2 ^ (a * m).log2 < a * 2 ^ 53 :=
    Nat.lt_of_le_of_lt (Nat.log2_self_le hpos) (Nat.mul_lt_mul_of_pos_left hlt (by omega))
  have hlog : 52 ≤ (a * m).log2 := (Nat.le_log2 hpos).2 (Nat.le_trans ha (Nat.le_mul_of_pos_right a hm))
  by_cases hnormal : -1074 ≤ (a * m).log2 + e - 52
  · have hshift : (t - e).toNat + 52 = (a * m).log2 := by omega
    rw [← hshift, Nat.pow_add] at hproduct
    omega
  · have hpow : 2 ^ (t - e).toNat ≤ 2 ^ 52 := Nat.pow_le_pow_right (by decide) (by omega)
    omega

/-- The arithmetic of `truncatedProduct_lt`: the exact product `a * m` lies at least `a` units below the whole
number, since `m` lies at least one unit below one, and the rounding adds less than `a` units. -/
theorem div_lt_of_rounded {n a m r d k : Nat} {e u : Int} (ha : a = n * 2 ^ d) (hm : m < 2 ^ 53) (he : e ≤ -53)
    (hu : -d + e ≤ u) (hneg : u ≤ 0) (hunit : 2 ^ k < 2 * a)
    (hround : 2 * (r * 2 ^ (u - (-d + e)).toNat) ≤ 2 * (a * m) + 2 ^ k) : r / 2 ^ (-u).toNat < n := by
  rw [Nat.div_lt_iff_lt_mul (Nat.two_pow_pos _)]
  refine Nat.lt_of_mul_lt_mul_right (a := 2 ^ (u - (-d + e)).toNat) ?_
  have hunits : m + 1 ≤ 2 ^ (-e).toNat :=
    Nat.le_trans hm (Nat.pow_le_pow_right (by decide) (show 53 ≤ (-e).toNat by omega))
  have hwhole : n * 2 ^ (-u).toNat * 2 ^ (u - (-d + e)).toNat = a * 2 ^ (-e).toNat := by
    rw [ha, Nat.mul_assoc, Nat.mul_assoc, ← Nat.pow_add, ← Nat.pow_add]
    congr 2
    omega
  have hmul := Nat.mul_le_mul_left a hunits
  rw [Nat.mul_succ] at hmul
  omega

/-- **A positive integer times a float below one, truncated, is a smaller integer**: the rounding of the
product does not carry it up to the integer itself. -/
theorem truncatedProduct_lt {n : Nat} (hn : 0 < n) (hbits : n < 2 ^ 32) {x : Float} (hnonneg : 0.0 ≤ x)
    (hlt : x < 1.0) : truncatedProduct n x < n := by
  obtain ⟨a, d, hapos, hfactor, ha, hfull, habits, hd, hd'⟩ := unpack_natCast hn hbits
  have hproduct : (n.toUInt64.toFloat * x).toModel.unpack = unpack Format.binary64 (pack Format.binary64
      (UnpackedFloat.mul Format.binary64 n.toUInt64.toFloat.toModel.unpack x.toModel.unpack)) := rfl
  have hzero (s : Sign) (h : (n.toUInt64.toFloat * x).toModel.unpack =
      unpack Format.binary64 (pack Format.binary64 (.zero s))) : truncatedProduct n x < n := by
    have hvalue : truncatedProduct n x =
        (UInt64.ofNatClamp ((n.toUInt64.toFloat * x).toModel.unpack.toInt 0 (UInt64.size - 1)).toNat).toNat := rfl
    rw [hvalue, h]
    cases s <;> exact hn
  rcases unpack_of_lt_one hnonneg hlt with ⟨s, hx⟩ | ⟨m, e, hm, hx, ⟨hmbits, hleast, -⟩, he⟩
  · rw [hfactor, hx] at hproduct
    exact hzero _ hproduct
  · rw [hfactor, hx] at hproduct
    have hpos : 0 < a * m := Nat.mul_pos hapos hm
    have hlog : 52 ≤ (a * m).log2 := (Nat.le_log2 hpos.ne').2 (Nat.le_trans hfull (Nat.le_mul_of_pos_right a hm))
    have hlog' : (a * m).log2 < 53 + 53 := by
      rw [Nat.log2_lt hpos.ne', Nat.pow_add]
      exact Nat.mul_lt_mul'' habits hmbits
    obtain ⟨t, ht⟩ : ∃ t, t = max ((a * m).log2 + (-d + e) - 52 : Int) (-1074) := ⟨_, rfl⟩
    have hunit : 2 ^ (t - (-d + e)).toNat < 2 * a := unit_lt_factor hfull hm hmbits ht (by omega)
    replace hproduct : (n.toUInt64.toFloat * x).toModel.unpack = unpack Format.binary64 (pack Format.binary64
        (roundWithAccuracy Format.binary64 (.positive * .positive) (a * m) (-d + e) .exact)) := hproduct
    rcases roundWithAccuracy_cases (.positive * .positive) hpos ht (by omega) with
      hround | ⟨r, u, hr, hround, hcanonical, htu, hut, hhalf⟩
    · rw [hround] at hproduct
      exact hzero _ hproduct
    · rw [hround, unpack_pack _ hr hcanonical (by omega)] at hproduct
      have hbelow : r / 2 ^ (-u).toNat < n := div_lt_of_rounded ha hmbits he (by omega) (by omega) hunit hhalf
      rw [truncatedProduct, toUInt64_of_finite hproduct (by omega) (by omega)]
      exact hbelow

end Binary64
