import Mathlib.Algebra.Order.Field.Power
import DonationSite.Binary64.Decimal
import DonationSite.Proofs.Binary64.Nearest

/-!
# Decimals are rounded to the nearest number

A decimal below the overflow bound is read as a number nearest to it. The two shortcuts agree with
this: a decimal that is taken to be too large is above the bound, and one that is taken to be zero
is below half a quantum.

## Key results

- `Finite.exists_ofDecimal`: the number read for a decimal is nearest to it
- `Finite.ofDecimal_eq_none`: no number is read for a decimal that is too large
-/

namespace DonationSite.Binary64

/-- The exact value. -/
def Decimal.toRat (d : Decimal) : ℚ :=
  d.coefficient * 10 ^ d.exponent

/-- Decimals have no sign of their own. -/
theorem Decimal.toRat_nonneg (d : Decimal) : 0 ≤ d.toRat := by
  unfold Decimal.toRat
  positivity

/-! ### Powers of ten and of two -/

/-- The power of ten of the overflow shortcut is above the whole range. -/
theorem two_pow_lt_ten_pow : 2 ^ 1024 < 10 ^ 310 := by
  decide +kernel

/-- The power of ten of the underflow shortcut is at most half a quantum. -/
theorem two_pow_le_ten_pow : 2 ^ 1075 ≤ 10 ^ 331 := by
  decide +kernel

/-- The powers of ten of the reader are exact. -/
theorem cast_tenPower (n : Nat) : (tenPower n : ℚ) = 10 ^ n := by
  rw [tenPower, Nat.pow_eq, Nat.cast_pow, Nat.cast_ofNat]

/-- Shifting multiplies by a power of two. -/
theorem cast_shiftLeft (n k : Nat) : ((n <<< k : Nat) : ℚ) = n * 2 ^ k := by
  rw [Nat.shiftLeft_eq, Nat.cast_mul, Nat.cast_pow, Nat.cast_ofNat]

/-- The overflow bound is above the quanta that small numbers are counted in. -/
theorem one_le_overflowBound : 1 ≤ overflowBound := by
  unfold overflowBound
  exact one_le_mul_of_one_le_of_one_le (by norm_num) (one_le_pow₀ one_le_two)

/-- So it is above zero. -/
theorem overflowBound_pos : 0 < overflowBound :=
  one_pos.trans_le one_le_overflowBound

/-- A power of ten that the overflow shortcut refuses is above the overflow bound. -/
theorem overflowBound_lt : overflowBound < 10 ^ 310 := by
  have hbelow : overflowBound < 2 ^ 54 * 2 ^ 970 :=
    mul_lt_mul_of_pos_right (sub_lt_self _ one_pos) (pow_pos two_pos _)
  have hpower : ((2 ^ 1024 : Nat) : ℚ) < (10 ^ 310 : Nat) := Nat.cast_lt.2 two_pow_lt_ten_pow
  rw [Nat.cast_pow, Nat.cast_pow, Nat.cast_ofNat, Nat.cast_ofNat] at hpower
  rw [← pow_add] at hbelow
  exact hbelow.trans hpower

/-- A coefficient is below the power of ten that the underflow shortcut compares with. -/
theorem cast_lt_ten_pow (coefficient : Nat) :
    (coefficient : ℚ) < 10 ^ (coefficient.log2 + 1) := by
  have hlog : coefficient < 2 ^ (coefficient.log2 + 1) := Nat.lt_log2_self
  have hpow : 2 ^ (coefficient.log2 + 1) ≤ 10 ^ (coefficient.log2 + 1) :=
    Nat.pow_le_pow_left (by decide) _
  exact_mod_cast Nat.lt_of_lt_of_le hlog hpow

namespace Finite

variable {coefficient : Nat} {exponent : Int} {x : Finite}

/-- The number read has the sign of the literal, also where it is rounded to zero. -/
theorem negative_of_ofDecimal {negative : Bool}
    (h : ofDecimal? negative coefficient exponent = some x) : x.negative = negative := by
  unfold ofDecimal? at h
  split at h
  · cases h
    rfl
  · split at h
    · cases h
    · split at h
      · cases h
        rfl
      · obtain ⟨_, hx⟩ := Option.dite_none_right_eq_some.1 h
        cases hx
        rfl

/-- A decimal is a quotient of quanta. -/
theorem quotient_mul_quantum (coefficient : Nat) (exponent : Int) :
    ((coefficient * tenPower exponent.toNat) <<< 1074 : Nat) /
      (tenPower (-exponent).toNat : ℚ) * quantum = coefficient * 10 ^ exponent := by
  have hscale (num den : ℚ) : num * 2 ^ 1074 / den * quantum = num / den := by
    rw [div_mul_eq_mul_div, mul_assoc, two_pow_mul_quantum 0, pow_zero, mul_one]
  rw [cast_shiftLeft, hscale, Nat.cast_mul, cast_tenPower, cast_tenPower]
  -- One of the two powers of ten is one.
  obtain ⟨n, rfl | rfl⟩ := exponent.eq_nat_or_neg
  · simp
  · simp [div_eq_mul_inv]

/-- A decimal that is taken to be too large is not below the overflow bound: the power of ten alone
is above it. -/
theorem overflowBound_le (hne : coefficient ≠ 0) (h : 310 < exponent) :
    overflowBound ≤ coefficient * 10 ^ exponent := by
  have hone : (1 : ℚ) ≤ coefficient := Nat.one_le_cast.2 (Nat.one_le_iff_ne_zero.2 hne)
  calc overflowBound
    _ ≤ 10 ^ 310 := overflowBound_lt.le
    _ = 10 ^ (310 : Int) := (zpow_natCast 10 310).symm
    _ ≤ 10 ^ exponent := zpow_le_zpow_right₀ (by norm_num) h.le
    _ ≤ coefficient * 10 ^ exponent := le_mul_of_one_le_left (by positivity) hone

/-- A decimal that is taken to be zero is at most half a quantum. -/
theorem two_mul_le_quantum (h : exponent + coefficient.log2 + 1 < -330) :
    2 * (coefficient * 10 ^ exponent) ≤ quantum := by
  have hvalue : (coefficient : ℚ) * 10 ^ exponent ≤ (10 ^ 331)⁻¹ :=
    calc (coefficient : ℚ) * 10 ^ exponent
      _ ≤ 10 ^ (coefficient.log2 + 1) * 10 ^ exponent :=
        mul_le_mul_of_nonneg_right (cast_lt_ten_pow coefficient).le (by positivity)
      _ = 10 ^ ((coefficient.log2 + 1 : Nat) + exponent) := by
        rw [zpow_add₀ (by norm_num), zpow_natCast]
      _ ≤ 10 ^ (-331 : Int) := zpow_le_zpow_right₀ (by norm_num) (by omega)
      _ = (10 ^ 331)⁻¹ := by rw [zpow_neg, zpow_ofNat]
  have hpower : ((2 ^ 1075 : Nat) : ℚ) ≤ (10 ^ 331 : Nat) := Nat.cast_le.2 two_pow_le_ten_pow
  rw [Nat.cast_pow, Nat.cast_pow, Nat.cast_ofNat, Nat.cast_ofNat] at hpower
  have hhalf : 2 * (2 ^ 1075)⁻¹ = quantum := by
    rw [mul_inv_eq_iff_eq_mul₀ (pow_ne_zero _ two_ne_zero), mul_comm, show 1075 = 1074 + 1 from rfl,
      two_pow_mul_quantum, pow_one]
  rw [← hhalf]
  exact mul_le_mul_of_nonneg_left (hvalue.trans (inv_anti₀ (pow_pos two_pos _) hpower)) two_pos.le

/-- The number read for a decimal below the overflow bound is nearest to it. -/
theorem exists_ofDecimal (hlt : coefficient * 10 ^ exponent < overflowBound) :
    ∃ x, ofDecimal? false coefficient exponent = some x ∧
      IsNearest (coefficient * 10 ^ exponent) x := by
  unfold ofDecimal?
  -- One case for each branch of the reader: zero, too large, too small, and a quotient that is
  -- rounded.
  split
  · next hzero =>
    refine ⟨_, rfl, ?_⟩
    rw [hzero, Nat.cast_zero, zero_mul, ← toRat_zero false]
    exact isNearest_toRat _
  · next hne =>
    split
    · next hlarge => exact absurd hlt (not_lt.2 (overflowBound_le hne hlarge))
    · split
      · next hsmall => exact ⟨_, rfl, isNearest_zero (by positivity) (two_mul_le_quantum hsmall)⟩
      · have hquotient := quotient_mul_quantum coefficient exponent
        rw [← hquotient] at hlt ⊢
        obtain ⟨x, hx, -⟩ := exists_ofQuotient false (tenPower_pos _) hlt
        exact ⟨x, hx, isNearest_ofQuotient hx⟩

/-- No number is read for a decimal from the overflow bound on. -/
theorem ofDecimal_eq_none (negative : Bool) (h : overflowBound ≤ coefficient * 10 ^ exponent) :
    ofDecimal? negative coefficient exponent = none := by
  unfold ofDecimal?
  split
  · next hzero =>
    rw [hzero, Nat.cast_zero, zero_mul] at h
    exact absurd h (not_le.2 overflowBound_pos)
  · split
    · rfl
    · split
      · next hsmall =>
        -- Half a quantum is far below the bound.
        have hhalf := two_mul_le_quantum hsmall
        have hquantum : quantum ≤ 1 := by
          unfold quantum
          exact (div_le_one (by positivity)).2 (one_le_pow₀ one_le_two)
        linarith [one_le_overflowBound]
      · rw [← quotient_mul_quantum,
          ← lt_exponent_nearest_iff_overflowBound_le (tenPower_pos _)] at h
        exact dif_neg (Nat.not_le.2 h)

end Finite

end DonationSite.Binary64
