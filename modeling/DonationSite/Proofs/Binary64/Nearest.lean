import Mathlib.Tactic.FieldSimp
import DonationSite.Binary64.Round
import DonationSite.Proofs.Binary64.Value

/-!
# Rounding is to the nearest number

The number that a quotient is rounded to is at least as near to it as any other, and when another is
as near, its significand is even. There is such a number up to the middle of the largest one and
`2^1024`.

## Key results

- `nearest_nearest`: no significand with an exponent is nearer to a quotient than the rounded one
- `Finite.isNearest_ofQuotient`: a rounded quotient is a number nearest to it
- `Finite.exists_ofQuotient`: a quotient below the overflow bound is rounded to a number
-/

namespace DonationSite.Binary64

variable {num den : Nat}

/-- How far two whole numbers are apart. -/
def distance (m n : Nat) : Nat :=
  ((m : Int) - n).natAbs

/-! ### Whole numbers -/

/-- A rounded quotient is at most half away, and exactly half only if it is even. Everything is
doubled, and times the denominator. -/
theorem roundHalfEven_spec (num : Nat) (hden : 0 < den) :
    2 * num ≤ 2 * (roundHalfEven num den * den) + den ∧
      2 * (roundHalfEven num den * den) ≤ 2 * num + den ∧
      (2 * num = 2 * (roundHalfEven num den * den) + den ∨
        2 * (roundHalfEven num den * den) = 2 * num + den → roundHalfEven num den % 2 = 0) := by
  have hdiv := Nat.div_add_mod' num den
  have hmod := Nat.mod_lt num hden
  have hsucc : (num / den + 1) * den = num / den * den + den := Nat.succ_mul _ _
  unfold roundHalfEven
  dsimp only
  split
  · next hlow => exact ⟨by omega, by omega, by omega⟩
  · split
    · next hhigh => exact ⟨by omega, by omega, by omega⟩
    · -- Half way between two whole numbers, one of them even.
      rcases Nat.mod_two_eq_zero_or_one (num / den) with heven | hodd
      · rw [heven, Nat.add_zero]
        exact ⟨by omega, by omega, fun _ => heven⟩
      · rw [hodd]
        exact ⟨by omega, by omega, fun _ => by omega⟩

/-- No whole number is nearer to a quotient than the rounded one, and if another is as near, the
rounded one is even. -/
theorem roundHalfEven_nearest (num : Nat) (hden : 0 < den) (k : Nat) :
    distance (roundHalfEven num den * den) num ≤ distance (k * den) num ∧
      (distance (k * den) num = distance (roundHalfEven num den * den) num →
        k ≠ roundHalfEven num den → roundHalfEven num den % 2 = 0) := by
  obtain ⟨hlow, hhigh, heven⟩ := roundHalfEven_spec num hden
  generalize roundHalfEven num den = r at *
  unfold distance
  rcases Nat.lt_trichotomy k r with hlt | heq | hgt
  · -- A smaller one is smaller by a whole denominator.
    have hstep : (k + 1) * den ≤ r * den := Nat.mul_le_mul_right den hlt
    rw [Nat.succ_mul] at hstep
    generalize k * den = m at *
    generalize r * den = n at *
    exact ⟨by omega, fun h _ => heven (by omega)⟩
  · rw [heq]
    exact ⟨Nat.le_refl _, fun _ hne => absurd rfl hne⟩
  -- A larger one is larger by a whole denominator.
  · have hstep : (r + 1) * den ≤ k * den := Nat.mul_le_mul_right den hgt
    rw [Nat.succ_mul] at hstep
    generalize k * den = m at *
    generalize r * den = n at *
    exact ⟨by omega, fun h _ => heven (by omega)⟩

/-! ### Significands with exponents -/

/-- What the significand and the exponent stand for is a whole number of steps. -/
theorem magnitude_nearest (num den : Nat) :
    (nearest num den).1 * 2 ^ (nearest num den).2 =
      roundHalfEven num (den <<< exponentFor num den) * 2 ^ exponentFor num den := by
  unfold nearest
  dsimp only
  split
  · next hcarry =>
    -- The significand is halved and the exponent is one more.
    rw [hcarry, Nat.pow_succ']
    show 2 ^ 52 * (2 * _) = 2 ^ 53 * _
    omega
  · rfl

/-- A significand that was halved is even as well. -/
theorem significand_nearest_even
    (h : roundHalfEven num (den <<< exponentFor num den) % 2 = 0) :
    (nearest num den).1 % 2 = 0 := by
  unfold nearest
  dsimp only
  split
  -- What is halved is `2^53`, and half of it is still a power of two.
  · show 1 <<< 52 % 2 = 0
    decide
  · exact h

/-- No significand below `2^53` is with any exponent nearer to the quotient, and if another is as
near, the significand found is even. -/
theorem nearest_nearest (num : Nat) (hden : 0 < den) {significand : Nat}
    (hlt : significand < 2 ^ 53) (exponent : Nat) :
    distance ((nearest num den).1 * 2 ^ (nearest num den).2 * den) num ≤
        distance (significand * 2 ^ exponent * den) num ∧
      (distance (significand * 2 ^ exponent * den) num =
          distance ((nearest num den).1 * 2 ^ (nearest num den).2 * den) num →
        significand * 2 ^ exponent ≠ (nearest num den).1 * 2 ^ (nearest num den).2 →
        (nearest num den).1 % 2 = 0) := by
  rw [magnitude_nearest]
  generalize he : exponentFor num den = e
  have hstep : 0 < den <<< e := by
    rw [Nat.shiftLeft_eq]
    exact Nat.mul_pos hden (Nat.two_pow_pos e)
  -- Both numbers are compared in steps of `2 ^ e`, of which the rounded one is a whole number.
  have hscale (k : Nat) : k * 2 ^ e * den = k * (den <<< e) := by
    rw [Nat.shiftLeft_eq, Nat.mul_assoc, Nat.mul_comm (2 ^ e)]
  have heven (h : roundHalfEven num (den <<< e) % 2 = 0) : (nearest num den).1 % 2 = 0 :=
    significand_nearest_even (by rwa [he])
  rw [hscale]
  rcases multiple_or_below hlt exponent e with hmultiple | ⟨hne, hbelow⟩
  · -- The other number is a whole number of steps too.
    obtain ⟨hnear, htie⟩ :=
      roundHalfEven_nearest num hstep (significand * 2 ^ (exponent - e))
    rw [hmultiple, hscale]
    refine ⟨hnear, fun heq hne => heven (htie heq fun hsame => ?_)⟩
    rw [hsame] at hne
    exact hne rfl
  · -- The other number is below the least significand with 53 bits, and the quotient is not.
    have hlower : den <<< exponentFor num den * 1 <<< 52 ≤ num :=
      mul_exponentFor_le hden (by rwa [he])
    rw [he, Nat.one_shiftLeft, Nat.mul_comm] at hlower
    have hless : significand * 2 ^ exponent * den < 2 ^ 52 * (den <<< e) := by
      rw [← hscale]
      exact Nat.mul_lt_mul_of_pos_right hbelow hden
    obtain ⟨hnear, -⟩ := roundHalfEven_nearest num hstep (2 ^ 52)
    have hfar : distance (2 ^ 52 * (den <<< e)) num <
        distance (significand * 2 ^ exponent * den) num := by
      unfold distance
      omega
    exact ⟨Nat.le_of_lt (Nat.lt_of_le_of_lt hnear hfar), fun heq _ => by omega⟩

/-! ### Finite numbers -/

/-- The middle of the largest number and `2^1024`, from which on values are rounded to an
infinity. -/
def overflowBound : ℚ :=
  (2 ^ 54 - 1) * 2 ^ 970

/-- A number with a significand below `2^53` and a smaller exponent is at most the largest one with
that exponent, and as large only if its significand is the largest, which is odd. -/
theorem le_largest {significand exponent top : Nat} (hlt : significand < 2 ^ 53)
    (hle : exponent ≤ top) :
    significand * 2 ^ exponent ≤ (2 ^ 53 - 1) * 2 ^ top ∧
      (significand * 2 ^ exponent = (2 ^ 53 - 1) * 2 ^ top → significand % 2 = 1) := by
  have hpower : 2 ^ exponent ≤ 2 ^ top := Nat.pow_le_pow_right (by decide) hle
  have hsignificand : significand ≤ 2 ^ 53 - 1 := by omega
  refine ⟨Nat.mul_le_mul hsignificand hpower, fun heq => ?_⟩
  rcases Nat.lt_or_ge significand (2 ^ 53 - 1) with hless | hge
  -- With a smaller significand it is smaller, whatever the exponents are.
  · have hstrict : significand * 2 ^ exponent < (2 ^ 53 - 1) * 2 ^ top :=
      Nat.mul_lt_mul_of_lt_of_le hless hpower (Nat.two_pow_pos top)
    exact absurd heq (Nat.ne_of_lt hstrict)
  · omega

/-- The rounded number has a larger exponent exactly from the middle of the largest number with that
exponent and the next power of two on. -/
theorem lt_exponent_nearest_iff (hden : 0 < den) (top : Nat) :
    top < (nearest num den).2 ↔ (2 ^ 54 - 1) * 2 ^ top * den ≤ 2 * num := by
  have hlt : (nearest num den).1 < 2 ^ 53 := nearest_lt hden
  have hnormal : (nearest num den).2 = 0 ∨ 2 ^ 52 ≤ (nearest num den).1 := nearest_normalized hden
  have hlargest := nearest_nearest num hden (by decide : 2 ^ 53 - 1 < 2 ^ 53) top
  have hnext := nearest_nearest num hden (by decide : 2 ^ 52 < 2 ^ 53) (top + 1)
  rw [next_eq] at hnext
  generalize nearest num den = rounded at *
  unfold distance at hlargest hnext
  -- The rounded number lies between the two that it is compared with or beyond them.
  have hstep : 0 < 2 ^ top * den := Nat.mul_pos (Nat.two_pow_pos top) hden
  have hscale (k : Nat) : k * 2 ^ top * den = k * (2 ^ top * den) := Nat.mul_assoc _ _ _
  rw [hscale] at hlargest hnext ⊢
  constructor
  · -- The largest number with the exponent is no nearer than the rounded one.
    intro hgt
    have hlarge : 2 ^ 52 * 2 ^ (top + 1) ≤ rounded.1 * 2 ^ rounded.2 :=
      Nat.mul_le_mul (hnormal.resolve_left (by omega)) (Nat.pow_le_pow_right (by decide) hgt)
    have hrounded := Nat.mul_le_mul_right den hlarge
    rw [next_eq, hscale] at hrounded
    omega
  · -- The next power of two is no nearer than the rounded number, which is even if it is as near.
    intro hle
    by_contra hgt
    obtain ⟨hmost, hodd⟩ := le_largest hlt (Nat.le_of_not_lt hgt)
    have hrounded := Nat.mul_le_mul_right den hmost
    rw [hscale] at hrounded
    have hsame : rounded.1 * 2 ^ rounded.2 * den = (2 ^ 53 - 1) * 2 ^ top * den := by
      rw [hscale]
      omega
    have hlast := Nat.eq_of_mul_eq_mul_right hden hsame
    have hpos := Nat.two_pow_pos top
    have heven := hnext.2 (by omega) (by rw [hlast]; omega)
    rw [hodd hlast] at heven
    exact absurd heven (by decide)

namespace Finite

variable {hden : 0 < den} {x : Finite}

/-- How far a magnitude is from a quotient, with the fraction cleared. -/
theorem abs_magnitude_sub (hden : 0 < den) (m : Nat) :
    |m * quantum - num / den * quantum| = distance (m * den) num * (quantum / den) := by
  have hpos : (0 : ℚ) < den := Nat.cast_pos.2 hden
  have hclear : (m : ℚ) * quantum - num / den * quantum =
      ((m * den : Nat) - num : Int) * (quantum / den) := by
    push_cast
    field_simp
  rw [hclear, abs_mul, abs_of_pos (div_pos quantum_pos hpos), distance, Nat.cast_natAbs,
    Int.cast_abs]

/-- A rounded quotient is a number nearest to it. -/
theorem isNearest_ofQuotient (h : ofQuotient? false num den hden = some x) :
    IsNearest (num / den * quantum) x := by
  obtain ⟨_, hx⟩ := Option.dite_none_right_eq_some.1 h
  obtain rfl := Option.some.inj hx
  have hq : (0 : ℚ) ≤ num / den * quantum :=
    mul_nonneg (div_nonneg num.cast_nonneg den.cast_nonneg) quantum_pos.le
  have hunit : 0 < quantum / den := div_pos quantum_pos (Nat.cast_pos.2 hden)
  -- The distances are whole numbers times one unit.
  have hdistance (z : Finite) : |z.magnitude * quantum - num / den * quantum| =
      distance (z.significand * 2 ^ z.exponent * den) num * (quantum / den) := by
    rw [abs_magnitude_sub hden, magnitude_eq]
  have hcompare (z : Finite) := nearest_nearest num hden z.significand_lt z.exponent
  refine isNearest_of_magnitude hq (toRat_of_not_negative rfl) (fun z => ?_) (fun z heq hne => ?_)
  · rw [toRat_of_not_negative rfl, hdistance, hdistance]
    exact mul_le_mul_of_nonneg_right (Nat.cast_le.2 (hcompare z).1) hunit.le
  · rw [toRat_of_not_negative rfl, hdistance, hdistance] at heq
    rw [magnitude_eq, magnitude_eq] at hne
    exact (hcompare z).2 (Nat.cast_inj.1 (mul_right_cancel₀ hunit.ne' heq)) hne

/-- A quotient is too large exactly from the overflow bound on. -/
theorem lt_exponent_nearest_iff_overflowBound_le (hden : 0 < den) :
    2045 < (nearest num den).2 ↔ overflowBound ≤ num / den * quantum := by
  have hpos : (0 : ℚ) < den := Nat.cast_pos.2 hden
  -- The middle is counted in halves of the last quantum, so that it is a whole number.
  have hbound : 2 * overflowBound = (2 ^ 54 - 1) * 2 ^ 2045 * quantum := by
    rw [show 2045 = 1074 + 971 from rfl, mul_assoc, two_pow_mul_quantum, pow_succ _ 970,
      ← mul_assoc, mul_comm _ 2, overflowBound]
  have hcast (top : Nat) : (((2 ^ 54 - 1) * 2 ^ top * den : Nat) : ℚ) =
      (2 ^ 54 - 1) * 2 ^ top * den := by
    push_cast
    norm_num
  have hnum : ((2 * num : Nat) : ℚ) = 2 * num := Nat.cast_mul 2 num
  calc 2045 < (nearest num den).2
    _ ↔ (2 ^ 54 - 1) * 2 ^ 2045 * den ≤ 2 * num := lt_exponent_nearest_iff hden 2045
    _ ↔ (2 ^ 54 - 1) * 2 ^ 2045 * (den : ℚ) ≤ 2 * num := by rw [← hcast, ← hnum, Nat.cast_le]
    _ ↔ (2 ^ 54 - 1) * 2 ^ 2045 ≤ 2 * (num / den : ℚ) := by
      rw [← mul_div_assoc, le_div_iff₀ hpos]
    _ ↔ 2 * overflowBound ≤ 2 * (num / den * quantum) := by
      rw [hbound, ← mul_assoc, mul_le_mul_iff_left₀ quantum_pos]
    _ ↔ overflowBound ≤ num / den * quantum := mul_le_mul_iff_right₀ two_pos

/-- A quotient below the overflow bound is rounded to a number. -/
theorem exists_ofQuotient (negative : Bool) (hden : 0 < den)
    (hlt : num / den * quantum < overflowBound) :
    ∃ x, ofQuotient? negative num den hden = some x ∧ x.negative = negative := by
  have hle : (nearest num den).2 ≤ 2045 := by
    rw [← Nat.not_lt, lt_exponent_nearest_iff_overflowBound_le hden]
    exact not_le.2 hlt
  exact ⟨_, dif_pos hle, rfl⟩

end Finite

end DonationSite.Binary64
