import DonationSite.Binary64.Basic

/-!
# Rounding to the nearest number

The finite number nearest to a quotient of natural numbers, a tie going to the even significand.
A quotient counts quanta of `2^(-1074)`. There is no such number when the rounded value would be
`2^1024` or more.

## Key results

- `roundHalfEven_le`, `le_roundHalfEven`: a rounded quotient keeps the bounds of the quotient
- `nearest_lt`, `nearest_normalized`: the rounded significand is in the range a finite number needs
-/

namespace DonationSite.Binary64

/-- The whole number nearest to `num / den`; a tie goes to the even one. -/
def roundHalfEven (num den : Nat) : Nat :=
  let quotient := num / den
  let rest := num % den
  if 2 * rest < den then quotient
  else if den < 2 * rest then quotient + 1
  else quotient + quotient % 2

/-- A quotient below a whole number is rounded to that number at most. -/
theorem roundHalfEven_le {num den bound : Nat} (h : num < den * bound) :
    roundHalfEven num den ≤ bound := by
  have : num / den < bound := Nat.div_lt_of_lt_mul h
  unfold roundHalfEven
  dsimp only
  split
  · omega
  · split <;> omega

/-- A quotient of at least a whole number is not rounded below that number. -/
theorem le_roundHalfEven {num den bound : Nat} (hden : 0 < den) (h : den * bound ≤ num) :
    bound ≤ roundHalfEven num den := by
  have : bound ≤ num / den := (Nat.le_div_iff_mul_le hden).2 (by rwa [Nat.mul_comm])
  unfold roundHalfEven
  dsimp only
  split
  · omega
  · split <;> omega

/-- The exponent at which `num / den` has 53 significant bits, or zero if it has fewer. -/
def exponentFor (num den : Nat) : Nat :=
  Nat.log2 (num / den) - 52

/-- The significand and exponent of the number nearest to `num / den`. A significand that rounds
up to `2^53` is halved. -/
def nearest (num den : Nat) : Nat × Nat :=
  let exponent := exponentFor num den
  let significand := roundHalfEven num (den <<< exponent)
  if significand = 1 <<< 53 then (1 <<< 52, exponent + 1) else (significand, exponent)

/-- At the exponent chosen for it, a quotient stays below `2^53`. -/
theorem lt_mul_exponentFor {num den : Nat} (hden : 0 < den) :
    num < den <<< exponentFor num den * 1 <<< 53 := by
  -- No quotient reaches the power of two that follows its own logarithm.
  have hlog : num / den < 2 ^ (exponentFor num den + 53) :=
    Nat.lt_of_lt_of_le Nat.lt_log2_self
      (Nat.pow_le_pow_right (by decide) (by unfold exponentFor; omega))
  rw [Nat.shiftLeft_eq, Nat.one_shiftLeft, Nat.mul_assoc, ← Nat.pow_add, Nat.mul_comm]
  exact (Nat.div_lt_iff_lt_mul hden).1 hlog

/-- An exponent above zero is chosen only if the quotient keeps 53 significant bits at it. -/
theorem mul_exponentFor_le {num den : Nat} (hden : 0 < den)
    (he : exponentFor num den ≠ 0) : den <<< exponentFor num den * 1 <<< 52 ≤ num := by
  -- The exponent of a quotient of zero would be zero.
  have hne : num / den ≠ 0 := by
    intro h0
    exact he (by simp [exponentFor, h0])
  have hlog : 2 ^ (exponentFor num den + 52) ≤ num / den := by
    have hsum : exponentFor num den + 52 = Nat.log2 (num / den) := by
      unfold exponentFor at he ⊢; omega
    rw [hsum]
    exact Nat.log2_self_le hne
  rw [Nat.shiftLeft_eq, Nat.one_shiftLeft, Nat.mul_assoc, ← Nat.pow_add, Nat.mul_comm]
  exact (Nat.le_div_iff_mul_le hden).1 hlog

/-- Shifting keeps a number above zero, so the divisors here are never zero. -/
private theorem shiftLeft_pos {n : Nat} (h : 0 < n) (k : Nat) : 0 < n <<< k := by
  rw [Nat.shiftLeft_eq]
  exact Nat.mul_pos h (Nat.two_pow_pos k)

/-- The significand of the nearest number has at most 53 bits. -/
theorem nearest_lt {num den : Nat} (hden : 0 < den) : (nearest num den).1 < 1 <<< 53 := by
  have hle : roundHalfEven num (den <<< exponentFor num den) ≤ 1 <<< 53 :=
    roundHalfEven_le (lt_mul_exponentFor hden)
  unfold nearest
  dsimp only
  -- Either it was rounded up to `2^53` and halved, or it is another number that is not above that.
  split
  · exact (by decide : 1 <<< 52 < 1 <<< 53)
  · next hne => exact Nat.lt_of_le_of_ne hle hne

/-- The nearest number has all of its 53 bits, unless its exponent is zero. -/
theorem nearest_normalized {num den : Nat} (hden : 0 < den) :
    (nearest num den).2 = 0 ∨ 1 <<< 52 ≤ (nearest num den).1 := by
  unfold nearest
  dsimp only
  split
  · exact .inr (Nat.le_refl _)
  · by_cases he : exponentFor num den = 0
    · exact .inl he
    · exact .inr (le_roundHalfEven (shiftLeft_pos hden _) (mul_exponentFor_le hden he))

namespace Finite

/-- The number nearest to `± num / den` quanta; none if that is too large. -/
def ofQuotient? (negative : Bool) (num den : Nat) (hden : 0 < den) : Option Finite :=
  if h : (nearest num den).2 ≤ 2045 then
    some {
      negative := negative
      significand := (nearest num den).1
      exponent := (nearest num den).2
      significand_lt := nearest_lt hden
      exponent_le := h
      normalized := nearest_normalized hden }
  else none

/-- A whole number below `2^53`, which is a finite number exactly. -/
def ofNat (n : Nat) (h : n < 1 <<< 53) : Finite :=
  if hn : n = 0 then zero false else {
    negative := false
    significand := n <<< (52 - n.log2)
    exponent := 1022 + n.log2
    significand_lt := by
      -- One more than the logarithm and the shift add up to 53 bits.
      have hlog : n.log2 < 53 := (Nat.log2_lt hn).2 (by rwa [Nat.one_shiftLeft] at h)
      have := Nat.mul_lt_mul_of_pos_right (@Nat.lt_log2_self n) (Nat.two_pow_pos (52 - n.log2))
      rw [← Nat.pow_add, show n.log2 + 1 + (52 - n.log2) = 53 by omega] at this
      rwa [Nat.shiftLeft_eq, Nat.one_shiftLeft]
    exponent_le := by
      have hlog : n.log2 < 53 := (Nat.log2_lt hn).2 (by rwa [Nat.one_shiftLeft] at h)
      omega
    normalized := by
      -- The highest bit is moved to the place of the hidden one.
      have hlog : n.log2 < 53 := (Nat.log2_lt hn).2 (by rwa [Nat.one_shiftLeft] at h)
      have := Nat.mul_le_mul_right (2 ^ (52 - n.log2)) (Nat.log2_self_le hn)
      rw [← Nat.pow_add, show n.log2 + (52 - n.log2) = 52 by omega] at this
      right
      rwa [Nat.shiftLeft_eq, Nat.shiftLeft_eq, Nat.one_mul] }

/-- The rounded product; none if that is too large. -/
def mul? (x y : Finite) : Option Finite :=
  ofQuotient? (x.negative != y.negative) (x.magnitude * y.magnitude) (1 <<< 1074)
    (shiftLeft_pos (by decide) _)

/-- The rounded quotient; none if that is too large or the divisor is zero. -/
def div? (x y : Finite) : Option Finite :=
  if h : 0 < y.magnitude then
    ofQuotient? (x.negative != y.negative) (x.magnitude <<< 1074) y.magnitude h
  else none

/-- The number nearest to `± coefficient * 10^exponent`; none if that is too large. Coefficients
and exponents that leave no doubt are settled without computing the power of ten. -/
def ofDecimal? (negative : Bool) (coefficient : Nat) (exponent : Int) : Option Finite :=
  if coefficient = 0 then some (zero negative)
  else if 310 < exponent then none
  else if exponent + coefficient.log2 + 1 < -330 then some (zero negative)
  else
    ofQuotient? negative ((coefficient * tenPower exponent.toNat) <<< 1074)
      (tenPower (-exponent).toNat) (tenPower_pos _)

end Finite

end DonationSite.Binary64
