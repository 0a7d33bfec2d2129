import DonationSite.Donation.Amount

/-!
# Amounts are not below zero
-/

namespace DonationSite.Donation.Amount

open Binary64 (Finite)

/-- A number with a minus sign that is not below zero is minus zero. -/
theorem quanta_of_negative {x : Finite} (hnegative : x.negative = true)
    (hx : x.isBelowZero = false) : x.quanta = 0 := by
  rw [Finite.isBelowZero, hnegative, Bool.true_and] at hx
  have hsignificand : x.significand = 0 := by simpa using hx
  rw [Finite.quanta, if_pos hnegative, Finite.magnitude, hsignificand, Nat.zero_shiftLeft]
  rfl

/-- The exact value of an amount is not below zero. -/
theorem quanta_nonneg (a : Amount) : 0 ≤ a.value.quanta := by
  cases hsign : a.value.negative with
  | false =>
    rw [Finite.quanta, hsign, if_neg Bool.false_ne_true]
    exact Int.natCast_nonneg _
  | true => exact Int.le_of_eq (quanta_of_negative hsign a.notBelowZero).symm

/-- A number is below zero by its sign and significand exactly if its value is less than zero. -/
theorem isBelowZero_iff {x : Finite} : x.isBelowZero = true ↔ x.quanta < 0 := by
  constructor
  · intro h
    rw [Finite.isBelowZero, Bool.and_eq_true, bne_iff_ne] at h
    obtain ⟨hnegative, hsignificand⟩ := h
    -- It takes a sign and a significand to be below zero, and then the magnitude is not zero.
    have hpos : 0 < x.magnitude := by
      rw [Finite.magnitude, Nat.shiftLeft_eq]
      exact Nat.mul_pos (Nat.pos_of_ne_zero hsignificand) (Nat.two_pow_pos _)
    rw [Finite.quanta, if_pos hnegative]
    omega
  · intro hlt
    cases hx : x.isBelowZero with
    | true => rfl
    | false =>
      -- A number that is not below zero is an amount.
      have hnonneg : 0 ≤ x.quanta := quanta_nonneg ⟨x, hx⟩
      omega

end DonationSite.Donation.Amount
