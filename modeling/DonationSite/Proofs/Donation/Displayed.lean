import DonationSite.Proofs.Binary64.Written
import DonationSite.Proofs.Donation.ExactAmount
import DonationSite.Proofs.Donation.TypedMore

/-!
# Typing a displayed amount

An amount that is typed as it is displayed is that amount again, with the same sign, significand and
exponent. So whoever types the minimum of a tier earns the tier, and the checked tier asks for as
much.

## Key results

- `Amount.parse_display`: a displayed amount reads back
- `Tiers.earns_minimum`: what the minimum of a tier earns
-/

namespace DonationSite.Donation

open Binary64 (Finite IsNearest overflowBound signed)

/-- An amount is the number nearest to the decimal that is displayed for it, which is neither below
zero nor too large. -/
theorem Amount.isNearest_shortest (a : Amount) (tie : Binary64.Tie) :
    0 ≤ signed a.value.negative (a.value.shortest tie).toRat ∧
      signed a.value.negative (a.value.shortest tie).toRat < overflowBound ∧
      IsNearest (signed a.value.negative (a.value.shortest tie).toRat) a.value := by
  -- Zero is displayed as a single digit, with its sign, and is its own nearest number.
  by_cases hzero : a.value.significand = 0
  · have hvalue : a.value.toRat = 0 := by
      rw [Finite.toRat, Finite.quanta, Finite.magnitude, hzero, Nat.zero_shiftLeft]
      simp
    have hsigned : signed a.value.negative (a.value.shortest tie).toRat = 0 := by
      rw [Finite.shortest, if_pos hzero, Binary64.Digits.toRat, signed]
      simp
    rw [hsigned]
    refine ⟨le_rfl, Binary64.overflowBound_pos, ?_⟩
    rw [← hvalue]
    exact Finite.isNearest_toRat _
  · -- Other amounts are above zero.
    have hsign : a.value.negative = false := by
      have hnotBelow := a.notBelowZero
      rw [Finite.isBelowZero, Bool.and_eq_false_iff] at hnotBelow
      exact hnotBelow.resolve_right (by simpa using hzero)
    have hback := Finite.readsBack_shortest tie hzero
    rw [signed, hsign, if_neg Bool.false_ne_true]
    exact ⟨hback.nonneg, hback.lt_overflowBound, hback.isNearest hsign⟩

/-- An amount is its number; that this is not below zero is no further choice. -/
theorem Amount.eq_of_value {a b : Amount} (h : a.value = b.value) : a = b := by
  cases a
  cases b
  cases h
  rfl

/-- A displayed amount reads back. -/
theorem Amount.parse_display (a : Amount) : parse a.display = a := by
  obtain ⟨hnonneg, hlt, hnear⟩ := a.isNearest_shortest .up
  have hliteral := a.value.literalText_display
  -- A literal has no blank characters around it, so nothing is trimmed off.
  have htrim : (Text.trim a.display).toList = a.value.display.toList := by
    rw [Text.toList_trim]
    exact Text.trimChars_of_not_blank hliteral.isBlank_eq_false
  rw [← htrim] at hliteral
  refine (eq_of_value ((value_eq_iff hliteral hnonneg hlt a.value).2 ⟨hnear, ?_⟩)).symm
  rw [htrim]
  exact a.value.negative_iff_head_display

variable (tiers : Tiers) {i : Nat} {tier : Tier}

/-- The minimum of a tier earns the tier, and the checked tier asks for as much. -/
theorem Tiers.earns_minimum (h : tiers.tiers[i]? = some tier) :
    (tiers.select tier.minimum).isSmall i = false ∧
      ∃ j checked, (tiers.select tier.minimum).checked = .qualifying j ∧
        tiers.tiers[j]? = some checked ∧
        checked.minimum.value.quanta = tier.minimum.value.quanta := by
  have hself := Amount.le_refl tier.minimum
  have hmem := List.mem_of_getElem? h
  refine ⟨tiers.isSmall_select_of_le h hself, ?_⟩
  rcases tiers.checked_select tier.minimum with ⟨j, checked, hchecked, hlast⟩ | ⟨_, _, -, hnone, -⟩
  · -- The checked minimum is reached by that of the tier, and is the largest such.
    have hle := Amount.le_iff_quanta.1 hlast.is_among
    have hge := Amount.le_iff_quanta.1 (hlast.largest tier hmem hself)
    exact ⟨j, checked, hchecked, hlast.at_index, Int.le_antisymm hle hge⟩
  · exact absurd hself (Amount.not_le.2 (hnone tier hmem))

end DonationSite.Donation
