import DonationSite.Proofs.Donation.Selection
import DonationSite.Proofs.Donation.TypedAmount
import DonationSite.Settings

/-!
# Typing more loses no reward

A larger amount reaches every tier that a smaller one does, so at least as many tiers qualify and
the checked one asks for no less. Typed amounts grow with the exact values of the literals, although
each is rounded, and a literal reaches every minimum that its exact value does.

## Key results

- `Tiers.select_mono`: a larger amount loses no reward
- `Tiers.typing_more_loses_nothing`: neither does a literal with a larger value
-/

namespace DonationSite.Donation

open Binary64 (LiteralText overflowBound digitsValue signed)

/-- What earns one selection also earns the other. -/
structure Selection.LosesNothing (tiers : List Tier) (less more : Selection) : Prop where
  /-- Every tier that is not small stays so. -/
  small : ∀ i, less.isSmall i = false → more.isSmall i = false
  qualifying : less.qualifying ≤ more.qualifying
  /-- After a qualifying tier another one is checked that asks for at least as much. -/
  checked : ∀ i, less.checked = .qualifying i → ∃ j before after, more.checked = .qualifying j ∧
    tiers[i]? = some before ∧ tiers[j]? = some after ∧ before.minimum ≤ after.minimum

namespace Tiers

variable (tiers : Tiers) {less more : Amount}

/-- A place is not small if the amount reaches the tier there, or if no tier is there. -/
theorem isSmall_select_eq_false_iff (amount : Amount) (i : Nat) :
    (tiers.select amount).isSmall i = false ↔
      ∀ tier, tiers.tiers[i]? = some tier → tier.minimum ≤ amount := by
  cases hget : tiers.tiers[i]? with
  | none => simp [Selection.isSmall, small_select, hget]
  | some tier =>
    rw [isSmall_select tiers amount hget, decide_eq_false_iff_not, Amount.not_lt]
    simp

/-- A tier that the amount reaches is not small. -/
theorem isSmall_select_of_le {amount : Amount} {i : Nat} {tier : Tier}
    (hget : tiers.tiers[i]? = some tier) (hle : tier.minimum ≤ amount) :
    (tiers.select amount).isSmall i = false := by
  rw [isSmall_select tiers amount hget, decide_eq_false_iff_not]
  exact Amount.not_lt.2 hle

/-- The tiers that an amount reaches are counted. -/
theorem qualifying_select (amount : Amount) :
    (tiers.select amount).qualifying =
      tiers.tiers.countP fun tier => decide (tier.minimum ≤ amount) := by
  have hscan := tiers.scan_sound amount
  show (tiers.scan amount).qualifying = _
  -- What the flags say is counted, and a flag says whether the minimum is reached.
  rw [hscan.qualifying, hscan.small, List.count, List.countP_map]
  apply List.countP_congr
  intro tier _
  simp [Amount.not_lt]

/-- A larger amount loses no reward. -/
theorem select_mono (hle : less ≤ more) :
    Selection.LosesNothing tiers.tiers (tiers.select less) (tiers.select more) where
  small i := by
    rw [isSmall_select_eq_false_iff, isSmall_select_eq_false_iff]
    exact fun h tier hget => Amount.le_trans (h tier hget) hle
  qualifying := by
    rw [qualifying_select, qualifying_select]
    apply List.countP_mono_left
    intro tier _ hreached
    exact decide_eq_true (Amount.le_trans (of_decide_eq_true hreached) hle)
  checked i hchecked := by
    rcases tiers.checked_select less with ⟨index, before, hbefore, hleast⟩ | ⟨_, _, hfallback, -⟩
    · obtain rfl : index = i := by
        rw [hbefore] at hchecked
        exact Checked.qualifying.inj hchecked
      -- The larger amount reaches it as well, and checks a tier that asks for no less.
      have hreached := Amount.le_trans hleast.is_among hle
      have hmem := List.mem_of_getElem? hleast.at_index
      rcases tiers.checked_select more with ⟨j, after, hafter, hmost⟩ | ⟨_, _, -, hnone, -⟩
      · exact ⟨j, before, after, hafter, hleast.at_index, hmost.at_index,
          hmost.largest before hmem hreached⟩
      · exact absurd (hnone before hmem) (Amount.not_lt.2 hreached)
    -- After a fallback nothing was earned that could be lost.
    · rw [hfallback] at hchecked
      cases hchecked

variable {s t : String} {x y : ℚ}

/-- A literal with a larger value loses no reward unless it is too large to be a number, and no
literal loses a reward whose minimum its exact value reaches. -/
theorem typing_more_loses_nothing (hs : LiteralText (Text.trim s).toList x)
    (ht : LiteralText (Text.trim t).toList y) (hxy : x ≤ y) (hlt : y < overflowBound) :
    Selection.LosesNothing tiers.tiers (tiers.select (.parse s)) (tiers.select (.parse t)) ∧
      (∀ (i : Nat) (tier : Tier), tiers.tiers[i]? = some tier →
        (tier.minimum.value.toRat ≤ x → (tiers.select (.parse s)).isSmall i = false) ∧
        (tier.minimum.value.toRat ≤ y → (tiers.select (.parse t)).isSmall i = false)) := by
  refine ⟨tiers.select_mono (Amount.parse_mono hs ht hxy hlt), fun i tier hget => ⟨?_, ?_⟩⟩
  · intro hreached
    exact tiers.isSmall_select_of_le hget (Amount.le_parse hs (hxy.trans_lt hlt) hreached)
  · intro hreached
    exact tiers.isSmall_select_of_le hget (Amount.le_parse ht hlt hreached)

end Tiers

/-- Two and a half hundred with a point and an exponent, and five hundred with a sign, a zero ahead
and a point at the end: the second one earns one reward more. -/
theorem typing_more_loses_nothing_twoSpellings :
    LiteralText (Text.trim " 2.5e2").toList 250 ∧ LiteralText (Text.trim "+0500.\t").toList 500 ∧
      (500 : ℚ) < overflowBound ∧
      Selection.LosesNothing Settings.rewardTiers.tiers
        (Settings.rewardTiers.select (.parse " 2.5e2"))
        (Settings.rewardTiers.select (.parse "+0500.\t")) ∧
      Settings.rewardTiers.select (.parse " 2.5e2") =
        { checked := .qualifying 2, small := [false, false, false, true], qualifying := 3 } ∧
      Settings.rewardTiers.select (.parse "+0500.\t") =
        { checked := .qualifying 3, small := [false, false, false, false], qualifying := 4 } := by
  -- The literals are put together from their parts.
  have hs : LiteralText (Text.trim " 2.5e2").toList 250 := by
    have htext : (Text.trim " 2.5e2").toList =
        [] ++ ((['2'] ++ '.' :: ['5']) ++ ('e' :: [] ++ ['2'])) := by decide
    have hvalue : (250 : ℚ) =
        signed false ((digitsValue ['2'] + digitsValue ['5'] / 10 ^ 1) * 10 ^ (2 : Int)) := by
      rw [show digitsValue ['2'] = 2 by decide, show digitsValue ['5'] = 5 by decide]
      norm_num [signed]
    rw [htext, hvalue]
    exact .mk .none (.pointed (by decide) (by decide) (by decide))
      (.marked (.inl rfl) .none (by decide) (by decide))
  have ht : LiteralText (Text.trim "+0500.\t").toList 500 := by
    have htext : (Text.trim "+0500.\t").toList =
        ['+'] ++ ((['0', '5', '0', '0'] ++ '.' :: []) ++ []) := by decide
    have hvalue : (500 : ℚ) = signed false
        ((digitsValue ['0', '5', '0', '0'] + digitsValue [] / 10 ^ 0) * 10 ^ (0 : Int)) := by
      rw [show digitsValue ['0', '5', '0', '0'] = 500 by decide]
      norm_num [signed, digitsValue]
    rw [htext, hvalue]
    exact .mk .plus (.pointed (by decide) (by decide) (by decide)) .none
  have hlt : (500 : ℚ) < overflowBound := by
    have hpower : (1 : ℚ) ≤ 2 ^ 970 := one_le_pow₀ one_le_two
    unfold overflowBound
    generalize (2 : ℚ) ^ 970 = power at hpower
    linarith
  have hboth := Settings.rewardTiers.typing_more_loses_nothing hs ht (by norm_num) hlt
  exact ⟨hs, ht, hlt, hboth.1, by decide +kernel, by decide +kernel⟩

end DonationSite.Donation
