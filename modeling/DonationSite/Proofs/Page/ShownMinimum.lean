import DonationSite.Proofs.Donation.Displayed
import DonationSite.Proofs.Page.RewardLabels

/-!
# Typing the minimum that a tier shows

The reward selector shows the minimum of each tier after a euro sign. Whoever types that number
gives exactly the minimum, and so earns the tier.

## Key results

- `Rewards.minima_view`: what the selector shows of the minima
- `Rewards.shown_minimum_earns`: what typing a shown minimum earns
-/

namespace DonationSite.Page.Rewards

open Donation
open Html (Element)

variable {μ : Type}

/-- The element that shows the minimum of a tier. -/
def tierMinimum (tier : Tier) : Element μ where
  tag := "span"
  attributes := { classes := ["reward-minimum"] }
  body := .concat [.text ("€" ++ tier.minimum.display)]

/-- The minima that the selector shows, in the order of the tiers. -/
theorem minima_view (tiers : Tiers) (amount : Amount) :
    (view tiers amount : Html μ).withClass "reward-minimum" = tiers.tiers.map tierMinimum := by
  -- Each tier has one element of this class, and the note has none.
  have hone (i : Nat) (tier : Tier) :
      (tierView (tiers.select amount) i tier : Html μ).withClass "reward-minimum" =
        [tierMinimum tier] := by
    simp [tierView, tierMinimum]
  have hnone : (multipleNote : Html μ).find (·.hasClass "reward-minimum") = [] := by
    simp [multipleNote]
  rw [Html.withClass, find_view _ _ (by simp), List.flatMap_mapIdx_of_singleton hone, hnone,
    ite_self, List.append_nil]
  exact List.ext_getElem? fun i => by rw [List.getElem?_mapIdx, List.getElem?_map]

/-- The minimum of a tier is shown after a euro sign. -/
theorem content_tierMinimum (tier : Tier) :
    (tierMinimum tier : Element μ).body.content = "€" ++ tier.minimum.display := by
  show ("€" ++ tier.minimum.display) ++ "" = _
  rw [String.append_empty]

/-- The selector shows the minimum of each offer after a euro sign. Typing what is shown there gives
exactly that minimum, with its sign and all its digits; with it the tier is not small, and the
checked tier qualifies and asks for as much. -/
theorem shown_minimum_earns {offers : List Offer} {tiers : Tiers}
    (h : Tiers.ofOffers offers = .ok tiers) {i : Nat} {offer : Offer} (hi : offers[i]? = some offer)
    (before : Amount) :
    ((view tiers before : Html μ).withClass "reward-minimum")[i]?.map (·.body.content) =
        some ("€" ++ Binary64.display offer.minimum) ∧
      offer.minimum = .finite (Amount.parse (Binary64.display offer.minimum)).value ∧
      (tiers.select (.parse (Binary64.display offer.minimum))).isSmall i = false ∧
      ∃ j checked,
        (tiers.select (.parse (Binary64.display offer.minimum))).checked = .qualifying j ∧
        tiers.tiers[j]? = some checked ∧
        checked.minimum.value.quanta =
          (Amount.parse (Binary64.display offer.minimum)).value.quanta := by
  rw [← Tiers.offers_of_ofOffers h, List.getElem?_map, Option.map_eq_some_iff] at hi
  obtain ⟨tier, htier, rfl⟩ := hi
  -- All four parts are about the minimum itself once the shown text is read back.
  have hparse : Amount.parse (Binary64.display tier.offer.minimum) = tier.minimum :=
    tier.minimum.parse_display
  refine ⟨?_, ?_, ?_⟩
  · rw [minima_view, List.getElem?_map, htier, Option.map_some, Option.map_some,
      content_tierMinimum]
    rfl
  · rw [hparse]
    rfl
  · rw [hparse]
    exact tiers.earns_minimum htier

/-- The least number above zero. -/
def leastNumber : Binary64.Finite :=
  { Binary64.Finite.zero false with
    significand := 1
    significand_lt := by decide
    normalized := .inl rfl }

/-- The largest number. -/
def largestNumber : Binary64.Finite where
  negative := false
  significand := 1 <<< 53 - 1
  exponent := 2045
  significand_lt := by decide
  exponent_le := by decide
  normalized := .inr (by decide)

/-- Offers for minus zero, the least number above zero, zero and the largest number. -/
def extremeOffers : List Offer := [
  ⟨0, "Minus zero", .finite (.zero true)⟩,
  ⟨1, "Least", .finite leastNumber⟩,
  ⟨2, "Zero", .finite (.zero false)⟩,
  ⟨3, "Largest", .finite largestNumber⟩]

/-- The tiers of `extremeOffers`. -/
def extremeTiers : Tiers where
  tiers := [
    ⟨0, "Minus zero", ⟨.zero true, Binary64.Finite.isBelowZero_zero true⟩⟩,
    ⟨1, "Least", ⟨leastNumber, rfl⟩⟩,
    ⟨2, "Zero", ⟨.zero false, Binary64.Finite.isBelowZero_zero false⟩⟩,
    ⟨3, "Largest", ⟨largestNumber, rfl⟩⟩]
  nonempty := by decide

/-- Minus zero is shown with its sign; typing it gives minus zero and checks the last of the two
tiers that ask for nothing. The least and the largest number read back as well. -/
theorem shown_minimum_earns_extremes :
    Tiers.ofOffers extremeOffers = .ok extremeTiers ∧
      (((view extremeTiers .zero : Html Empty).withClass "reward-minimum")[0]?.map
        (·.body.content)) = some "€-0" ∧
      (Amount.parse "-0").value = .zero true ∧
      extremeTiers.select (.parse "-0") =
        { checked := .qualifying 2, small := [false, true, false, true], qualifying := 2 } ∧
      ∀ offer ∈ extremeOffers,
        offer.minimum = .finite (Amount.parse (Binary64.display offer.minimum)).value := by
  have haccepted : Tiers.ofOffers extremeOffers = .ok extremeTiers := rfl
  have hminus : Binary64.display (.finite (.zero true)) = "-0" := rfl
  obtain ⟨hshown, hminimum, -⟩ :=
    shown_minimum_earns (μ := Empty) haccepted (i := 0) rfl .zero
  rw [hminus] at hshown hminimum
  refine ⟨haccepted, hshown, (Binary64.finite.inj hminimum).symm, by decide +kernel, ?_⟩
  -- The last part is the theorem again, for each of the offers.
  intro offer hmem
  obtain ⟨i, hi⟩ := List.mem_iff_getElem?.1 hmem
  exact (shown_minimum_earns (μ := Empty) haccepted hi .zero).2.1

end DonationSite.Page.Rewards
