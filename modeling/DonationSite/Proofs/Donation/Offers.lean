import DonationSite.Proofs.Donation.Amount
import DonationSite.Proofs.Donation.Selection

/-!
# Offers that are no tiers

A list of offers becomes a set of tiers exactly if there is an offer and the minimum of each is a
finite number that is not below zero; minus zero is not. Otherwise the error names the first offer
in display order whose minimum is none, whatever stands after it.

## Key results

- `readOffers_eq_error_iff`: which offer an error names
- `Tiers.ofOffers_eq_ok_iff`: accepted are the lists of offers that are made of tiers, as they are
- `ofOffers_reported`: what becomes of any list of offers
-/

namespace DonationSite.Donation

open Binary64 (Finite)

/-- A minimum that no tier has: it is no number, not finite, or less than zero. -/
inductive Unacceptable : Binary64 → Prop
  | nan : Unacceptable .nan
  | infinite (negative : Bool) : Unacceptable (.infinite negative)
  | belowZero (x : Finite) : x.quanta < 0 → Unacceptable (.finite x)

/-- A finite minimum is unacceptable exactly if it is less than zero. -/
theorem unacceptable_finite_iff {x : Finite} : Unacceptable (.finite x) ↔ x.quanta < 0 := by
  constructor
  · intro h
    cases h with
    | belowZero _ hlt => exact hlt
  · exact .belowZero x

/-- Neither zero is less than zero. -/
theorem not_unacceptable_zero (negative : Bool) : ¬Unacceptable (.finite (.zero negative)) := by
  rw [unacceptable_finite_iff, Finite.quanta_zero]
  exact Int.lt_irrefl 0

/-! ### One offer -/

/-- The offer that is made of a tier is made into this tier. -/
theorem ofOffer?_offer (tier : Tier) : Tier.ofOffer? tier.offer = some tier := by
  have hminimum : Amount.ofBinary64? (.finite tier.minimum.value) = some tier.minimum := by
    rw [Amount.ofBinary64?, dif_pos tier.minimum.notBelowZero]
  rw [Tier.ofOffer?, Tier.offer, hminimum]
  rfl

/-- An offer is refused exactly if its minimum is unacceptable. -/
theorem ofOffer?_eq_none_iff {offer : Offer} :
    Tier.ofOffer? offer = none ↔ Unacceptable offer.minimum := by
  obtain ⟨reward, label, minimum⟩ := offer
  rw [Tier.ofOffer?, Option.map_eq_none_iff]
  cases minimum with
  | nan => exact ⟨fun _ => .nan, fun _ => rfl⟩
  | infinite negative => exact ⟨fun _ => .infinite negative, fun _ => rfl⟩
  | finite x =>
    show Amount.ofBinary64? (.finite x) = none ↔ Unacceptable (.finite x)
    rw [Amount.ofBinary64?, unacceptable_finite_iff, ← Amount.isBelowZero_iff]
    split
    · next hnot => simp [hnot]
    · next hbelow => simpa using hbelow

/-! ### Lists of offers -/

/-- All offers are made into tiers exactly if they are the offers made of these. -/
theorem readOffers_eq_ok_iff {offers : List Offer} {tiers : List Tier} :
    readOffers offers = .ok tiers ↔ tiers.map Tier.offer = offers := by
  constructor
  · exact offers_of_readOffers
  · intro hoffers
    subst hoffers
    induction tiers with
    | nil => rfl
    | cons tier tiers ih =>
      rw [List.map_cons, readOffers, ofOffer?_offer, ih]
      rfl

/-- An error names the first offer whose minimum is unacceptable. -/
theorem readOffers_eq_error_iff {offers : List Offer} {e : TierError} :
    readOffers offers = .error e ↔ ∃ before bad after, offers = before ++ bad :: after ∧
      (∀ offer ∈ before, ¬Unacceptable offer.minimum) ∧ Unacceptable bad.minimum ∧
      e = .invalidMinimum bad.reward bad.minimum := by
  induction offers with
  | nil => simp [readOffers]
  | cons offer offers ih =>
    rw [readOffers]
    split
    · next hnone =>
      -- The first offer is refused, so nothing stands before it.
      have hoffer := ofOffer?_eq_none_iff.1 hnone
      constructor
      · intro h
        exact ⟨[], offer, offers, rfl, by simp, hoffer, (Except.error.inj h).symm⟩
      · intro hexists
        obtain ⟨before, bad, after, hsplit, hbefore, -, rfl⟩ := hexists
        cases before with
        | nil =>
          obtain ⟨rfl, rfl⟩ := List.cons.inj hsplit
          rfl
        | cons first before =>
          obtain ⟨rfl, -⟩ := List.cons.inj hsplit
          exact absurd hoffer (hbefore _ List.mem_cons_self)
    · next tier hsome =>
      -- The first offer is made into a tier, so the error is about those after it.
      have hoffer : ¬Unacceptable offer.minimum := by
        rw [← ofOffer?_eq_none_iff, hsome]
        simp
      have hmap :
          (readOffers offers).map (tier :: ·) = .error e ↔ readOffers offers = .error e := by
        cases readOffers offers <;> simp [Except.map]
      rw [hmap, ih]
      constructor
      · intro hexists
        obtain ⟨before, bad, after, rfl, hbefore, hbad⟩ := hexists
        exact ⟨offer :: before, bad, after, rfl, List.forall_mem_cons.2 ⟨hoffer, hbefore⟩, hbad⟩
      · intro hexists
        obtain ⟨before, bad, after, hsplit, hbefore, hbad⟩ := hexists
        cases before with
        | nil =>
          obtain ⟨rfl, -⟩ := List.cons.inj hsplit
          exact absurd hbad.1 hoffer
        | cons first before =>
          obtain ⟨-, rfl⟩ := List.cons.inj hsplit
          exact ⟨before, bad, after, rfl, (List.forall_mem_cons.1 hbefore).2, hbad⟩

namespace Tiers

/-- Accepted are the lists of offers that are made of tiers, and they are kept as they are. -/
theorem ofOffers_eq_ok_iff {offers : List Offer} {tiers : Tiers} :
    ofOffers offers = .ok tiers ↔ tiers.tiers.map Tier.offer = offers := by
  constructor
  · exact offers_of_ofOffers
  · intro hoffers
    obtain ⟨tiers, hne⟩ := tiers
    obtain ⟨tier, tiers, rfl⟩ := List.exists_cons_of_ne_nil hne
    rw [ofOffers, readOffers_eq_ok_iff.2 hoffers]

/-- There is an error without a reason exactly if there is no offer. -/
theorem ofOffers_eq_noTiers_iff {offers : List Offer} :
    ofOffers offers = .error .noTiers ↔ offers = [] := by
  constructor
  · intro h
    unfold ofOffers at h
    split at h
    · next e hread =>
      -- No error of an offer is this one.
      obtain ⟨_, _, _, -, -, -, rfl⟩ := readOffers_eq_error_iff.1 hread
      exact absurd h (by simp)
    · next hread => exact (offers_of_readOffers hread).symm
    · exact absurd h (by simp)
  · intro h
    rw [h]
    rfl

/-- An error that names an offer comes from reading the offers. -/
theorem ofOffers_eq_invalidMinimum_iff {offers : List Offer} {reward : UInt8}
    {minimum : Binary64} :
    ofOffers offers = .error (.invalidMinimum reward minimum) ↔
      readOffers offers = .error (.invalidMinimum reward minimum) := by
  rw [ofOffers]
  split <;> simp_all

/-- Offers with acceptable minima are accepted. -/
theorem exists_ofOffers {offers : List Offer} (hne : offers ≠ [])
    (h : ∀ offer ∈ offers, ¬Unacceptable offer.minimum) : ∃ tiers, ofOffers offers = .ok tiers := by
  cases hread : readOffers offers with
  -- The offer that an error names would be unacceptable.
  | error e =>
    obtain ⟨before, bad, after, rfl, -, hbad, -⟩ := readOffers_eq_error_iff.1 hread
    exact absurd hbad (h bad (by simp))
  | ok tiers =>
    have hoffers := readOffers_eq_ok_iff.1 hread
    have hnonempty : tiers ≠ [] := by
      intro hnil
      exact hne (by rw [← hoffers, hnil]; rfl)
    exact ⟨⟨tiers, hnonempty⟩, ofOffers_eq_ok_iff.2 hoffers⟩

/-- If the amount is below every minimum, the tier to fall back on is checked. -/
theorem checked_select_of_forall_lt (tiers : Tiers) {amount : Amount}
    (h : ∀ tier ∈ tiers.tiers, amount < tier.minimum) :
    (tiers.select amount).checked = .fallback tiers.top := by
  cases hbest : (tiers.scan amount).best with
  | none => rw [select, hbest]
  | some placed =>
    -- The tier kept would be one that the amount reaches.
    have hlargest := (tiers.scan_sound amount).best_some placed.1 placed.2 hbest
    have hmem := List.mem_of_getElem? hlargest.at_index
    exact absurd (h _ hmem) (Amount.not_lt.2 hlargest.is_among)

end Tiers

/-! ### What becomes of offers -/

/-- What has to become of a list of offers. -/
structure Reported (offers : List Offer) (result : Except TierError Tiers) : Prop where
  noTiers_iff : result = .error .noTiers ↔ offers = []
  invalidMinimum_iff : (∃ reward minimum, result = .error (.invalidMinimum reward minimum)) ↔
    ∃ offer ∈ offers, Unacceptable offer.minimum
  /-- The error names the first offer with such a minimum, whatever the others are. -/
  first_named : ∀ before bad after, offers = before ++ bad :: after →
    (∀ offer ∈ before, ¬Unacceptable offer.minimum) → Unacceptable bad.minimum →
    result = .error (.invalidMinimum bad.reward bad.minimum)
  /-- Other offers, also those that ask for minus zero, are kept as they are. What is checked when
  nothing qualifies is the last of the tiers with the largest minimum. -/
  accepted : offers ≠ [] →
    (∀ offer ∈ offers, ¬Unacceptable offer.minimum ∨ offer.minimum = .finite (.zero true)) →
    ∃ tiers, result = .ok tiers ∧ tiers.tiers.map Tier.offer = offers ∧
      tiers.top < tiers.tiers.length ∧
      (∃ tier, IsLastLargest tiers.tiers (fun _ => True) tiers.top tier) ∧
      ∀ amount, (∀ tier ∈ tiers.tiers, amount < tier.minimum) →
        (tiers.select amount).checked = .fallback tiers.top

/-- Every list of offers is accepted or refused for the right reason. -/
theorem ofOffers_reported (offers : List Offer) : Reported offers (Tiers.ofOffers offers) where
  noTiers_iff := Tiers.ofOffers_eq_noTiers_iff
  invalidMinimum_iff := by
    constructor
    · intro hexists
      obtain ⟨reward, minimum, herror⟩ := hexists
      have hread := Tiers.ofOffers_eq_invalidMinimum_iff.1 herror
      obtain ⟨before, bad, after, rfl, -, hbad, -⟩ := readOffers_eq_error_iff.1 hread
      exact ⟨bad, by simp, hbad⟩
    · intro hexists
      obtain ⟨offer, hmem, hoffer⟩ := hexists
      cases hresult : Tiers.ofOffers offers with
      | ok tiers =>
        -- The offer would be made of a tier.
        rw [← Tiers.offers_of_ofOffers hresult] at hmem
        obtain ⟨tier, -, rfl⟩ := List.mem_map.1 hmem
        have hrefused := ofOffer?_eq_none_iff.2 hoffer
        rw [ofOffer?_offer] at hrefused
        cases hrefused
      | error e =>
        cases e with
        | noTiers =>
          rw [Tiers.ofOffers_eq_noTiers_iff.1 hresult] at hmem
          cases hmem
        | invalidMinimum reward minimum => exact ⟨reward, minimum, rfl⟩
  first_named := by
    intro before bad after hsplit hbefore hbad
    rw [Tiers.ofOffers_eq_invalidMinimum_iff, readOffers_eq_error_iff]
    exact ⟨before, bad, after, hsplit, hbefore, hbad, rfl⟩
  accepted := by
    intro hne hacceptable
    have hacceptable' : ∀ offer ∈ offers, ¬Unacceptable offer.minimum := by
      -- Minus zero is said twice, since it is not unacceptable either.
      intro offer hmem
      rcases hacceptable offer hmem with hoffer | hzero
      · exact hoffer
      · rw [hzero]
        exact not_unacceptable_zero true
    obtain ⟨tiers, htiers⟩ := Tiers.exists_ofOffers hne hacceptable'
    obtain ⟨tier, htop⟩ := tiers.isLastLargest_top
    refine ⟨tiers, htiers, Tiers.offers_of_ofOffers htiers, htop.index_lt, ⟨tier, htop⟩, ?_⟩
    intro amount hlt
    exact tiers.checked_select_of_forall_lt hlt

/-- Of two faults the first is named, and minus zero is none. -/
example : Tiers.ofOffers [⟨0, "None", .finite (.zero true)⟩, ⟨7, "Logo", .infinite false⟩,
    ⟨2, "Link", .nan⟩] = .error (.invalidMinimum 7 (.infinite false)) := rfl

end DonationSite.Donation
