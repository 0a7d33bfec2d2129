import DonationSite.Donation.Amount

/-!
# Reward tiers

A tier offers a reward to those who give at least its minimum. An `Offer` is a tier as configured,
its minimum still an arbitrary number; `Tiers.ofOffers` accepts a list of offers if there is at
least one and every minimum is an amount.
-/

namespace DonationSite.Donation

/-- A reward tier as configured. -/
structure Offer where
  reward : UInt8
  label : String
  minimum : Binary64
  deriving DecidableEq

/-- A reward tier whose minimum is an amount. -/
structure Tier where
  reward : UInt8
  label : String
  minimum : Amount
  deriving DecidableEq

/-- The offer that a tier is made of. -/
def Tier.offer (tier : Tier) : Offer :=
  ⟨tier.reward, tier.label, .finite tier.minimum.value⟩

/-- The tier of an offer whose minimum is an amount. -/
def Tier.ofOffer? (offer : Offer) : Option Tier :=
  (Amount.ofBinary64? offer.minimum).map fun minimum => ⟨offer.reward, offer.label, minimum⟩

/-- Why a list of offers is no set of tiers. -/
inductive TierError where
  /-- There is no offer. -/
  | noTiers
  /-- The minimum of an offer is not an amount. -/
  | invalidMinimum (reward : UInt8) (minimum : Binary64)
  deriving DecidableEq

/-- The wording of an error. -/
def TierError.message : TierError → String
  | .noTiers => "no reward tiers configured"
  | .invalidMinimum reward minimum =>
    "reward " ++ toString reward.toNat ++ " has invalid minimum " ++ minimum.display

/-- The tiers on offer, at least one, in display order. -/
structure Tiers where
  tiers : List Tier
  nonempty : tiers ≠ []

/-- Reads offers in order and stops at the first whose minimum is not an amount. -/
def readOffers : List Offer → Except TierError (List Tier)
  | [] => .ok []
  | offer :: offers =>
    match Tier.ofOffer? offer with
    | none => .error (.invalidMinimum offer.reward offer.minimum)
    | some tier => (readOffers offers).map (tier :: ·)

/-- The tiers of a list of offers. -/
def Tiers.ofOffers (offers : List Offer) : Except TierError Tiers :=
  match readOffers offers with
  | .error e => .error e
  | .ok [] => .error .noTiers
  | .ok (tier :: tiers) => .ok ⟨tier :: tiers, by simp⟩

end DonationSite.Donation
