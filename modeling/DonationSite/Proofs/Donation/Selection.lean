import DonationSite.Donation.Selection
import DonationSite.Proofs.List

/-!
# The selected tier

Going through the tiers in display order finds the last of those with the largest minimum: among
all tiers (`Tiers.top`), and among those that an amount reaches (`Tiers.scan`). Both loops keep an
invariant over the tiers seen so far, and a tier that comes next either takes over or leaves the
choice alone (`IsLastLargest.concat_self`, `IsLastLargest.concat`).

## Key results

- `Tiers.offers_of_ofOffers`: an accepted list of offers is kept as it is
- `Tiers.isLastLargest_top`: the tier to fall back on is the last with the largest minimum
- `Tiers.scan_sound`: flags, count and best tier after all tiers
- `select_isSpecified`: what is selected for an amount
-/

namespace DonationSite.Donation

/-! ### The last largest minimum -/

/-- At an index stands the last of the tiers with the largest minimum among those with a
property. -/
structure IsLastLargest (tiers : List Tier) (among : Tier → Prop) (index : Nat) (tier : Tier) :
    Prop where
  at_index : tiers[index]? = some tier
  is_among : among tier
  largest : ∀ other ∈ tiers, among other → other.minimum ≤ tier.minimum
  last : ∀ i other, index < i → tiers[i]? = some other → among other →
    other.minimum < tier.minimum

namespace IsLastLargest

variable {tiers : List Tier} {among : Tier → Prop} {index : Nat} {tier next : Tier}

/-- The last largest minimum stands at a place of the list. -/
theorem index_lt (h : IsLastLargest tiers among index tier) : index < tiers.length :=
  (List.getElem?_eq_some_iff.1 h.at_index).1

/-- A tier that comes next takes over if no minimum before it is larger. -/
theorem concat_self (hnext : among next)
    (hle : ∀ other ∈ tiers, among other → other.minimum ≤ next.minimum) :
    IsLastLargest (tiers ++ [next]) among tiers.length next where
  at_index := List.getElem?_concat_length
  is_among := hnext
  largest := by
    intro other hmem hother
    rcases List.mem_append.1 hmem with hmem | hmem
    · exact hle other hmem hother
    · rw [List.mem_singleton.1 hmem]
      exact Amount.le_refl _
  last := by
    intro i other hi hget _
    rcases List.getElem?_concat_eq_some_iff.1 hget with hget | ⟨hlast, -⟩
    · have hlt := (List.getElem?_eq_some_iff.1 hget).1
      omega
    · omega

/-- A tier that comes next leaves the choice alone if its minimum is smaller or it does not have
the property. -/
theorem concat (h : IsLastLargest tiers among index tier)
    (hnext : among next → next.minimum < tier.minimum) :
    IsLastLargest (tiers ++ [next]) among index tier where
  at_index := by rw [List.getElem?_append_left h.index_lt, h.at_index]
  is_among := h.is_among
  largest := by
    intro other hmem hother
    rcases List.mem_append.1 hmem with hmem | hmem
    · exact h.largest other hmem hother
    · rw [List.mem_singleton.1 hmem] at hother ⊢
      exact Amount.le_of_lt (hnext hother)
  last := by
    intro i other hi hget hother
    rcases List.getElem?_concat_eq_some_iff.1 hget with hget | ⟨-, rfl⟩
    · exact h.last i other hi hget hother
    · exact hnext hother

end IsLastLargest

/-! ### The tier to fall back on -/

/-- The invariant of `Tiers.top`: the tier kept is the first one until a tier is seen, and then the
last with the largest minimum among those seen. -/
structure TopSoFar (tiers seen : List Tier) (top : Tier × Nat) : Prop where
  start : seen = [] → tiers.head? = some top.1
  seen : seen ≠ [] → IsLastLargest seen (fun _ => True) top.2 top.1

/-- `raise` keeps the invariant of `Tiers.top`. -/
theorem TopSoFar.raise {tiers seen rest : List Tier} {next : Tier} {top : Tier × Nat}
    (h : TopSoFar tiers seen top) (hsplit : tiers = seen ++ next :: rest) :
    TopSoFar tiers (seen ++ [next]) (raise top (next, seen.length)) where
  start := by simp
  seen := by
    intro _
    unfold Donation.raise
    by_cases hle : next.minimum ≥ top.1.minimum
    · -- No minimum seen is above the one kept, so none is above the next one.
      rw [if_pos hle]
      apply IsLastLargest.concat_self trivial
      intro other hmem _
      have hne : seen ≠ [] := List.ne_nil_of_mem hmem
      exact Amount.le_trans ((h.seen hne).largest other hmem trivial) hle
    · rw [if_neg hle]
      by_cases hne : seen = []
      · -- The first tier is compared with itself, which lets it take over.
        subst hne
        have hfirst : some next = some top.1 := by rw [← h.start rfl, hsplit]; rfl
        rw [Option.some.inj hfirst] at hle
        exact absurd (Amount.le_refl _) hle
      · exact (h.seen hne).concat fun _ => Amount.not_le.1 hle

/-- The tier to fall back on is the last of those with the largest minimum. -/
theorem Tiers.isLastLargest_top (tiers : Tiers) :
    ∃ tier, IsLastLargest tiers.tiers (fun _ => True) tiers.top tier := by
  have h : TopSoFar tiers.tiers tiers.tiers
      (tiers.tiers.zipIdx.foldl raise (tiers.tiers.head tiers.nonempty, 0)) := by
    apply List.foldl_zipIdx_induction
    · exact ⟨fun _ => List.head?_eq_some_head tiers.nonempty, fun hne => absurd rfl hne⟩
    · intro seen next rest top hsplit htop
      exact htop.raise hsplit
  exact ⟨_, h.seen tiers.nonempty⟩

/-! ### The scan for an amount -/

/-- The invariant of `Tiers.scan`: what the flags, the count and the best tier say of the tiers
seen. -/
structure Scan.Sound (amount : Amount) (seen : List Tier) (scan : Scan) : Prop where
  small : scan.small = seen.map fun tier => decide (amount < tier.minimum)
  qualifying : scan.qualifying = scan.small.count false
  best_some : ∀ tier index, scan.best = some (tier, index) →
    IsLastLargest seen (fun tier => tier.minimum ≤ amount) index tier
  best_none : scan.best = none → ∀ tier ∈ seen, amount < tier.minimum

namespace Scan

variable {amount : Amount} {seen : List Tier} {next : Tier} {scan : Scan}

/-- A tier that is not reached is only flagged. -/
theorem visit_of_lt (h : amount < next.minimum) (index : Nat) :
    scan.visit amount (next, index) = { scan with small := scan.small ++ [true] } := by
  simp [visit, h]

/-- A tier that is reached is flagged, counted, and compared with the best one. -/
theorem visit_of_le (h : next.minimum ≤ amount) (index : Nat) :
    scan.visit amount (next, index) =
      { small := scan.small ++ [false]
        best := better scan.best (next, index)
        qualifying := scan.qualifying + 1 } := by
  have hlt : ¬amount < next.minimum := Amount.not_lt.2 h
  simp [visit, hlt]

/-- A tier that the amount does not reach leaves the best tier alone. -/
theorem Sound.visit_of_lt (h : Sound amount seen scan) (hlt : amount < next.minimum) :
    Sound amount (seen ++ [next]) (scan.visit amount (next, seen.length)) := by
  rw [Scan.visit_of_lt hlt]
  refine ⟨?_, ?_, ?_, ?_⟩
  · simp [h.small, hlt]
  · simp [h.qualifying]
  · intro tier index hbest
    exact (h.best_some tier index hbest).concat fun hle => absurd hlt (Amount.not_lt.2 hle)
  · intro hbest tier hmem
    rcases List.mem_append.1 hmem with hmem | hmem
    · exact h.best_none hbest tier hmem
    · rwa [List.mem_singleton.1 hmem]

/-- A tier that the amount reaches becomes the best one unless the best one has a larger minimum. -/
theorem Sound.better (h : Sound amount seen scan) (hle : next.minimum ≤ amount) {tier : Tier}
    {index : Nat} (hbest : Scan.better scan.best (next, seen.length) = (tier, index)) :
    IsLastLargest (seen ++ [next]) (fun tier => tier.minimum ≤ amount) index tier := by
  unfold Scan.better at hbest
  split at hbest
  · next current hcurrent =>
    have hold := h.best_some current.1 current.2 hcurrent
    split at hbest
    · next hgt =>
      -- The best tier has a larger minimum and stays.
      obtain ⟨rfl, rfl⟩ := Prod.mk.inj hbest
      exact hold.concat fun _ => hgt
    · next hgt =>
      -- At most equal: the later one wins.
      obtain ⟨rfl, rfl⟩ := Prod.mk.inj hbest
      refine IsLastLargest.concat_self hle fun other hmem hother => ?_
      exact Amount.le_trans (hold.largest other hmem hother) (Amount.not_lt.1 hgt)
  · next hnone =>
    -- Nothing was reached so far, so there is nothing to compare with.
    obtain ⟨rfl, rfl⟩ := Prod.mk.inj hbest
    refine IsLastLargest.concat_self hle fun other hmem hother => ?_
    exact absurd (h.best_none hnone other hmem) (Amount.not_lt.2 hother)

/-- A tier that the amount reaches is counted, and the best tier is the better of the two. -/
theorem Sound.visit_of_le (h : Sound amount seen scan) (hle : next.minimum ≤ amount) :
    Sound amount (seen ++ [next]) (scan.visit amount (next, seen.length)) := by
  rw [Scan.visit_of_le hle]
  refine ⟨?_, ?_, ?_, ?_⟩
  · simp [h.small, Amount.not_lt.2 hle]
  · simp [h.qualifying]
  -- Whichever of the two is better, it is the last with the largest minimum that is reached.
  · intro tier index hbest
    exact h.better hle (Option.some.inj hbest)
  · intro hbest
    exact absurd hbest (by simp)

/-- Every tier keeps the invariant of `Tiers.scan`. -/
theorem Sound.visit (h : Sound amount seen scan) (next : Tier) :
    Sound amount (seen ++ [next]) (scan.visit amount (next, seen.length)) := by
  by_cases hlt : amount < next.minimum
  · exact h.visit_of_lt hlt
  · exact h.visit_of_le (Amount.not_lt.1 hlt)

/-- Before the first tier nothing is flagged, counted or best. -/
theorem sound_nil (amount : Amount) : Sound amount [] {} where
  small := rfl
  qualifying := rfl
  best_some := by intro tier index h; exact absurd h (by simp)
  best_none := by intro _ tier hmem; exact absurd hmem List.not_mem_nil

end Scan

/-- What the scan of all tiers says. -/
theorem Tiers.scan_sound (tiers : Tiers) (amount : Amount) :
    (tiers.scan amount).Sound amount tiers.tiers := by
  refine List.foldl_zipIdx_induction tiers.tiers (Scan.sound_nil amount) ?_
  intro seen next rest scan _ hscan
  exact hscan.visit next

/-! ### Accepted offers -/

/-- A tier is made of its offer and keeps all of it. -/
theorem offer_of_ofOffer? {offer : Offer} {tier : Tier} (h : Tier.ofOffer? offer = some tier) :
    tier.offer = offer := by
  obtain ⟨reward, label, minimum⟩ := offer
  obtain ⟨amount, hamount, rfl⟩ := Option.map_eq_some_iff.1 h
  cases minimum with
  | nan => exact absurd hamount (by simp [Amount.ofBinary64?])
  | infinite negative => exact absurd hamount (by simp [Amount.ofBinary64?])
  | finite value =>
    -- A number is accepted unless it is below zero, and is then kept.
    rw [Amount.ofBinary64?] at hamount
    split at hamount
    · cases hamount
      rfl
    · exact absurd hamount (by simp)

/-- Offers that are all acceptable are kept in their order. -/
theorem offers_of_readOffers {offers : List Offer} {tiers : List Tier}
    (h : readOffers offers = .ok tiers) : tiers.map Tier.offer = offers := by
  induction offers generalizing tiers with
  | nil =>
    cases h
    rfl
  | cons offer offers ih =>
    unfold readOffers at h
    split at h
    · exact absurd h (by simp)
    -- The first offer is made of a tier, so the rest of them were read.
    · next tier htier =>
      cases hrest : readOffers offers with
      | error e => exact absurd h (by simp [hrest, Except.map])
      | ok rest =>
        rw [hrest] at h
        cases h
        rw [List.map_cons, offer_of_ofOffer? htier, ih hrest]

/-- An accepted list of offers is kept as it is. -/
theorem Tiers.offers_of_ofOffers {offers : List Offer} {tiers : Tiers}
    (h : Tiers.ofOffers offers = .ok tiers) : tiers.tiers.map Tier.offer = offers := by
  unfold Tiers.ofOffers at h
  split at h
  · exact absurd h (by simp)
  · exact absurd h (by simp)
  · next hread =>
    cases h
    exact offers_of_readOffers hread

/-! ### What is selected -/

/-- What the selection for an amount has to be. -/
structure Selection.IsSpecified (tiers : List Tier) (amount : Amount) (s : Selection) : Prop where
  /-- There is one flag per tier. -/
  small_length : s.small.length = tiers.length
  /-- A flag says whether the exact value of the amount is below that of the minimum. -/
  small_get : ∀ (i : Nat) (tier : Tier), tiers[i]? = some tier →
    s.small[i]? = some (decide (amount.value.quanta < tier.minimum.value.quanta))
  qualifying_eq : s.qualifying = s.small.count false
  earnsSeveral_iff : s.earnsSeveral = true ↔ 1 < s.qualifying
  /-- If a minimum is reached, the last of the tiers with the largest such minimum is checked. -/
  checked_of_reached : (∃ tier ∈ tiers, tier.minimum ≤ amount) →
    ∃ index tier, s.checked = .qualifying index ∧
      IsLastLargest tiers (·.minimum ≤ amount) index tier
  /-- Otherwise the last of the tiers with the largest minimum of all is checked. -/
  checked_of_not_reached : (∀ tier ∈ tiers, ¬tier.minimum ≤ amount) → ∃ index tier,
    s.checked = .fallback index ∧ IsLastLargest tiers (fun _ => True) index tier
  index_lt : s.checked.index < tiers.length
  isChecked_iff : ∀ i, s.isChecked i = true ↔ i = s.checked.index
  small_iff_fallback : s.isSmall s.checked.index = true ↔ ∃ index, s.checked = .fallback index
  fallback_iff : (∃ index, s.checked = .fallback index) ↔ s.qualifying = 0

namespace Tiers

variable (tiers : Tiers) (amount : Amount)

/-- A flag says whether the amount is below the minimum of its tier. -/
theorem small_select :
    (tiers.select amount).small = tiers.tiers.map fun tier => decide (amount < tier.minimum) :=
  (tiers.scan_sound amount).small

/-- The flag of a place, where there is a tier. -/
theorem isSmall_select {index : Nat} {tier : Tier} (h : tiers.tiers[index]? = some tier) :
    (tiers.select amount).isSmall index = decide (amount < tier.minimum) := by
  rw [Selection.isSmall, small_select, List.getD_eq_getElem?_getD, List.getElem?_map, h]
  rfl

/-- The two ways in which a tier comes to be checked. -/
theorem checked_select :
    (∃ index tier, (tiers.select amount).checked = .qualifying index ∧
      IsLastLargest tiers.tiers (·.minimum ≤ amount) index tier) ∨
    (∃ index tier, (tiers.select amount).checked = .fallback index ∧
      (∀ tier ∈ tiers.tiers, amount < tier.minimum) ∧
      IsLastLargest tiers.tiers (fun _ => True) index tier) := by
  have hscan := tiers.scan_sound amount
  cases hbest : (tiers.scan amount).best with
  | some placed =>
    have hchecked : (tiers.select amount).checked = .qualifying placed.2 := by
      simp [select, hbest]
    exact .inl ⟨placed.2, placed.1, hchecked, hscan.best_some _ _ hbest⟩
  | none =>
    -- Nothing is reached, and the largest minimum of all decides.
    obtain ⟨tier, htop⟩ := tiers.isLastLargest_top
    have hchecked : (tiers.select amount).checked = .fallback tiers.top := by
      simp [select, hbest]
    exact .inr ⟨tiers.top, tier, hchecked, hscan.best_none hbest, htop⟩

/-- Nothing qualifies exactly if the amount is below every minimum. -/
theorem qualifying_eq_zero_iff :
    (tiers.select amount).qualifying = 0 ↔ ∀ tier ∈ tiers.tiers, amount < tier.minimum := by
  have hscan := tiers.scan_sound amount
  show (tiers.scan amount).qualifying = 0 ↔ _
  rw [hscan.qualifying, hscan.small, List.count_eq_zero]
  simp

/-- The checked tier is the fallback exactly if the amount is below every minimum. -/
theorem fallback_iff_forall_lt :
    (∃ index, (tiers.select amount).checked = .fallback index) ↔
      ∀ tier ∈ tiers.tiers, amount < tier.minimum := by
  rcases tiers.checked_select amount with ⟨i, tier, hchecked, hbest⟩ | ⟨i, tier, hchecked, hlt, -⟩
  · constructor
    · intro hexists
      obtain ⟨index, h⟩ := hexists
      rw [hchecked] at h
      cases h
    -- The tier that is checked otherwise is one that the amount reaches.
    · intro hlt
      have hmem := List.mem_of_getElem? hbest.at_index
      exact absurd (hlt tier hmem) (Amount.not_lt.2 hbest.is_among)
  · exact ⟨fun _ => hlt, fun _ => ⟨i, hchecked⟩⟩

/-- The tier at the checked index. -/
theorem exists_checked_tier :
    ∃ tier, tiers.tiers[(tiers.select amount).checked.index]? = some tier ∧
      (amount < tier.minimum ↔ ∃ index, (tiers.select amount).checked = .fallback index) := by
  rw [fallback_iff_forall_lt]
  rcases tiers.checked_select amount with
    ⟨i, tier, hchecked, hbest⟩ | ⟨i, tier, hchecked, hlt, htop⟩
  · refine ⟨tier, by rw [hchecked]; exact hbest.at_index, ?_⟩
    have hmem := List.mem_of_getElem? hbest.at_index
    constructor
    · intro h
      exact absurd h (Amount.not_lt.2 hbest.is_among)
    · intro h
      exact h tier hmem
  · refine ⟨tier, by rw [hchecked]; exact htop.at_index, fun _ => hlt, fun _ => ?_⟩
    exact hlt tier (List.mem_of_getElem? htop.at_index)

end Tiers

/-- The tiers of an accepted list of offers are those offers, and what is selected for an amount is
what has to be. -/
theorem select_isSpecified {offers : List Offer} {tiers : Tiers}
    (h : Tiers.ofOffers offers = .ok tiers) (amount : Amount) :
    tiers.tiers.map Tier.offer = offers ∧
      Selection.IsSpecified tiers.tiers amount (tiers.select amount) := by
  refine ⟨Tiers.offers_of_ofOffers h, ?_⟩
  obtain ⟨tier, hget, hsmall⟩ := tiers.exists_checked_tier amount
  refine
    { small_length := by rw [Tiers.small_select, List.length_map]
      small_get := ?_
      qualifying_eq := (tiers.scan_sound amount).qualifying
      earnsSeveral_iff := by simp [Selection.earnsSeveral]
      checked_of_reached := ?_
      checked_of_not_reached := ?_
      index_lt := (List.getElem?_eq_some_iff.1 hget).1
      isChecked_iff := fun i => by rw [Selection.isChecked, beq_iff_eq, eq_comm]
      small_iff_fallback := ?_
      fallback_iff := ?_ }
  -- One flag per tier, and comparing amounts is comparing exact values.
  · intro i tier hi
    rw [Tiers.small_select, List.getElem?_map, hi]
    simp only [Option.map_some, Amount.lt_iff_quanta]
  -- If a tier is reached, the fallback is ruled out, and the other way round.
  · intro hexists
    obtain ⟨tier, hmem, hle⟩ := hexists
    rcases tiers.checked_select amount with hbest | ⟨_, _, -, hlt, -⟩
    · exact hbest
    · exact absurd (hlt tier hmem) (Amount.not_lt.2 hle)
  · intro hnot
    rcases tiers.checked_select amount with ⟨_, tier, -, hbest⟩ | ⟨i, tier, hchecked, -, htop⟩
    · exact absurd hbest.is_among (hnot tier (List.mem_of_getElem? hbest.at_index))
    · exact ⟨i, tier, hchecked, htop⟩
  · rw [tiers.isSmall_select amount hget, decide_eq_true_iff, hsmall]
  · rw [tiers.fallback_iff_forall_lt, tiers.qualifying_eq_zero_iff]

/-- Offers out of order, two of which ask for the same, and one for minus zero. -/
def unsortedOffers : List Offer := [
  ⟨1, "Name", .finite (Amount.ofUInt32 25).value⟩,
  ⟨3, "Logo", .finite (Amount.ofUInt32 50).value⟩,
  ⟨2, "Link", .finite (Amount.ofUInt32 25).value⟩,
  ⟨0, "None", .finite (.zero true)⟩]

/-- The tiers of `unsortedOffers`. -/
def unsortedTiers : Tiers where
  tiers := [
    ⟨1, "Name", .ofUInt32 25⟩,
    ⟨3, "Logo", .ofUInt32 50⟩,
    ⟨2, "Link", .ofUInt32 25⟩,
    ⟨0, "None", ⟨.zero true, rfl⟩⟩]
  nonempty := by decide

/-- Of the two tiers that ask for 25, an amount of 30 checks the later one. -/
theorem select_unsortedTiers_thirty :
    Tiers.ofOffers unsortedOffers = .ok unsortedTiers ∧
      unsortedTiers.tiers.map Tier.offer = unsortedOffers ∧
      Selection.IsSpecified unsortedTiers.tiers (.ofUInt32 30)
        (unsortedTiers.select (.ofUInt32 30)) ∧
      unsortedTiers.select (.ofUInt32 30) =
        { checked := .qualifying 2, small := [false, true, false, false], qualifying := 3 } := by
  have haccepted : Tiers.ofOffers unsortedOffers = .ok unsortedTiers := rfl
  obtain ⟨hoffers, hspecified⟩ := select_isSpecified haccepted (.ofUInt32 30)
  exact ⟨haccepted, hoffers, hspecified, by decide⟩

end DonationSite.Donation
