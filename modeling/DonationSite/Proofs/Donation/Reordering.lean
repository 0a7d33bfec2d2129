import Mathlib.Data.List.FinRange
import DonationSite.Proofs.Donation.Offers
import DonationSite.Proofs.Donation.TypedMore

/-!
# Tiers in another order

The order in which tiers are displayed only decides between equal minima. Flags, count and the kind
of choice are told tier by tier; the largest minimum among the tiers with a property is the same in
every order; and a tier whose minimum no other has is told by it.

## Key results

- `IsLastLargest.quanta_eq`: the largest minimum does not depend on the order
- `Tiers.KeepsSelection`: what stays of a selection
- `reordering_changes_ties_only`: it stays for every permutation of accepted offers
-/

namespace DonationSite.Donation

/-- The last of the tiers with the largest minimum has the same minimum in every order. -/
theorem IsLastLargest.quanta_eq {tiers reordered : List Tier} {among : Tier → Prop} {i j : Nat}
    {tier other : Tier} (h : IsLastLargest tiers among i tier)
    (h' : IsLastLargest reordered among j other) (hperm : reordered.Perm tiers) :
    other.minimum.value.quanta = tier.minimum.value.quanta := by
  have hmem : tier ∈ reordered := hperm.mem_iff.2 (List.mem_of_getElem? h.at_index)
  have hmem' : other ∈ tiers := hperm.mem_iff.1 (List.mem_of_getElem? h'.at_index)
  have hle : other.minimum ≤ tier.minimum := h.largest other hmem' h'.is_among
  have hge : tier.minimum ≤ other.minimum := h'.largest tier hmem h.is_among
  exact Int.le_antisymm hle hge

namespace Tiers

variable {tiers reordered : Tiers}

/-- Whether the fallback is checked does not depend on the order. -/
theorem fallback_iff_of_perm (hperm : reordered.tiers.Perm tiers.tiers) (amount : Amount) :
    (∃ index, (reordered.select amount).checked = .fallback index) ↔
      ∃ index, (tiers.select amount).checked = .fallback index := by
  rw [fallback_iff_forall_lt, fallback_iff_forall_lt]
  exact forall_congr' fun tier => by rw [hperm.mem_iff]

/-- The checked tier asks for the same in every order. -/
theorem quanta_checked_of_perm (hperm : reordered.tiers.Perm tiers.tiers) (amount : Amount) :
    ∃ tier other, tiers.tiers[(tiers.select amount).checked.index]? = some tier ∧
      reordered.tiers[(reordered.select amount).checked.index]? = some other ∧
      other.minimum.value.quanta = tier.minimum.value.quanta := by
  have hfallback := fallback_iff_of_perm hperm amount
  -- The two lists cannot choose in different ways, so two of the four cases remain.
  rcases tiers.checked_select amount with ⟨i, tier, hchecked, hbest⟩ | ⟨i, tier, hchecked, -, htop⟩
  · rcases reordered.checked_select amount with ⟨j, other, hother, hbest'⟩ | ⟨j, other, hother, -⟩
    · refine ⟨tier, other, ?_, ?_, hbest.quanta_eq hbest' hperm⟩
      · rw [hchecked]
        exact hbest.at_index
      · rw [hother]
        exact hbest'.at_index
    · obtain ⟨index, h⟩ := hfallback.1 ⟨j, hother⟩
      rw [hchecked] at h
      cases h
  · rcases reordered.checked_select amount with ⟨j, other, hother, -⟩ | ⟨j, other, hother, -, htop'⟩
    · obtain ⟨index, h⟩ := hfallback.2 ⟨i, hchecked⟩
      rw [hother] at h
      cases h
    · refine ⟨tier, other, ?_, ?_, htop.quanta_eq htop' hperm⟩
      · rw [hchecked]
        exact htop.at_index
      · rw [hother]
        exact htop'.at_index

/-- What stays of the selection for an amount when each tier `i` of a list is the tier `σ i` of
another. -/
structure KeepsSelection {n : Nat} (tiers reordered : Tiers) (σ : Equiv.Perm (Fin n))
    (amount : Amount) : Prop where
  small (i : Fin n) : ∃ flag, (reordered.select amount).small[i.val]? = some flag ∧
    (tiers.select amount).small[(σ i).val]? = some flag
  qualifying : (reordered.select amount).qualifying = (tiers.select amount).qualifying
  earnsSeveral : (reordered.select amount).earnsSeveral = (tiers.select amount).earnsSeveral
  fallback_iff : (∃ index, (reordered.select amount).checked = .fallback index) ↔
    ∃ index, (tiers.select amount).checked = .fallback index
  /-- The minimum of the checked tier has the same value, so minus zero may become zero. -/
  minimum : ∃ tier other, tiers.tiers[(tiers.select amount).checked.index]? = some tier ∧
    reordered.tiers[(reordered.select amount).checked.index]? = some other ∧
    other.minimum.value.quanta = tier.minimum.value.quanta
  /-- If no other tier has the minimum of the checked one, the same tier is checked. -/
  same : ∀ tier, tiers.tiers[(tiers.select amount).checked.index]? = some tier →
    tiers.tiers.countP (·.minimum.value.quanta = tier.minimum.value.quanta) = 1 →
    ∃ i, (reordered.select amount).checked.index = i.val ∧
      (tiers.select amount).checked.index = (σ i).val

/-- There are tiers for every permutation of the places. -/
theorem exists_reordered {n : Nat} (tiers : Tiers) (hlength : tiers.tiers.length = n)
    (σ : Equiv.Perm (Fin n)) : ∃ reordered : Tiers, reordered.tiers.Perm tiers.tiers ∧
      ∀ i, reordered.tiers[i.val]? = tiers.tiers[(σ i).val]? := by
  subst hlength
  -- A list that is read in another order is a permutation of itself.
  have hperm : (List.ofFn (tiers.tiers.get ∘ σ)).Perm tiers.tiers := by
    have h := σ.ofFn_comp_perm tiers.tiers.get
    rwa [List.ofFn_get] at h
  have hnonempty : List.ofFn (tiers.tiers.get ∘ σ) ≠ [] := by
    intro hnil
    rw [hnil] at hperm
    exact tiers.nonempty hperm.symm.eq_nil
  refine ⟨⟨_, hnonempty⟩, hperm, ?_⟩
  intro i
  simp

/-- The tiers that a permutation of the places makes keep the selection. -/
theorem keepsSelection {n : Nat} {σ : Equiv.Perm (Fin n)} (hlength : tiers.tiers.length = n)
    (hperm : reordered.tiers.Perm tiers.tiers)
    (htier : ∀ i, reordered.tiers[i.val]? = tiers.tiers[(σ i).val]?) (amount : Amount) :
    KeepsSelection tiers reordered σ amount where
  small i := by
    -- A flag depends on the tier and the amount alone.
    have hlt : (σ i).val < tiers.tiers.length := by rw [hlength]; exact (σ i).isLt
    have hget := List.getElem?_eq_getElem hlt
    refine ⟨decide (amount < tiers.tiers[(σ i).val].minimum), ?_, ?_⟩
    · rw [small_select, List.getElem?_map, htier, hget, Option.map_some]
    · rw [small_select, List.getElem?_map, hget, Option.map_some]
  qualifying := by
    rw [qualifying_select, qualifying_select]
    exact hperm.countP_eq _
  earnsSeveral := by
    rw [Selection.earnsSeveral, Selection.earnsSeveral, qualifying_select, qualifying_select,
      hperm.countP_eq]
  fallback_iff := fallback_iff_of_perm hperm amount
  minimum := quanta_checked_of_perm hperm amount
  same := by
    intro tier htierAt hone
    obtain ⟨tier', other, hchecked, hother, hquanta⟩ := quanta_checked_of_perm hperm amount
    obtain rfl : tier' = tier := Option.some.inj (hchecked.symm.trans htierAt)
    have hlt := (List.getElem?_eq_some_iff.1 hother).1
    rw [hperm.length_eq, hlength] at hlt
    refine ⟨⟨_, hlt⟩, rfl, ?_⟩
    -- Both tiers have the minimum that is there only once.
    have hplace := htier ⟨_, hlt⟩
    rw [hother] at hplace
    exact List.eq_of_countP_eq_one hone hchecked (by simp) hplace.symm (by simpa using hquanta)

end Tiers

/-- Accepted offers are accepted in every order, and what is selected for an amount stays, up to the
choice between equal minima. -/
theorem reordering_changes_ties_only {offers : List Offer} {tiers : Tiers}
    (h : Tiers.ofOffers offers = .ok tiers) (σ : Equiv.Perm (Fin offers.length)) :
    ∃ reordered, Tiers.ofOffers (List.ofFn fun i => offers[σ i]) = .ok reordered ∧
      (∀ i, reordered.tiers[i.val]? = tiers.tiers[(σ i).val]?) ∧
      ∀ amount, Tiers.KeepsSelection tiers reordered σ amount := by
  have hoffers := Tiers.offers_of_ofOffers h
  have hlength : tiers.tiers.length = offers.length := by rw [← hoffers, List.length_map]
  obtain ⟨reordered, hperm, htier⟩ := tiers.exists_reordered hlength σ
  refine ⟨reordered, ?_, htier, Tiers.keepsSelection hlength hperm htier⟩
  rw [Tiers.ofOffers_eq_ok_iff]
  apply List.ext_getElem?
  intro i
  rw [List.getElem?_map, List.getElem?_ofFn]
  split
  · next hlt =>
    -- The offer at a place is made of the tier there.
    rw [htier ⟨i, hlt⟩, ← List.getElem?_map, hoffers]
    exact List.getElem?_eq_getElem _
  · next hge =>
    rw [List.getElem?_eq_none (by rw [hperm.length_eq, hlength]; omega)]
    rfl

/-- The tiers of `unsortedOffers` from the last to the first. -/
def reversedTiers : Tiers where
  tiers := unsortedTiers.tiers.reverse
  nonempty := by decide

/-- Of the two tiers that ask for 25, an amount of 30 checks the other one after turning the list
round; the one that asks for 50 is checked for 60 in both. -/
theorem reordering_unsortedOffers_reversed :
    Tiers.ofOffers unsortedOffers = .ok unsortedTiers ∧
      Tiers.ofOffers (List.ofFn fun i => unsortedOffers[Fin.revPerm i]) = .ok reversedTiers ∧
      (∀ amount, Tiers.KeepsSelection (n := 4) unsortedTiers reversedTiers Fin.revPerm amount) ∧
      (unsortedTiers.select (.ofUInt32 30)).checked = .qualifying 2 ∧
      (reversedTiers.select (.ofUInt32 30)).checked = .qualifying 3 ∧
      (unsortedTiers.select (.ofUInt32 60)).checked = .qualifying 1 ∧
      (reversedTiers.select (.ofUInt32 60)).checked = .qualifying 2 := by
  have haccepted : Tiers.ofOffers unsortedOffers = .ok unsortedTiers := rfl
  have hreversed : Tiers.ofOffers (List.ofFn fun i => unsortedOffers[Fin.revPerm i]) =
    .ok reversedTiers := rfl
  obtain ⟨reordered, hreordered, -, hkeeps⟩ := reordering_changes_ties_only haccepted Fin.revPerm
  obtain rfl : reversedTiers = reordered := Except.ok.inj (hreversed.symm.trans hreordered)
  exact ⟨haccepted, hreversed, hkeeps, by decide, by decide, by decide, by decide⟩

end DonationSite.Donation
