import DonationSite.Page.Rewards
import DonationSite.Proofs.Donation.Selection
import DonationSite.Proofs.Html.Elements

/-!
# Labels of the reward selector

What a visitor sees of the reward tiers, for any tiers and any amount: one label per tier with one
radio button in it, which say of the tier what the selection says, and the note about several
rewards.

## Key results

- `withClass_view`, `radios_view`, `length_note_view`: what stands in the selector
- `shows_of_eq`: a page with the selector shows what the selection says
- `Shows.one_checked`: exactly one label and one radio button are checked, and they belong together
-/

namespace DonationSite.Page.Rewards

open Donation
open Html (Element)

variable {μ : Type}

/-! ### One tier -/

section Tier

variable (selection : Selection) (index : Nat) (tier : Tier)

/-- The label of a tier. -/
def tierLabel : Element μ :=
  (tierView selection index tier).elements.head (List.cons_ne_nil _ _)

/-- The radio button of a tier, which stands first in its label. -/
def tierRadio : Element μ :=
  (tierLabel selection index tier).body.elements.head (List.cons_ne_nil _ _)

/-- A tier is shown as its label. -/
theorem withClass_tierView :
    (tierView selection index tier : Html μ).withClass "reward-tier" =
      [tierLabel selection index tier] := by
  simp [tierView, tierLabel, Html.elements]

/-- The label of a tier has the radio button of the tier in it, and no other. -/
theorem radios_tierLabel :
    (tierLabel selection index tier : Element μ).body.radios "reward" =
      [tierRadio selection index tier] :=
  rfl

/-- A tier is shown with one radio button. -/
theorem radios_tierView :
    (tierView selection index tier : Html μ).radios "reward" =
      [tierRadio selection index tier] := by
  rw [← radios_tierLabel]
  simp [tierView, tierLabel, Html.elements]

/-- The radio button of a tier is checked if the selection says so. -/
theorem isChecked_tierRadio :
    (tierRadio selection index tier : Element μ).isChecked = selection.isChecked index := rfl

/-- The radio button of a tier stands for its reward. -/
theorem value_tierRadio : (tierRadio selection index tier : Element μ).attributes.value =
    some (toString tier.reward.toNat) := rfl

/-- The classes of a label say whether its tier is checked and whether it is small. -/
theorem classes_tierLabel : (tierLabel selection index tier : Element μ).attributes.classes =
    "reward-tier" :: (if selection.isChecked index then ["checked"] else []) ++
      (if selection.isSmall index then ["small"] else []) := rfl

/-- A label is marked as checked if the selection says so. -/
theorem hasClass_checked_tierLabel :
    (tierLabel selection index tier : Element μ).hasClass "checked" =
      selection.isChecked index := by
  rw [Element.hasClass, classes_tierLabel]
  cases selection.isChecked index <;> cases selection.isSmall index <;> rfl

/-- A label is marked as small if the selection says so. -/
theorem hasClass_small_tierLabel :
    (tierLabel selection index tier : Element μ).hasClass "small" = selection.isSmall index := by
  rw [Element.hasClass, classes_tierLabel]
  cases selection.isChecked index <;> cases selection.isSmall index <;> rfl

end Tier

/-! ### All tiers -/

section View

variable (tiers : Tiers) (amount : Amount)

/-- What is not found in the two elements around the tiers is found in the tiers and the note. -/
theorem find_view {p : Element μ → Bool}
    (haround : ∀ name ∈ ["reward-selector", "reward-tiers"], ∀ body,
      p ⟨"div", { classes := [name] }, body⟩ = false) :
    (view tiers amount).find p =
      (tiers.tiers.mapIdx (tierView (tiers.select amount))).flatMap (Html.find p) ++
        if (tiers.select amount).earnsSeveral then multipleNote.find p else [] := by
  have hselector := haround "reward-selector" (by simp)
  have htiers := haround "reward-tiers" (by simp)
  rw [view]
  split <;> simp [hselector, htiers]

/-- The selector shows the labels of the tiers, in order. -/
theorem withClass_view :
    (view tiers amount : Html μ).withClass "reward-tier" =
      tiers.tiers.mapIdx (tierLabel (tiers.select amount)) := by
  -- The note has no label in it, so only the tiers count.
  rw [Html.withClass, find_view _ _ (by simp),
    List.flatMap_mapIdx_of_singleton (withClass_tierView (tiers.select amount))]
  simp [multipleNote]

/-- The selector has the radio buttons of the tiers, in order. -/
theorem radios_view :
    (view tiers amount : Html μ).radios "reward" =
      tiers.tiers.mapIdx (tierRadio (tiers.select amount)) := by
  rw [Html.radios, find_view _ _ (by simp),
    List.flatMap_mapIdx_of_singleton (radios_tierView (tiers.select amount))]
  simp [multipleNote]

/-- There are no other radio buttons in the selector. -/
theorem radios_view_of_ne {group : String} (h : group ≠ "reward") :
    (view tiers amount : Html μ).radios group = [] := by
  rw [Html.radios, find_view _ _ (by simp),
    List.flatMap_mapIdx_eq_nil fun i tier => by simp [tierView, h]]
  simp [multipleNote]

/-- The selector has no identifiers. -/
theorem withId_view (name : String) : (view tiers amount : Html μ).withId name = [] := by
  rw [Html.withId, find_view _ _ (by simp),
    List.flatMap_mapIdx_eq_nil fun i tier => by simp [tierView]]
  simp [multipleNote]

/-- The note stands in the selector exactly if the amount earns several rewards. -/
theorem length_note_view :
    ((view tiers amount : Html μ).withClass "reward-multiple").length =
      if (tiers.select amount).earnsSeveral then 1 else 0 := by
  rw [Html.withClass, find_view _ _ (by simp),
    List.flatMap_mapIdx_eq_nil fun i tier => by simp [tierView]]
  split <;> simp [multipleNote]

end View

/-! ### Pages with a selector -/

/-- What a page shows of tiers is what the selection for an amount says. -/
structure Shows (tiers : Tiers) (amount : Amount) (page : Html μ) : Prop where
  /-- The page has the selector for the amount, and no other. -/
  selector : page.withClass "reward-selector" = (view tiers amount).withClass "reward-selector"
  labels_length : (page.withClass "reward-tier").length = tiers.tiers.length
  radios_length : (page.radios "reward").length = tiers.tiers.length
  /-- The label of a tier has the radio button of the tier, and both say what the selection says. -/
  label (i : Nat) (tier : Tier) : tiers.tiers[i]? = some tier →
    ∃ label radio, (page.withClass "reward-tier")[i]? = some label ∧
      (page.radios "reward")[i]? = some radio ∧ label.body.radios "reward" = [radio] ∧
      radio.attributes.value = some (toString tier.reward.toNat) ∧
      radio.isChecked = (tiers.select amount).isChecked i ∧
      label.hasClass "checked" = (tiers.select amount).isChecked i ∧
      label.hasClass "small" = (tiers.select amount).isSmall i
  note : (page.withClass "reward-multiple").length =
    if (tiers.select amount).earnsSeveral then 1 else 0

variable {tiers : Tiers} {amount : Amount} {page : Html μ}

/-- A page shows the selection if its selector is the one for the amount, and what stands around it
has no part in it. -/
theorem shows_of_eq
    (hselector : page.withClass "reward-selector" =
      (view tiers amount).withClass "reward-selector")
    (hlabels : page.withClass "reward-tier" = (view tiers amount).withClass "reward-tier")
    (hradios : page.radios "reward" = (view tiers amount).radios "reward")
    (hnote : page.withClass "reward-multiple" =
      (view tiers amount).withClass "reward-multiple") : Shows tiers amount page where
  selector := hselector
  labels_length := by rw [hlabels, withClass_view, List.length_mapIdx]
  radios_length := by rw [hradios, radios_view, List.length_mapIdx]
  label i tier htier := by
    -- What stands at the index in the selector is made of the tier there.
    rw [hlabels, withClass_view, hradios, radios_view]
    refine ⟨tierLabel (tiers.select amount) i tier, tierRadio (tiers.select amount) i tier, ?_, ?_,
      radios_tierLabel _ _ _, value_tierRadio _ _ _, isChecked_tierRadio _ _ _,
      hasClass_checked_tierLabel _ _ _, hasClass_small_tierLabel _ _ _⟩
    · rw [List.getElem?_mapIdx, htier, Option.map_some]
    · rw [List.getElem?_mapIdx, htier, Option.map_some]
  note := by rw [hnote, length_note_view]

/-- Exactly one label and one radio button are checked. The radio button stands in the label, and
the label is small if the selection says so of the checked tier. -/
theorem Shows.one_checked (h : Shows tiers amount page) : ∃ label radio,
    (page.withClass "reward-tier").filter (·.hasClass "checked") = [label] ∧
      (page.radios "reward").filter (·.isChecked) = [radio] ∧
      label.body.radios "reward" = [radio] ∧
      label.hasClass "small" =
        (tiers.select amount).isSmall (tiers.select amount).checked.index := by
  obtain ⟨tier, htier, -⟩ := tiers.exists_checked_tier amount
  obtain ⟨label, radio, hlabel, hradio, hinside, -, -, -, hsmall⟩ := h.label _ tier htier
  -- Whatever stands at an index is that of a tier, which says whether it is checked.
  have hchecked (i : Nat) (hlt : i < tiers.tiers.length) : ∃ label radio,
      (page.withClass "reward-tier")[i]? = some label ∧ (page.radios "reward")[i]? = some radio ∧
        (label.hasClass "checked" = true ↔ i = (tiers.select amount).checked.index) ∧
        (radio.isChecked = true ↔ i = (tiers.select amount).checked.index) := by
    obtain ⟨label, radio, hlabel, hradio, -, -, hisRadio, hisLabel, -⟩ :=
      h.label i _ (List.getElem?_eq_getElem hlt)
    refine ⟨label, radio, hlabel, hradio, ?_, ?_⟩
    · rw [hisLabel, Selection.isChecked, beq_iff_eq, eq_comm]
    · rw [hisRadio, Selection.isChecked, beq_iff_eq, eq_comm]
  -- In a list with one checked element at a known index the filter keeps just that one.
  refine ⟨label, radio, List.filter_eq_singleton hlabel ?_, List.filter_eq_singleton hradio ?_,
    hinside, hsmall⟩
  · intro i other hother
    -- There are as many labels as tiers, and as many radio buttons.
    have hlt : i < tiers.tiers.length := by
      rw [← h.labels_length]
      exact (List.getElem?_eq_some_iff.1 hother).1
    obtain ⟨label', -, hlabel', -, hiff, -⟩ := hchecked i hlt
    rwa [Option.some.inj (hother.symm.trans hlabel')]
  · intro i other hother
    have hlt : i < tiers.tiers.length := by
      rw [← h.radios_length]
      exact (List.getElem?_eq_some_iff.1 hother).1
    obtain ⟨-, radio', -, hradio', -, hiff⟩ := hchecked i hlt
    rwa [Option.some.inj (hother.symm.trans hradio')]

end DonationSite.Page.Rewards
