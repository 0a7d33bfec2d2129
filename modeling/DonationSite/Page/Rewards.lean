import DonationSite.Donation.Selection
import DonationSite.Ui.Component

/-!
# Reward selector

The reward tiers as radio buttons that follow the amount: clicking them changes nothing. The log
says which tier is checked, at first and whenever that changes.
-/

namespace DonationSite.Page

open Donation Ui
open Html (node)

namespace Rewards

variable {μ : Type}

/-- The line in the log about the checked tier. -/
def checkedLine (checked : Checked) : Log.Line :=
  ⟨.debug, "Reward tier checked: " ++ checked.describe⟩

/-- What is logged when the selector first appears. -/
def startEffects (tiers : Tiers) (amount : Amount) : List Effect :=
  [.log (checkedLine (tiers.select amount).checked)]

/-- What is logged when the amount changes. -/
def changeEffects (tiers : Tiers) (before after : Amount) : List Effect :=
  let checked := (tiers.select after).checked
  if checked = (tiers.select before).checked then [] else [.log (checkedLine checked)]

/-- One tier as a labelled radio button. -/
def tierView (selection : Selection) (index : Nat) (tier : Tier) : Html μ :=
  let checked := selection.isChecked index
  let reward := toString tier.reward.toNat
  .element "label"
    { classes := "reward-tier" ::
        (if checked then ["checked"] else []) ++
        (if selection.isSmall index then ["small"] else []) }
    [{ kind := .click, prevents := true, message := fun _ => none }]
    (.concat [
      node "input"
        { value := some reward
          checked := checked
          plain := [("type", "radio"), ("name", "reward")]
          flags := [("hidden", true)]
          classes := ["reward-input"] } [],
      node "span" { classes := ["reward-label"] } [.text tier.label],
      node "span" { classes := ["reward-minimum"] } [.text ("€" ++ tier.minimum.display)]])

/-- The note that the amount earns several rewards. -/
def multipleNote : Html μ :=
  node "p" { classes := ["reward-multiple"] }
    [.text "Your donation qualifies for several rewards, the highest one is selected."]

/-- The selector for an amount. -/
def view (tiers : Tiers) (amount : Amount) : Html μ :=
  let selection := tiers.select amount
  node "div" { classes := ["reward-selector"] } [
    node "div" { classes := ["reward-tiers"] }
      (tiers.tiers.mapIdx fun index tier => tierView selection index tier),
    if selection.earnsSeveral then multipleNote else .empty]

end Rewards

/-- A reward selector with a fixed amount. -/
structure Rewards where
  tiers : Tiers
  amount : Amount

namespace Rewards

/-- What is logged when the selector first appears. -/
def start (r : Rewards) : List Effect :=
  startEffects r.tiers r.amount

/-- The selector as a component; nothing that happens changes it. -/
def component : Component Rewards Empty where
  view r := view r.tiers r.amount
  update r _ := (r, [])
  receive r _ := (r, [])
  observe _ := {}

end Rewards

end DonationSite.Page
