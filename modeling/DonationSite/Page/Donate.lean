import DonationSite.Csrf
import DonationSite.Page.Rewards
import DonationSite.Ui.TokenInput

/-!
# Donation page

A form with an amount, a choice how often to repeat the donation, and the reward tiers that the
amount earns.
-/

namespace DonationSite.Page

open Donation Ui
open Html (node)

/-- The state of the donation page. -/
structure Donate where
  /-- The request token of the page. -/
  token : String
  /-- What is typed as the amount. -/
  amount : String := toString Settings.defaultDonation.toNat
  /-- The chosen recurrence. -/
  recurring : String := "y"
  deriving DecidableEq, Repr

namespace Donate

/-- What the visitor does on the donation page. -/
inductive Message where
  | typeAmount (text : String)
  | chooseRecurrence (value : String)
  deriving DecidableEq, Repr

/-- The donation page at first. -/
def start (browser : Browser) : Donate where
  token := Csrf.pageToken browser

/-- The amount that is typed. -/
def typedAmount (d : Donate) : Amount :=
  Amount.parse d.amount

/-- What is logged when the page first appears. -/
def startEffects (d : Donate) : List Effect :=
  Rewards.startEffects Settings.rewardTiers d.typedAmount

/-- What a message does. -/
def update (d : Donate) : Message → Donate × List Effect
  | .typeAmount text =>
    let next := { d with amount := text }
    (next, Rewards.changeEffects Settings.rewardTiers d.typedAmount next.typedAmount)
  | .chooseRecurrence value => ({ d with recurring := value }, [])

/-- One choice of recurrence. -/
def recurrenceView (d : Donate) (value label : String) : Html Message :=
  node "label" { classes := ["recurrence-choice"] } [
    .element "input"
      { value := some value
        checked := d.recurring = value
        plain := [("type", "radio"), ("name", "recurring")] }
      [{ kind := .change, message := fun text => some (.chooseRecurrence text) }]
      .empty,
    .text label]

/-- The donation page as HTML. -/
def view (d : Donate) : Html Message :=
  node "div" { classes := ["donate-container"] } [
    node "h1" {} [.text "Support the project"],
    node "form"
      { plain := [("method", "post"), ("action", Settings.backendUrl ++ Settings.donatePath)]
        classes := ["donate-form"] } [
      tokenInput d.token,
      node "label" { plain := [("for", "donate-amount")] } [.text "Amount (EUR)"],
      .element "input"
        { value := some d.amount
          plain := [("id", "donate-amount"), ("type", "number"), ("name", "amount"),
            ("min", toString Settings.minDonation.toNat)] }
        [{ kind := .input, message := fun text => some (.typeAmount text) }]
        .empty,
      node "div" { classes := ["donate-recurrence"] }
        (Settings.recurrenceChoices.map fun (value, label) => d.recurrenceView value label),
      Rewards.view Settings.rewardTiers d.typedAmount,
      node "button" { plain := [("type", "submit")], classes := ["donate-button"] }
        [.text "Donate"]]]

/-- The donation page as a component. -/
def component : Component Donate Message where
  view := view
  update := update
  receive d _ := (d, [])
  observe d := { amount := some d.amount, recurring := some d.recurring }

end Donate

end DonationSite.Page
