import DonationSite.Browser
import DonationSite.Ui.ClipboardButton
import DonationSite.Ui.TabBar

/-!
# Pricing page

Tabs with prices, and an address to copy.
-/

namespace DonationSite.Page

open Ui
open Html (node)

/-- A tab and what it shows. The content has no listeners. -/
structure Tab where
  id : String
  label : String
  content : Html Empty

/-- Tabs, one of which is current. -/
structure Tabs where
  tabs : List Tab
  /-- Which tab is current. -/
  set : TabBar

namespace Tabs

/-- Tabs of which the first is current. -/
def ofList (tabs : List Tab) : Tabs where
  tabs := tabs
  set := { ids := tabs.map (·.id) }

/-- What the visitor does: selects a tab by its identifier. -/
inductive Message where
  | select (id : String)
  deriving DecidableEq, Repr

/-- Selects a tab; the log says so if that changes anything. -/
def update (t : Tabs) : Message → Tabs × List Effect
  | .select id =>
    match t.set.select? id with
    | some set => ({ t with set := set }, [.log ⟨.debug, "Pricing tab switched to " ++ id⟩])
    | none => (t, [])

/-- The class that marks the current tab. -/
def currentClass (set : TabBar) (id : String) : List String :=
  if set.isCurrent id then ["current"] else []

/-- The tab as something to click. -/
def linkView (set : TabBar) (tab : Tab) : Html Message :=
  .element "li"
    { plain := [("data-tab", tab.id)], classes := "tab-link" :: currentClass set tab.id }
    [{ kind := .click, message := fun _ => some (.select tab.id) }]
    (.text tab.label)

/-- The content of a tab. -/
def contentView (set : TabBar) (tab : Tab) : Html Message :=
  node "div" { plain := [("id", tab.id)], classes := "tab-content" :: currentClass set tab.id }
    [tab.content.map nofun]

/-- The tabs as HTML: all labels, then all contents. -/
def view (t : Tabs) : Html Message :=
  node "div" { classes := ["pricing-tabs-wrapper"] }
    (node "ul" { classes := ["pricing-tabs"] } (t.tabs.map (linkView t.set)) ::
      t.tabs.map (contentView t.set))

/-- The tabs as a component. -/
def component : Component Tabs Message where
  view := view
  update := update
  receive t _ := (t, [])
  observe t := { tab := some t.set.current? }

end Tabs

/-- The state of the pricing page. -/
structure Pricing where
  tabs : Tabs
  button : ClipboardButton

namespace Pricing

/-- What the visitor does on the pricing page. -/
inductive Message where
  | tabs (message : Tabs.Message)
  | button (message : ClipboardButton.Message)
  deriving DecidableEq, Repr

/-- What is on offer and for how much. -/
def card (name amount period : String) : Html Empty :=
  node "div" { classes := ["pricing-card"] } [
    node "h3" {} [.text name],
    node "span" { classes := ["amount"] } [.text amount],
    node "span" { classes := ["period"] } [.text period]]

/-- The prices by month and by year. -/
def prices : List Tab := [
  { id := "monthly"
    label := "Monthly"
    content := node "div" { classes := ["pricing-grid"] }
      [card "Basic" "€19" "/month", card "Professional" "€99" "/month"] },
  { id := "yearly"
    label := "Yearly"
    content := node "div" { classes := ["pricing-grid"] }
      [card "Basic" "€190" "/year", card "Professional" "€990" "/year"] }]

/-- Where to ask about invoices. -/
def contact : String := "billing@example.org"

/-- The pricing page at first. -/
def start (browser : Browser) : Pricing where
  tabs := .ofList prices
  button := { text := contact, hasWindow := browser.hasWindow }

/-- What a message does. -/
def update (p : Pricing) : Message → Pricing × List Effect
  | .tabs message =>
    let (tabs, effects) := p.tabs.update message
    ({ p with tabs := tabs }, effects)
  | .button _ =>
    let (button, effects) := p.button.click
    ({ p with button := button }, effects)

/-- Takes a report of the browser. -/
def receive (p : Pricing) (signal : Signal) : Pricing × List Effect :=
  let (button, effects) := p.button.receive signal
  ({ p with button := button }, effects)

/-- The pricing page as HTML. -/
def view (p : Pricing) : Html Message :=
  node "div" { classes := ["pricing-container"] } [
    node "div" { classes := ["pricing-header"] } [
      node "h1" {} [.text "Hosting and support"]],
    p.tabs.view.map .tabs,
    node "div" { classes := ["pricing-contact"] } [
      node "span" {} [.text "Questions about invoicing? Write to "],
      node "code" {} [.text contact],
      p.button.view.map .button]]

/-- The pricing page as a component. -/
def component : Component Pricing Message where
  view := view
  update := update
  receive := receive
  observe p := (Tabs.component.observe p.tabs).both (ClipboardButton.component.observe p.button)

end Pricing

end DonationSite.Page
