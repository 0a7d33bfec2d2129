import DonationSite.Page.Billing
import DonationSite.Page.Donate
import DonationSite.Page.Pricing
import DonationSite.Ui.NavBar

/-!
# The site

The navigation bar above the page that the path of the browser names. The home page is the pricing
page.
-/

namespace DonationSite

open Page Ui

/-- The state of the page that is shown. -/
inductive Shown where
  | pricing (page : Pricing)
  | donate (page : Donate)
  | billing (page : Billing)
  | notFound

namespace Shown

/-- What the visitor does on the page that is shown. -/
inductive Message where
  | pricing (message : Pricing.Message)
  | donate (message : Donate.Message)
  | billing (message : Billing.Message)
  deriving DecidableEq, Repr

/-- The page of a route, at first. -/
def start (route : Route) (browser : Browser) : Shown :=
  match route with
  | .home => .pricing (.start browser)
  | .pricing => .pricing (.start browser)
  | .donate => .donate (.start browser)
  | .billing => .billing (.start browser)
  | .notFound => .notFound

/-- The name of the page. -/
def name : Shown → String
  | pricing _ => "Pricing"
  | donate _ => "Donate"
  | billing _ => "Billing"
  | notFound => "NotFound"

/-- What the page does when it first appears. -/
def startEffects : Shown → List Effect
  | donate page => page.startEffects
  | _ => []

/-- The page as HTML. -/
def view : Shown → Html Message
  | pricing page => page.view.map .pricing
  | donate page => page.view.map .donate
  | billing page => page.view.map .billing
  | notFound => Html.node "h1" { classes := ["not-found"] } [.text "Page not found"]

/-- A change of the page with its effects. -/
def lift {σ : Type} (wrap : σ → Shown) (change : σ × List Effect) : Shown × List Effect :=
  (wrap change.1, change.2)

/-- What a message does. A message for another page than the one shown does nothing. -/
def update (shown : Shown) (message : Message) : Shown × List Effect :=
  match shown, message with
  | pricing page, .pricing message => lift pricing (page.update message)
  | donate page, .donate message => lift donate (page.update message)
  | billing page, .billing message => lift billing (page.update message)
  | shown, _ => (shown, [])

/-- Takes a report of the browser. -/
def receive (shown : Shown) (signal : Signal) : Shown × List Effect :=
  match shown with
  | pricing page => lift pricing (page.receive signal)
  | billing page => lift billing (page.receive signal)
  | shown => (shown, [])

/-- What can be seen of the page. -/
def observe : Shown → Observation
  | pricing page => Pricing.component.observe page
  | donate page => Donate.component.observe page
  | billing page => Billing.component.observe page
  | notFound => {}

end Shown

/-- The state of the site. -/
structure Site where
  nav : NavBar
  shown : Shown

namespace Site

/-- What the visitor does. -/
inductive Message where
  | nav (action : NavBar.Action)
  | page (message : Shown.Message)
  deriving DecidableEq, Repr

/-- The least serious level of the lines that reach the console. -/
def consoleLevel : Log.Level := .info

/-- Whether the console shows where the site crashes. -/
def reportsCrashes : Bool := true

/-- The site at first. -/
def start (browser : Browser) : Site where
  nav := {}
  shown := .start (.ofPath browser.path) browser

/-- What the site does when it starts. -/
def startEffects (site : Site) : List Effect :=
  [.log ⟨.info, "Starting application"⟩,
    .log ⟨.info, "Rendering " ++ site.shown.name ++ " page"⟩] ++
    site.shown.startEffects

/-- The site as HTML. -/
def view (site : Site) : Html Message :=
  site.nav.view.map .nav ++ site.shown.view.map .page

/-- What a message does. -/
def update (site : Site) : Message → Site × List Effect
  | .nav action => ({ site with nav := site.nav.apply action }, [])
  | .page message =>
    let (shown, effects) := site.shown.update message
    ({ site with shown := shown }, effects)

/-- Takes a report of the browser. -/
def receive (site : Site) (signal : Signal) : Site × List Effect :=
  let (shown, effects) := site.shown.receive signal
  ({ site with shown := shown }, effects)

/-- The site as a component. -/
def component : Component Site Message where
  view := view
  update := update
  receive := receive
  observe site := (NavBar.component.observe site.nav).both site.shown.observe

end Site

end DonationSite
