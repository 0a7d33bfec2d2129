import DonationSite.Route
import DonationSite.Settings
import DonationSite.Ui.Component

/-!
# Navigation bar

Links to the pages, a button that opens the menu on small screens, and a list of languages that
opens and closes on its own. Following a link closes the menu.
-/

namespace DonationSite.Ui

open Html (node)

/-- What is open in the navigation bar. -/
structure NavBar where
  menuOpen : Bool := false
  languagesOpen : Bool := false
  deriving DecidableEq, Repr, Inhabited

namespace NavBar

/-- What the visitor does to the navigation bar. -/
inductive Action where
  | toggleMenu
  | closeMenu
  | toggleLanguages
  deriving DecidableEq, Repr

/-- What is open after an action. -/
def apply (bar : NavBar) : Action → NavBar
  | .toggleMenu => { bar with menuOpen := !bar.menuOpen }
  | .closeMenu => { bar with menuOpen := false }
  | .toggleLanguages => { bar with languagesOpen := !bar.languagesOpen }

/-- A link to a page. -/
def link {μ : Type} (route : Route) (style label : String) : Html μ :=
  node "a" { plain := [("href", route.path)], classes := [style] } [.text label]

/-- A link to a page that closes the menu. -/
def menuLink (route : Route) (label : String) : Html Action :=
  .element "div" {} [{ kind := .click, message := fun _ => some .closeMenu }]
    (link route "nav-link" label)

/-- The links to the site in other languages. -/
def languageList {μ : Type} : Html μ :=
  node "ul" { classes := ["langs-list"] } <|
    Settings.languages.map fun (code, name) =>
      node "li" {} [node "a" { plain := [("href", "/" ++ code ++ "/")] } [.text name]]

/-- The navigation bar as HTML. -/
def view (bar : NavBar) : Html Action :=
  node "nav" { classes := "top-nav" :: if bar.menuOpen then ["open-mobile"] else [] } [
    node "div" { classes := ["nav-content"] } [
      link .home "nav-logo" "Home",
      .element "button" { classes := ["menu-show"] }
        [{ kind := .click, prevents := true, message := fun _ => some .toggleMenu }]
        (.concat [node "span" {} [], node "span" {} [], node "span" {} []]),
      node "div" { classes := ["nav-right"] } [
        menuLink .pricing "Pricing",
        menuLink .donate "Donate",
        menuLink .billing "Billing",
        node "div" { classes := "langs" :: if bar.languagesOpen then ["opened"] else [] } [
          .element "a" { plain := [("href", "#")], classes := ["open-langs"] }
            [{ kind := .click, prevents := true, message := fun _ => some .toggleLanguages }]
            (.text "Language"),
          if bar.languagesOpen then languageList else .empty]]]]

/-- The navigation bar as a component. -/
def component : Component NavBar Action where
  view := view
  update bar action := (bar.apply action, [])
  receive bar _ := (bar, [])
  observe bar := { nav := some (bar.menuOpen, bar.languagesOpen) }

end NavBar

end DonationSite.Ui
