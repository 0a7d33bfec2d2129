import DonationSite.Html.Basic
import DonationSite.Settings

/-!
# Token input

The hidden input by which a form carries the request token of its page.
-/

namespace DonationSite.Ui

/-- The hidden input with a request token. -/
def tokenInput {μ : Type} (token : String) : Html μ :=
  Html.node "input"
    { value := some token, plain := [("type", "hidden"), ("name", Settings.csrfField)] } []

end DonationSite.Ui
