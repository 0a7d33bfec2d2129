import DonationSite.Page.Billing
import DonationSite.Proofs.Html.Elements

/-!
# What stands on the billing page

What a reader of the billing page finds in its form: the hidden input with the token, and the two
inputs for the VAT number.

## Key results

- `hidden_view`: the hidden input holds the token
- `value_countryCode_view`, `value_vatNumber_view`: the VAT inputs are rendered with the texts that
  the form has for them
-/

namespace DonationSite.Page.Billing

open DonationSite.Billing Ui
open Html (Element)

/-- What is found in no choice of the country is not found among them. -/
theorem flatMap_countryOptions (form : Form) {f : Html Message → List (Element Message)}
    (h : ∀ code name, f (countryOption form code name) = []) :
    (countryOptions form).flatMap f = [] := by
  rw [countryOptions, List.flatMap_cons, h, List.nil_append, List.flatMap_map]
  exact List.flatMap_eq_nil_iff.2 fun country _ => h country.1 country.2

variable (b : Billing)

/-- The form has one hidden input for the token, which holds it. -/
theorem hidden_view :
    (b.view.hidden "csrfmiddlewaretoken").map (·.attributes.value) = [some b.token] := by
  -- The choices of the country hold no input, however many there are.
  have hoptions := flatMap_countryOptions b.form (f := Html.hidden "csrfmiddlewaretoken")
    fun code name => by simp [countryOption]
  rw [view]
  simp [tokenInput, labelFor, textInput, Html.find_append, Settings.csrfField, hoptions]

/-- The input for the country code is rendered with the text the form has for it. -/
theorem value_countryCode_view :
    (b.view.withId "vat-country-code").map (·.attributes.value) = [some b.form.countryCode] := by
  have hoptions := flatMap_countryOptions b.form (f := Html.withId "vat-country-code")
    fun code name => by simp [countryOption]
  rw [view]
  simp [tokenInput, labelFor, textInput, Html.find_append, hoptions]

/-- The input for the VAT number is rendered with the text the form has for it. -/
theorem value_vatNumber_view :
    (b.view.withId "vat-number").map (·.attributes.value) = [some b.form.vatNumber] := by
  have hoptions := flatMap_countryOptions b.form (f := Html.withId "vat-number")
    fun code name => by simp [countryOption]
  rw [view]
  simp [tokenInput, labelFor, textInput, Html.find_append, hoptions]

end DonationSite.Page.Billing
