import DonationSite.Proofs.Text.Blank
import DonationSite.Vat.Request

/-!
# When a request is made

A request is made of two inputs exactly if neither is blank.
-/

namespace DonationSite.Vat.Request

/-- With a blank country or number there is nothing to ask. -/
theorem ofInputs?_of_blank {countryCode vatNumber : String}
    (h : (Text.isBlankText countryCode || Text.isBlankText vatNumber) = true) (token : String) :
    ofInputs? countryCode vatNumber token = none := by
  simp only [ofInputs?, Text.isEmpty_trim, h, if_true]

/-- With neither blank the request holds the trimmed country in capitals and the trimmed number
after it. -/
theorem ofInputs?_of_not_blank {countryCode vatNumber : String}
    (h : (Text.isBlankText countryCode || Text.isBlankText vatNumber) = false) (token : String) :
    ofInputs? countryCode vatNumber token =
      some ⟨Text.upper (Text.trim countryCode) ++ Text.trim vatNumber, token⟩ := by
  simp only [ofInputs?, Text.isEmpty_trim, h, Bool.false_eq_true, if_false]

end DonationSite.Vat.Request
