import DonationSite.Settings
import DonationSite.Text.Blank
import DonationSite.Text.Percent
import DonationSite.Text.Upper

/-!
# Requests of the VAT lookup

A request names a VAT number, which is the uppercase country code followed by the number proper,
and carries the token of the page.
-/

namespace DonationSite.Vat

/-- What the backend is asked. -/
structure Request where
  vat : String
  token : String
  deriving DecidableEq, Repr

namespace Request

/-- The request for what stands in the two inputs; none if either is blank. -/
def ofInputs? (countryCode vatNumber token : String) : Option Request :=
  let code := Text.trim countryCode
  let number := Text.trim vatNumber
  if code.isEmpty || number.isEmpty then none
  else some ⟨Text.upper code ++ number, token⟩

/-- The request as the body of a form. -/
def toForm (request : Request) : String :=
  "vat=" ++ Text.Percent.encode request.vat ++
    "&" ++ Settings.csrfField ++ "=" ++ Text.Percent.encode request.token

end Request

end DonationSite.Vat
