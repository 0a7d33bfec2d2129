import DonationSite.Text.Blank
import DonationSite.Text.Upper

/-!
# Countries of VAT numbers

A VAT number starts with a country code. It is the ISO code of the country but for Greece, which
uses `EL`, and traders in Northern Ireland, who use `XI`.
-/

namespace DonationSite.Vat

/-- The ISO code of the country whose VAT numbers start with a code, in whatever case and with
blanks around it; none for a blank code. -/
def countryOfCode? (code : String) : Option String :=
  match Text.upper (Text.trim code) with
  | "" => none
  | "EL" => some "GR"
  | "XI" => some "GB"
  | country => some country

end DonationSite.Vat
