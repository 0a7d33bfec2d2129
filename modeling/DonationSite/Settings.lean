import DonationSite.Donation.Tier

/-!
# Settings of the site

The fixed addresses, field names, amounts, choices and tables that the pages use.
-/

namespace DonationSite.Settings

open Donation

/-- Where the backend listens. -/
def backendUrl : String := "http://localhost:8000"

/-- The path that answers lookups of VAT numbers. -/
def vatLookupPath : String := "/js/vat/"

/-- The path that takes new donations. -/
def donatePath : String := "/donate/new/"

/-- The form field that carries the request token. -/
def csrfField : String := "csrfmiddlewaretoken"

/-- The cookie that carries the request token. -/
def csrfCookie : String := "csrftoken"

/-- The least donation, in euros. -/
def minDonation : UInt32 := 5

/-- The donation proposed at first, in euros. -/
def defaultDonation : UInt32 := 10

/-- The rewards on offer: number, label and least amount in euros. -/
def rewardLevels : List (UInt8 × String × UInt32) := [
  (0, "No reward", 0),
  (1, "Name in the list of supporters", 100),
  (2, "Link in the list of supporters", 250),
  (3, "Logo and link on the website", 500)]

/-- How often a donation can be repeated: form value and label. -/
def recurrenceChoices : List (String × String) := [
  ("y", "Annual"),
  ("b", "Biannual"),
  ("q", "Quarterly"),
  ("m", "Monthly"),
  ("", "One-time")]

/-- The languages of the site: code and name. -/
def languages : List (String × String) := [
  ("en", "English"),
  ("cs", "Čeština"),
  ("de", "Deutsch"),
  ("es", "Español"),
  ("fr", "Français"),
  ("pt", "Português")]

/-- The countries of the billing form: ISO code and name. First those of the European Union, then
those that are invoiced without a VAT lookup. -/
def countries : List (String × String) := [
  ("AT", "Austria"),
  ("BE", "Belgium"),
  ("BG", "Bulgaria"),
  ("CY", "Cyprus"),
  ("CZ", "Czechia"),
  ("DE", "Germany"),
  ("DK", "Denmark"),
  ("EE", "Estonia"),
  ("ES", "Spain"),
  ("FI", "Finland"),
  ("FR", "France"),
  ("GR", "Greece"),
  ("HR", "Croatia"),
  ("HU", "Hungary"),
  ("IE", "Ireland"),
  ("IT", "Italy"),
  ("LT", "Lithuania"),
  ("LU", "Luxembourg"),
  ("LV", "Latvia"),
  ("MT", "Malta"),
  ("NL", "Netherlands"),
  ("PL", "Poland"),
  ("PT", "Portugal"),
  ("RO", "Romania"),
  ("SE", "Sweden"),
  ("SI", "Slovenia"),
  ("SK", "Slovakia"),
  ("AU", "Australia"),
  ("BR", "Brazil"),
  ("CA", "Canada"),
  ("CH", "Switzerland"),
  ("CN", "China"),
  ("GB", "United Kingdom"),
  ("IL", "Israel"),
  ("IN", "India"),
  ("IS", "Iceland"),
  ("JP", "Japan"),
  ("KR", "South Korea"),
  ("LI", "Liechtenstein"),
  ("NO", "Norway"),
  ("NZ", "New Zealand"),
  ("RS", "Serbia"),
  ("SG", "Singapore"),
  ("TR", "Turkey"),
  ("UA", "Ukraine"),
  ("US", "United States"),
  ("ZA", "South Africa")]

/-- How long a copy button says that it has copied, in milliseconds. -/
def copiedResetMs : Nat := 2000

/-- The tiers of the rewards on offer, in the configured order. -/
def rewardTiers : Tiers where
  tiers := rewardLevels.map fun (reward, label, euros) => ⟨reward, label, .ofUInt32 euros⟩
  nonempty := by simp [rewardLevels]

/-- The rewards on offer are accepted as tiers. -/
theorem ofOffers_rewardTiers :
    Tiers.ofOffers (rewardTiers.tiers.map Tier.offer) = .ok rewardTiers := rfl

end DonationSite.Settings
