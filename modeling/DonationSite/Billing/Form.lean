import DonationSite.Settings
import DonationSite.Vat.Country
import DonationSite.Vat.Patch

/-!
# The billing form

The fields of the form and what changes them: the visitor edits a field, or an answer of the VAT
lookup fills some in. Editing the country code also selects the country it belongs to, if the form
offers that country.
-/

namespace DonationSite.Billing

/-- A field of the form. -/
inductive Field where
  | countryCode
  | vatNumber
  | country
  | name
  | address
  | city
  | postcode
  deriving DecidableEq, Repr

/-- The texts in the fields. -/
structure Form where
  countryCode : String := ""
  vatNumber : String := ""
  country : String := ""
  name : String := ""
  address : String := ""
  city : String := ""
  postcode : String := ""
  deriving DecidableEq, Repr, Inhabited

/-- Something that changes the form. -/
inductive Action where
  /-- The visitor puts a text into a field. -/
  | edit (field : Field) (value : String)
  /-- A lookup fills in fields. -/
  | autofill (patch : Vat.Patch)
  deriving DecidableEq, Repr

/-- Whether the form offers a country. -/
def isOffered (code : String) : Bool :=
  Settings.countries.any (·.1 == code)

/-- The offered country that a country code belongs to. -/
def countryOffered? (code : String) : Option String :=
  (Vat.countryOfCode? code).filter isOffered

namespace Form

/-- The text in a field. -/
def get (form : Form) : Field → String
  | .countryCode => form.countryCode
  | .vatNumber => form.vatNumber
  | .country => form.country
  | .name => form.name
  | .address => form.address
  | .city => form.city
  | .postcode => form.postcode

/-- A form with the text in one field replaced. -/
def set (form : Form) (field : Field) (value : String) : Form :=
  match field with
  | .countryCode => { form with countryCode := value }
  | .vatNumber => { form with vatNumber := value }
  | .country => { form with country := value }
  | .name => { form with name := value }
  | .address => { form with address := value }
  | .city => { form with city := value }
  | .postcode => { form with postcode := value }

/-- Putting a text into one field leaves the other ones as they are. -/
theorem get_set_of_ne (form : Form) {field other : Field} (value : String) (h : other ≠ field) :
    (form.set field value).get other = form.get other := by
  cases field <;> cases other <;> first | rfl | exact absurd rfl h

/-- A form after the visitor put a text into a field. -/
def edit (form : Form) (field : Field) (value : String) : Form :=
  match field with
  | .countryCode =>
    { form with countryCode := value, country := (countryOffered? value).getD form.country }
  | field => form.set field value

/-- A form with the texts that a lookup found. -/
def fill (form : Form) (patch : Vat.Patch) : Form :=
  { form with
    name := patch.name.getD form.name
    address := patch.address.getD form.address
    city := patch.city.getD form.city
    postcode := patch.postcode.getD form.postcode }

/-- A form after an action. -/
def apply (form : Form) : Action → Form
  | .edit field value => form.edit field value
  | .autofill patch => form.fill patch

end Form

end DonationSite.Billing
