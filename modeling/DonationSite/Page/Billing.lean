import DonationSite.Csrf
import DonationSite.Ui.Component
import DonationSite.Ui.TokenInput
import DonationSite.Vat.Autofill

/-!
# Billing page

The billing form. Leaving either VAT input looks up what the two inputs hold at that moment, which
may be newer than the form; the answer fills in the form unless the visitor has left an input again
in the meantime.
-/

namespace DonationSite.Page

open DonationSite.Billing Ui
open Html (node)

/-- The state of the billing page. -/
structure Billing where
  /-- The request token of the page. -/
  token : String
  form : Form := {}
  /-- The lookups so far. -/
  lookups : Vat.Autofill := {}
  /-- The text that the input for the country code holds; none while it is not there. -/
  codeInput : Option String := none
  /-- The text that the input for the VAT number holds; none while it is not there. -/
  numberInput : Option String := none
  deriving DecidableEq, Repr

namespace Billing

/-- What the visitor does on the billing page. -/
inductive Message where
  | edit (field : Field) (value : String)
  /-- Leaves one of the VAT inputs. -/
  | leave
  deriving DecidableEq, Repr

/-- The billing page at first. -/
def start (browser : Browser) : Billing where
  token := Csrf.pageToken browser

/-- The effects of an outcome of the lookups. -/
def effectsOf (outcome : Vat.Outcome) : List Effect :=
  outcome.sent.map (fun request => .send (request.toHttp Settings.backendUrl)) ++
    outcome.log.map .log

/-- The form after the calls that ended filled it in. -/
def fillAll (form : Form) (finished : List Vat.Finished) : Form :=
  (finished.filterMap (·.patch)).foldl (fun form patch => form.apply (.autofill patch)) form

/-- Takes an event of the lookups. -/
def lookUp (b : Billing) (event : Vat.LookupEvent) : Billing × List Effect :=
  let (lookups, outcome) := b.lookups.step event
  ({ b with lookups := lookups, form := fillAll b.form outcome.finished }, effectsOf outcome)

/-- What a message does. -/
def update (b : Billing) : Message → Billing × List Effect
  | .edit field value => ({ b with form := b.form.apply (.edit field value) }, [])
  | .leave =>
    match b.codeInput, b.numberInput with
    | some code, some number => b.lookUp (.focusOut code number b.token)
    | _, _ => (b, [])

/-- Takes a report of the browser. -/
def receive (b : Billing) : Signal → Billing × List Effect
  | .reply number reply => b.lookUp (.answer number (Vat.answerOfReply reply))
  | .inputs code number => ({ b with codeInput := code, numberInput := number }, [])
  | _ => (b, [])

/-- The listener that puts a text into a field. -/
def editing (kind : Html.EventKind) (field : Field) : Html.Listener Message where
  kind := kind
  message value := some (.edit field value)

/-- The listener that looks up the VAT number. -/
def leaving : Html.Listener Message where
  kind := .focusOut
  message _ := some .leave

/-- The label of an input. -/
def labelFor (id text : String) : Html Message :=
  node "label" { plain := [("for", id)] } [.text text]

/-- A labelled input for a field that is edited as the visitor types. -/
def textInput (form : Form) (field : Field) (id name label : String) : Html Message :=
  labelFor id label ++
    .element "input" { value := some (form.get field), plain := [("id", id), ("name", name)] }
      [editing .input field] .empty

/-- One choice of the country. -/
def countryOption (form : Form) (code name : String) : Html Message :=
  node "option" { value := some code, flags := [("selected", form.country == code)] } [.text name]

/-- The choices of the country: none, or one of those on offer. -/
def countryOptions (form : Form) : List (Html Message) :=
  countryOption form "" "---------" ::
    Settings.countries.map fun (code, name) => countryOption form code name

/-- The billing page as HTML. -/
def view (b : Billing) : Html Message :=
  node "div" { classes := ["billing-container"] } [
    node "h1" {} [.text "Billing information"],
    node "form" { plain := [("method", "post")], classes := ["billing-form"] } [
      tokenInput b.token,
      node "div" { classes := ["vat-row"] } [
        labelFor "vat-country-code" "VAT ID",
        .element "input"
          { value := some b.form.countryCode
            plain := [("id", "vat-country-code"), ("name", "vat_0"), ("maxlength", "2"),
              ("placeholder", "CZ")]
            classes := ["vat-country-code"] }
          [editing .change .countryCode, leaving] .empty,
        .element "input"
          { value := some b.form.vatNumber, plain := [("id", "vat-number"), ("name", "vat_1")] }
          [editing .change .vatNumber, leaving] .empty],
      textInput b.form .name "billing-name" "name" "Name",
      textInput b.form .address "billing-address" "address" "Address",
      textInput b.form .postcode "billing-postcode" "postcode" "Postcode",
      textInput b.form .city "billing-city" "city" "City",
      labelFor "billing-country" "Country",
      .element "select" { plain := [("id", "billing-country"), ("name", "country")] }
        [editing .change .country] (.concat (countryOptions b.form)),
      node "button" { plain := [("type", "submit")], classes := ["billing-button"] }
        [.text "Save"]]]

/-- The billing page as a component. -/
def component : Component Billing Message where
  view := view
  update := update
  receive := receive
  observe b := { form := some b.form }

end Billing

end DonationSite.Page
