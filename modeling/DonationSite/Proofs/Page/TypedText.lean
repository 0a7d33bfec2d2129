import DonationSite.Proofs.Page.BillingView
import DonationSite.Proofs.Page.OneSlot

/-!
# What is typed into the VAT inputs

The two VAT inputs report their texts to the form when they change, which is not while the visitor
types. Whenever the form changes, the page renders again, and each input then holds the text that
the form has for it. So what the visitor has typed since the last report does not survive an answer
that arrives, nor an edit of another control.

## Key results

- `Screen.get_form_take`: what an event does to what the form has for a VAT input
- `Screen.held_take_of_rerenders`, `Screen.held_take_of_not_rerenders`: what an input holds after it
- `Screen.typed_kept_iff`: an input keeps what was typed exactly if that is what it last reported
-/

namespace DonationSite.Page.Billing

open DonationSite.Billing Ui

/-! ### The controls -/

/-- One of the two VAT inputs. -/
inductive VatInput where
  | countryCode
  | vatNumber
  deriving DecidableEq, Repr

namespace VatInput

/-- The field of the form that an input is for. -/
def field : VatInput → Field
  | countryCode => .countryCode
  | vatNumber => .vatNumber

/-- The identifier of the element. -/
def id : VatInput → String
  | countryCode => "vat-country-code"
  | vatNumber => "vat-number"

/-- The number of the listeners of an input. -/
def number : VatInput → Nat
  | countryCode => 0
  | vatNumber => 1

end VatInput

/-- A control of the form besides the VAT inputs. -/
inductive OtherControl where
  | country
  | name
  | address
  | postcode
  | city
  deriving DecidableEq, Repr

namespace OtherControl

/-- The field of the form that a control is for. -/
def field : OtherControl → Field
  | country => .country
  | name => .name
  | address => .address
  | postcode => .postcode
  | city => .city

/-- The event by which a control reports its text: while the visitor types, or once a country is
chosen. -/
def report : OtherControl → String → Step
  | country, text => .fire .change 2 text
  | name, text => .fire .input 0 text
  | address, text => .fire .input 1 text
  | postcode, text => .fire .input 2 text
  | city, text => .fire .input 3 text

end OtherControl

/-- The text that a VAT input holds. -/
def held (b : Billing) : VatInput → String
  | .countryCode => b.codeInput.getD ""
  | .vatNumber => b.numberInput.getD ""

/-! ### What is on the screen -/

namespace Screen

/-- What happens to a page on the screen. -/
inductive Event where
  /-- The visitor types into a VAT input, which holds a text then. -/
  | type (input : VatInput) (text : String)
  /-- A VAT input reports that its text has changed. -/
  | change (input : VatInput)
  /-- The visitor leaves a VAT input. -/
  | leave (input : VatInput)
  /-- The visitor puts a text into another control. -/
  | edit (control : OtherControl) (text : String)
  /-- The reply to the request with a number arrives. -/
  | reply (number : Nat) (reply : Http.Reply)

namespace Event

/-- What an event is to the page. An input reports the text that it holds. -/
def step (b : Billing) : Event → Step
  | type .countryCode text => .signal (.inputs (some text) b.numberInput)
  | type .vatNumber text => .signal (.inputs b.codeInput (some text))
  | change input => .fire .change input.number (b.held input)
  | leave input => .fire .focusOut input.number (b.held input)
  | edit control text => control.report text
  | reply number answer => .signal (.reply number answer)

/-- The text that an event types into an input. -/
def typed? (input : VatInput) : Event → Option String
  | type other text => if other = input then some text else none
  | _ => none

/-- Whether an input reports its text. -/
def isChange (input : VatInput) : Event → Bool
  | change other => other = input
  | _ => false

end Event

/-- The actions that a step dispatches to the form. -/
def dispatched (b : Billing) : Step → List Action
  | .fire kind number value =>
    match meaning? kind number value with
    | some (.edit field text) => [.edit field text]
    | _ => []
  | .signal (.reply number reply) =>
    ((b.lookups.answer number (Vat.answerOfReply reply)).2.finished.filterMap (·.patch)).map
      .autofill
  | .signal _ => []

/-- Whether the page renders again after an event, since an action was dispatched to the form. -/
def rerenders (b : Billing) (event : Event) : Bool :=
  !(dispatched b (event.step b)).isEmpty

/-- The value that an input is rendered with. -/
def shown (b : Billing) (input : VatInput) : Option String :=
  (b.view.withId input.id).head?.bind (·.attributes.value)

/-- The page after it has rendered: an input that held another text than it is rendered with holds
that one now. -/
def render (b : Billing) : Billing where
  __ := b
  codeInput := shown b .countryCode
  numberInput := shown b .vatNumber

/-- Takes an event. -/
def take (b : Billing) (event : Event) : Billing :=
  let next := (b.taken (event.step b)).1
  if rerenders b event then render next else next

/-- A page that has just been opened, after events. -/
def after (browser : Browser) (events : List Event) : Billing :=
  events.foldl take (render (start browser))

/-- The text that was last typed into an input. -/
def typed (input : VatInput) (events : List Event) : String :=
  (events.filterMap (Event.typed? input)).getLast?.getD ""

/-- The text that an input last reported from a page on; the given text if it reported none. -/
def reportedFrom (b : Billing) (input : VatInput) (text : String) : List Event → String
  | [] => text
  | event :: events =>
    reportedFrom (take b event) input (if event.isChange input then b.held input else text) events

/-- The text that an input last reported. -/
def reported (browser : Browser) (input : VatInput) (events : List Event) : String :=
  reportedFrom (render (start browser)) input "" events

/-! ### What changes the form -/

/-- An edit puts its text into its field. -/
theorem get_edit_self (form : Form) (field : Field) (text : String) :
    (form.edit field text).get field = text := by
  cases field <;> rfl

/-- An edit changes its field and perhaps the country, but no other field. -/
theorem get_edit_of_ne (form : Form) {field : Field} {input : VatInput} (text : String)
    (h : input.field ≠ field) : (form.edit field text).get input.field = form.get input.field := by
  cases input <;> cases field <;> first | rfl | exact absurd rfl h

/-- Lookups fill in no VAT input. -/
theorem get_foldl_autofill (form : Form) (patches : List Vat.Patch) (input : VatInput) :
    ((patches.map Action.autofill).foldl Form.apply form).get input.field =
      form.get input.field := by
  induction patches generalizing form with
  | nil => rfl
  | cons patch patches ih =>
    rw [List.map_cons, List.foldl_cons, ih]
    cases input <;> rfl

/-- A call fills in nothing when it begins. -/
theorem patches_focusOut (a : Vat.Autofill) (countryCode vatNumber token : String) :
    (a.focusOut countryCode vatNumber token).2.finished.filterMap (·.patch) = [] := by
  cases hrequest : Vat.Request.ofInputs? countryCode vatNumber token with
  | none =>
    rw [Vat.Autofill.focusOut_of_none hrequest]
    rfl
  | some request =>
    rw [Vat.Autofill.focusOut_of_some hrequest]
    rfl

/-- Lookups change the form by what the calls that end fill in. -/
theorem form_lookUp (b : Billing) (event : Vat.LookupEvent) :
    (b.lookUp event).1.form = fillAll b.form (b.lookups.step event).2.finished := by
  rw [lookUp]

/-- Leaving an input leaves the form as it is. -/
theorem form_leave (b : Billing) : (b.update .leave).1.form = b.form := by
  rw [update]
  split
  -- The call may end at once, but fills in nothing then.
  · rw [form_lookUp, Vat.Autofill.step, fillAll, patches_focusOut, List.foldl_nil]
  · rfl

/-- What a step dispatches is all that changes the form. -/
theorem form_taken (b : Billing) (s : Step) :
    (b.taken s).1.form = (dispatched b s).foldl Form.apply b.form := by
  cases s with
  | fire kind number value =>
    rw [taken_fire, dispatched]
    cases meaning? kind number value with
    | none => rfl
    | some message =>
      cases message with
      | edit field text => rfl
      | leave => exact form_leave b
  | signal signal =>
    cases signal with
    | reply number answer =>
      rw [taken_signal, receive, form_lookUp, dispatched, List.foldl_map]
      rfl
    | copied | due | inputs => rfl

/-! ### One event -/

variable {b : Billing} {input : VatInput}

/-- Typing into a VAT input dispatches nothing. -/
theorem dispatched_type (b : Billing) (input : VatInput) (text : String) :
    dispatched b (Event.step b (.type input text)) = [] := by
  cases input <;> rfl

/-- The report of a VAT input dispatches the edit of its field, with the text it holds. -/
theorem dispatched_change (b : Billing) (input : VatInput) :
    dispatched b (Event.step b (.change input)) = [.edit input.field (b.held input)] := by
  cases input <;> rfl

/-- Leaving a VAT input dispatches nothing. -/
theorem dispatched_leave (b : Billing) (input : VatInput) :
    dispatched b (Event.step b (.leave input)) = [] := by
  cases input <;> rfl

/-- The report of another control dispatches the edit of its field. -/
theorem dispatched_edit (b : Billing) (control : OtherControl) (text : String) :
    dispatched b (Event.step b (.edit control text)) = [.edit control.field text] := by
  cases control <;> rfl

/-- An input is rendered with the text that the form has for it. -/
theorem shown_eq (b : Billing) (input : VatInput) :
    shown b input = some (b.form.get input.field) := by
  -- The page has one element with the identifier, which has the text of the form for its value.
  have hvalue : (b.view.withId input.id).map (·.attributes.value) =
      [some (b.form.get input.field)] := by
    cases input with
    | countryCode => exact b.value_countryCode_view
    | vatNumber => exact b.value_vatNumber_view
  obtain ⟨element, helement, htext⟩ := List.map_eq_singleton_iff.1 hvalue
  rw [shown, helement]
  exact htext

/-- Once rendered, an input holds what the form has for it. -/
theorem held_render (b : Billing) (input : VatInput) :
    (render b).held input = b.form.get input.field := by
  have hshown := shown_eq b input
  cases input with
  | countryCode =>
    show (shown b .countryCode).getD "" = _
    rw [hshown, Option.getD_some]
  | vatNumber =>
    show (shown b .vatNumber).getD "" = _
    rw [hshown, Option.getD_some]

/-- The form changes by what is dispatched, whether or not the page renders again. -/
theorem form_take (b : Billing) (event : Event) :
    (take b event).form = (dispatched b (event.step b)).foldl Form.apply b.form := by
  rw [← form_taken, take]
  split <;> rfl

/-- Only the report of an input itself changes what the form has for it. -/
theorem get_form_take (b : Billing) (event : Event) (input : VatInput) :
    (take b event).form.get input.field =
      if event.isChange input then b.held input else b.form.get input.field := by
  rw [form_take]
  cases event with
  | type other text => rw [dispatched_type]; rfl
  | change other =>
    rw [dispatched_change, List.foldl_cons, List.foldl_nil, Form.apply]
    -- The report of one VAT input is an edit of its own field and not of the other's.
    by_cases hother : other = input
    · rw [hother, get_edit_self]
      simp [Event.isChange]
    · have hfield : input.field ≠ other.field := by
        cases input <;> cases other <;> first | exact absurd rfl hother | decide
      rw [get_edit_of_ne _ _ hfield]
      simp [Event.isChange, hother]
  | leave other => rw [dispatched_leave]; rfl
  | edit control text =>
    -- No other control is for the field of a VAT input.
    have hfield : input.field ≠ control.field := by
      cases input <;> cases control <;> decide
    rw [dispatched_edit, List.foldl_cons, List.foldl_nil, Form.apply, get_edit_of_ne _ _ hfield]
    rfl
  -- A reply reports no input, and its patch has no text for one.
  | reply number answer => exact get_foldl_autofill b.form _ input

/-- Once the page has rendered again, an input holds what the form has for it. -/
theorem held_take_of_rerenders {event : Event} (h : rerenders b event = true) :
    (take b event).held input = (take b event).form.get input.field := by
  rw [take, if_pos h, held_render]
  rfl

/-- Lookups do not change what an input holds. -/
theorem held_lookUp (b : Billing) (event : Vat.LookupEvent) (input : VatInput) :
    (b.lookUp event).1.held input = b.held input := by
  cases input <;> rw [held, lookUp, held]

/-- An event of the visitor does not change what an input holds, unless the page renders again. -/
theorem held_fire (b : Billing) (kind : Html.EventKind) (number : Nat) (value : String)
    (input : VatInput) : (b.taken (.fire kind number value)).1.held input = b.held input := by
  rw [taken_fire]
  cases meaning? kind number value with
  | none => rfl
  | some message =>
    cases message with
    | edit field text => cases input <;> rfl
    | leave =>
      dsimp only
      rw [update]
      split
      -- A call may begin, but that changes no input.
      · exact held_lookUp b _ input
      · rfl

/-- Until the page renders again, an input holds what was typed. -/
theorem held_take_of_not_rerenders {event : Event} (h : rerenders b event = false) :
    (take b event).held input = (event.typed? input).getD (b.held input) := by
  -- Without another render the event itself decides.
  rw [take, if_neg (by rw [h]; exact Bool.false_ne_true)]
  cases event with
  -- Typing is a signal of the browser, which sets what the input holds.
  | type other text => cases other <;> cases input <;> rfl
  | change other => exact held_fire b _ _ _ input
  | leave other => exact held_fire b _ _ _ input
  | edit control text => cases control <;> exact held_fire b _ _ _ input
  | reply number answer => exact held_lookUp b (.answer number (Vat.answerOfReply answer)) input

/-! ### Runs -/

/-- One more event is taken from where the events before it ended. -/
theorem after_concat (browser : Browser) (events : List Event) (event : Event) :
    after browser (events ++ [event]) = take (after browser events) event := by
  rw [after, List.foldl_append]
  rfl

/-- The form has for an input what it last reported, or what it had at first. -/
theorem get_form_foldl (b : Billing) (events : List Event) (input : VatInput) :
    (events.foldl take b).form.get input.field =
      reportedFrom b input (b.form.get input.field) events := by
  induction events generalizing b with
  | nil => rfl
  | cons event events ih => rw [List.foldl_cons, ih, reportedFrom, get_form_take]

/-- The form of a page that was opened has for an input what it last reported. -/
theorem get_form_after (browser : Browser) (events : List Event) (input : VatInput) :
    (after browser events).form.get input.field = reported browser input events := by
  rw [after, get_form_foldl, reported]
  cases input <;> rfl

/-- When a page renders again, an input that did not report its text itself holds the text that it
last reported. So whatever else has happened, it holds what the visitor last typed into it exactly
if it last reported that. -/
theorem typed_kept_iff (browser : Browser) (events : List Event) (event : Event) (input : VatInput)
    (hrender : rerenders (after browser events) event = true)
    (hother : event.isChange input = false) :
    (after browser (events ++ [event])).held input = typed input events ↔
      reported browser input events = typed input events := by
  -- The event reports another control or none, so the form still has the last report.
  have hform : (take (after browser events) event).form.get input.field =
      reported browser input events := by
    rw [get_form_take, if_neg (by rw [hother]; exact Bool.false_ne_true), get_form_after]
  rw [after_concat, held_take_of_rerenders hrender, hform]

/-- A VAT number is looked up, and the visitor has gone back to type another digit. -/
def digitAdded : List Event := [
  .type .countryCode "CZ",
  .change .countryCode,
  .leave .countryCode,
  .type .vatNumber "1",
  .change .vatNumber,
  .leave .vatNumber,
  .type .vatNumber "12"]

/-- The lookup finds a company. -/
def companyFound : Event :=
  .reply 0 (.received 200 (.ok "\x7b\"valid\":true,\"name\":\"ACME\"\x7d"))

/-- The answer arrives and the page renders again. The country code, which was reported, stays as it
is, but the digit is lost. -/
theorem typed_kept_digitAdded :
    rerenders (after {} digitAdded) companyFound = true ∧
      (after {} (digitAdded ++ [companyFound])).held .countryCode = "CZ" ∧
      (after {} (digitAdded ++ [companyFound])).held .vatNumber ≠ "12" := by
  have hrender : rerenders (after {} digitAdded) companyFound = true := by decide +kernel
  refine ⟨hrender, ?_, ?_⟩
  · exact (typed_kept_iff {} digitAdded companyFound .countryCode hrender rfl).2 (by decide +kernel)
  -- The number was reported as 1, and 12 was typed since.
  · intro hkept
    have hreported := (typed_kept_iff {} digitAdded companyFound .vatNumber hrender rfl).1 hkept
    exact absurd hreported (by decide +kernel)

/-- What is typed does not always stay: here an answer takes it back to what was reported. -/
theorem answer_overwrites_typed :
    ¬∀ (browser : Browser) (events : List Event) (event : Event) (input : VatInput),
      rerenders (after browser events) event = true → event.isChange input = false →
        (after browser (events ++ [event])).held input = typed input events := by
  intro h
  have hkept := h {} digitAdded companyFound .vatNumber (by decide +kernel) rfl
  have hheld : (after {} (digitAdded ++ [companyFound])).held .vatNumber = "1" := by
    decide +kernel
  rw [hheld] at hkept
  exact absurd hkept (by decide)

/-- So does the edit of another control. -/
example : (after {} (digitAdded ++ [.edit .name "Ada"])).held .vatNumber = "1" := by
  decide +kernel

end Screen

end DonationSite.Page.Billing
