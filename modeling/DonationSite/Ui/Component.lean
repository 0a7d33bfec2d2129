import DonationSite.Billing.Form
import DonationSite.Html.Printer
import DonationSite.Http
import DonationSite.Log

/-!
# Components

A component has a state, shows it as HTML, and changes it when the visitor does something or the
browser reports something. Changes may have effects outside: lines in the log, requests, writes to
the clipboard and timers. Requests, writes and timers are numbered from zero in the order in which
the component starts them, and what the browser reports of them names that number.
-/

namespace DonationSite.Ui

/-- What the browser reports to a component. -/
inductive Signal where
  /-- What came of a request. -/
  | reply (number : Nat) (reply : Http.Reply)
  /-- A write to the clipboard is done; the text says why it failed, if it did. -/
  | copied (number : Nat) (failure : Option String)
  /-- A timer is due. -/
  | due (number : Nat)
  /-- The texts that the two VAT inputs hold now; none for an input that is not there. -/
  | inputs (countryCode vatNumber : Option String)

/-- What a component brings about outside. -/
inductive Effect where
  | log (line : Log.Line)
  | send (request : Http.Request)
  | copy (text : String)
  | startTimer (milliseconds : Nat)

namespace Effect

/-- The line of an effect that writes to the log. -/
def line? : Effect → Option Log.Line
  | .log line => some line
  | _ => none

/-- The request of an effect that sends one. -/
def request? : Effect → Option Http.Request
  | .send request => some request
  | _ => none

/-- The text of an effect that writes to the clipboard. -/
def text? : Effect → Option String
  | .copy text => some text
  | _ => none

/-- The duration of an effect that starts a timer. -/
def milliseconds? : Effect → Option Nat
  | .startTimer milliseconds => some milliseconds
  | _ => none

end Effect

/-- What can be seen of the states of the components on a page. -/
structure Observation where
  /-- Whether the menu and the list of languages are open. -/
  nav : Option (Bool × Bool) := none
  /-- The current tab, if there is one at all. -/
  tab : Option (Option String) := none
  /-- The state of the copy button. -/
  copy : Option String := none
  form : Option Billing.Form := none
  /-- The typed amount. -/
  amount : Option String := none
  /-- How often the donation is to be repeated. -/
  recurring : Option String := none

/-- Everything that is seen of two components side by side. -/
def Observation.both (a b : Observation) : Observation where
  nav := a.nav.or b.nav
  tab := a.tab.or b.tab
  copy := a.copy.or b.copy
  form := a.form.or b.form
  amount := a.amount.or b.amount
  recurring := a.recurring.or b.recurring

/-- A component with states of type `σ` and messages of type `μ`. -/
structure Component (σ μ : Type) where
  view : σ → Html μ
  /-- What a message does. -/
  update : σ → μ → σ × List Effect
  /-- What a report of the browser does. -/
  receive : σ → Signal → σ × List Effect
  /-- What can be seen of a state. -/
  observe : σ → Observation

/-- Something that happens to a component. -/
inductive Step where
  /-- An event reaches the listener to its kind with a number; the text is what the element of the
  event holds. -/
  | fire (kind : Html.EventKind) (number : Nat) (value : String)
  /-- The browser reports something. -/
  | signal (signal : Signal)

/-- How an event was taken. -/
inductive Fired where
  /-- There is no listener with that number. -/
  | unheard
  /-- A listener took it, and may have kept the browser from reacting. -/
  | heard (prevented : Bool)
  deriving DecidableEq, Repr

/-- What a step brought about. -/
structure Taken (σ : Type) where
  state : σ
  effects : List Effect := []
  /-- For an event, how it was taken. -/
  fired : Option Fired := none

namespace Component

variable {σ μ : Type} (component : Component σ μ)

/-- Takes the meaning of an event, if it has one. -/
def updateIfAny (state : σ) : Option μ → σ × List Effect
  | none => (state, [])
  | some message => component.update state message

/-- Takes a step. An event goes to a listener of what the component shows now. -/
def step (state : σ) : Step → Taken σ
  | .fire kind number value =>
    match ((component.view state).listeners kind)[number]? with
    | none => { state := state, fired := some .unheard }
    | some listener =>
      let (state, effects) := component.updateIfAny state (listener.message value)
      { state := state, effects := effects, fired := some (.heard listener.prevents) }
  | .signal signal =>
    let (state, effects) := component.receive state signal
    { state := state, effects := effects }

/-- Takes steps in order; gives the outcome of each. -/
def run (state : σ) : List Step → List (Taken σ)
  | [] => []
  | next :: steps =>
    let taken := component.step state next
    taken :: run taken.state steps

/-- The HTML of a state as text. -/
def html (state : σ) : String :=
  (component.view state).print

end Component

end DonationSite.Ui
