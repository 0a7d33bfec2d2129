import DonationSite.Proofs.Csrf
import DonationSite.Proofs.Page.BillingView
import DonationSite.Proofs.Page.OneSlot
import DonationSite.Proofs.Ui.Runs
import DonationSite.Proofs.Vat.FormBody

/-!
# One token for a billing page

Each time a billing page renders it asks a hook for its token, in a browser whose document and
cookies may have changed by then. The hook keeps what the first search found, so the token that the
form shows and the one that requests carry never differ.

## Key results

- `Mounted.Holds.take`: nothing that happens changes the token, and every request sent carries it
- `Mounted.page_run_mount`: the page never sees what becomes of the browser
- `one_token`: in every run the form shows the token of the page and every request carries it
-/

namespace DonationSite.Ui

/-- What a hook keeps from one render to the next: a value, and the dependencies that it was
computed for. -/
structure Memo (δ α : Type) where
  kept : Option (δ × α) := none

/-- The value for some dependencies: the one that was kept for the same ones or else the one that is
computed now, which is kept from then on. -/
def Memo.recall {δ α : Type} [DecidableEq δ] (memo : Memo δ α) (dependencies : δ) (now : α) :
    Memo δ α × α :=
  match memo.kept with
  | some (before, value) =>
    if before = dependencies then (memo, value) else (⟨some (dependencies, now)⟩, now)
  | none => (⟨some (dependencies, now)⟩, now)

end DonationSite.Ui

namespace DonationSite.Page.Billing

open Ui

/-! ### The page in a browser that changes -/

/-- A billing page and the browser around it, which goes on changing. -/
structure Mounted where
  browser : Browser
  tokenHook : Memo Unit String := {}
  page : Billing

namespace Mounted

/-- What happens to a page or around it. -/
inductive Event where
  /-- The document or its cookies change. -/
  | browser (now : Browser)
  /-- The page renders again, for whatever reason. -/
  | render
  | step (next : Step)

/-- Renders the page. Its token is what the hook has for no dependencies at all. -/
def render (m : Mounted) : Mounted :=
  let (hook, token) := m.tokenHook.recall () (Csrf.pageToken m.browser)
  { m with tokenHook := hook, page := { m.page with token := token } }

/-- The page at first, when it has rendered once. -/
def mount (browser : Browser) : Mounted :=
  render { browser := browser, page := { token := "" } }

/-- Takes an event; gives the requests that it sends. -/
def take (m : Mounted) : Event → Mounted × List Http.Request
  | .browser now => ({ m with browser := now }, [])
  | .render => (m.render, [])
  | .step next =>
    let taken := component.step m.page next
    ({ m with page := taken.state }, taken.effects.filterMap Effect.request?)

/-- Takes events in order; gives all requests that they send. -/
def run (m : Mounted) : List Event → Mounted × List Http.Request
  | [] => (m, [])
  | event :: events =>
    let (next, sent) := m.take event
    let (last, others) := next.run events
    (last, sent ++ others)

end Mounted

/-- A server that reads the body of a request finds the token in it. -/
def CarriesToken (token : String) (request : Http.Request) : Prop :=
  ∃ vat, ∀ plusIsSpace, Vat.formFields? plusIsSpace request.body =
    some [("vat", vat), ("csrfmiddlewaretoken", token)]

/-! ### One step -/

section Steps

variable {b : Billing} {request : Http.Request}

/-- A request for a lookup carries its token. -/
theorem carriesToken_toHttp (request : Vat.Request) :
    CarriesToken request.token (request.toHttp Settings.backendUrl) :=
  ⟨request.vat, fun plusIsSpace => request.formFields?_toForm plusIsSpace⟩

/-- The request for two inputs carries the token that it is made with. -/
theorem token_ofInputs? {countryCode vatNumber token : String} {request : Vat.Request}
    (h : Vat.Request.ofInputs? countryCode vatNumber token = some request) :
    request.token = token := by
  simp only [Vat.Request.ofInputs?, Option.ite_none_left_eq_some, Option.some.injEq] at h
  rw [← h.2]

/-- An event of the lookups sends what it asks for. -/
theorem requests_lookUp (b : Billing) (event : Vat.LookupEvent) :
    (b.lookUp event).2.filterMap Effect.request? =
      event.request?.toList.map (·.toHttp Settings.backendUrl) := by
  rw [lookUp, requests_effectsOf, Vat.Autofill.sent_step]

/-- Leaving an input sends a request with the token of the page, if any. -/
theorem carriesToken_update {message : Message}
    (h : request ∈ (b.update message).2.filterMap Effect.request?) :
    CarriesToken b.token request := by
  cases message with
  | edit field value => cases h
  | leave =>
    rw [update] at h
    split at h
    -- Both inputs are there, so a call begins, which may send one request.
    · next code number hcode hnumber =>
      rw [requests_lookUp, List.mem_map] at h
      obtain ⟨sent, hsent, rfl⟩ := h
      have hrequest : Vat.Request.ofInputs? code number b.token = some sent :=
        Option.mem_toList.1 hsent
      rw [← token_ofInputs? hrequest]
      exact carriesToken_toHttp sent
    · cases h

/-- A report of the browser sends nothing. -/
theorem requests_receive (b : Billing) (signal : Signal) :
    (b.receive signal).2.filterMap Effect.request? = [] := by
  cases signal with
  | reply number reply => exact requests_lookUp b (.answer number (Vat.answerOfReply reply))
  | copied | due | inputs => rfl

/-- Whatever a step sends carries the token of the page. -/
theorem carriesToken_step {next : Step}
    (h : request ∈ (b.taken next).2.filterMap Effect.request?) : CarriesToken b.token request := by
  cases next with
  -- What an event means to the page decides what it sends, and most mean nothing.
  | fire kind number value =>
    rw [taken_fire] at h
    split at h
    · exact carriesToken_update h
    · cases h
  | signal signal =>
    rw [taken_signal, requests_receive] at h
    cases h

/-- A lookup does not touch the token. -/
theorem token_lookUp (b : Billing) (event : Vat.LookupEvent) :
    (b.lookUp event).1.token = b.token := by
  rw [lookUp]

/-- What an event means does not touch the token. -/
theorem token_update (b : Billing) (message : Message) :
    (b.update message).1.token = b.token := by
  cases message with
  | edit field value => rfl
  | leave =>
    rw [update]
    split
    · exact token_lookUp b _
    · rfl

/-- A step does not touch the token. -/
theorem token_step (b : Billing) (next : Step) : (b.taken next).1.token = b.token := by
  cases next with
  | fire kind number value =>
    rw [taken_fire]
    split
    · exact token_update b _
    · rfl
  | signal signal =>
    cases signal with
    | reply number reply => exact token_lookUp b (.answer number (Vat.answerOfReply reply))
    | copied | due | inputs => rfl

end Steps

/-! ### Runs -/

namespace Mounted

variable {m : Mounted} {token : String} {request : Http.Request}

/-- The page has a token, which its hook keeps. -/
structure Holds (m : Mounted) (token : String) : Prop where
  kept : m.tokenHook.kept = some ((), token)
  page : m.page.token = token

/-- The first render looks for the token. -/
theorem holds_mount (browser : Browser) : (mount browser).Holds (Csrf.pageToken browser) :=
  ⟨rfl, rfl⟩

/-- Any other render uses the token that was kept, and so changes nothing. -/
theorem Holds.render_eq (h : m.Holds token) : m.render = m := by
  have hrecall (now : String) : m.tokenHook.recall () now = (m.tokenHook, token) := by
    simp [Memo.recall, h.kept]
  rw [render, hrecall, ← h.page]

/-- Nothing that happens changes the token, and every request sent carries it. -/
theorem Holds.take (h : m.Holds token) (event : Event) :
    (m.take event).1.Holds token ∧ ∀ request ∈ (m.take event).2, CarriesToken token request := by
  cases event with
  -- The hook is not asked again when only the browser changes.
  | browser now => exact ⟨⟨h.kept, h.page⟩, fun _ hmem => absurd hmem List.not_mem_nil⟩
  | render =>
    rw [Mounted.take, h.render_eq]
    exact ⟨h, fun _ hmem => absurd hmem List.not_mem_nil⟩
  -- The page takes the step, and its token is the one that was kept.
  | step next =>
    refine ⟨⟨h.kept, (token_step m.page next).trans h.page⟩, fun request hmem => ?_⟩
    rw [← h.page]
    exact carriesToken_step hmem

/-- A whole run keeps the token, and every request it sends carries it. -/
theorem Holds.run (h : m.Holds token) (events : List Event) :
    (m.run events).1.Holds token ∧ ∀ request ∈ (m.run events).2, CarriesToken token request := by
  induction events generalizing m with
  | nil => exact ⟨h, fun _ hmem => absurd hmem List.not_mem_nil⟩
  | cons event events ih =>
    obtain ⟨hnext, hsent⟩ := h.take event
    obtain ⟨hlast, hothers⟩ := ih hnext
    -- A request of the run is one of its first event or one of the others.
    refine ⟨hlast, fun request hmem => ?_⟩
    rcases List.mem_append.1 hmem with hmem | hmem
    · exact hsent request hmem
    · exact hothers request hmem

/-- What happens to the page itself, if anything does. -/
def Event.step? : Event → Option Step
  | .step next => some next
  | _ => none

/-- The page after a run is the component after the steps among the events. -/
theorem Holds.page_run (h : m.Holds token) (events : List Event) :
    (m.run events).1.page = component.after m.page (events.filterMap Event.step?) := by
  induction events generalizing m with
  | nil => rfl
  | cons event events ih =>
    show ((m.take event).1.run events).1.page = _
    rw [ih (h.take event).1]
    cases event with
    | browser now => rfl
    -- Only here the hook matters: it gives the token that the page has anyway.
    | render =>
      rw [Mounted.take, h.render_eq]
      rfl
    | step next => rfl

/-- The page is the component, whatever becomes of the browser after the first render. -/
theorem page_run_mount (browser : Browser) (events : List Event) :
    ((mount browser).run events).1.page =
      component.after (start browser) (events.filterMap Event.step?) :=
  (holds_mount browser).page_run events

end Mounted

/-- A billing page has one token: that of the page when it first rendered. Whatever happens, and
however the document and the cookies change, its form shows this token in its one hidden input, and
every request carries it. -/
theorem one_token (browser : Browser) :
    ∃ token, (∀ other, Csrf.IsPageToken browser other ↔ other = token) ∧
      ∀ events : List Mounted.Event,
        ((((Mounted.mount browser).run events).1.page.view.hidden "csrfmiddlewaretoken").map
          (·.attributes.value) = [some token]) ∧
        ∀ request ∈ ((Mounted.mount browser).run events).2, CarriesToken token request := by
  refine ⟨Csrf.pageToken browser, fun _ => Csrf.isPageToken_iff, fun events => ?_⟩
  obtain ⟨hlast, hrequests⟩ := (Mounted.holds_mount browser).run events
  refine ⟨?_, hrequests⟩
  -- The hidden input shows the token of the page, which is the one that was kept.
  rw [hidden_view, hlast.page]

/-- The token of the page is replaced after the first render, and the next request carries the
first one. -/
example : ((Mounted.mount { tokenInput := .input "first" }).run [
    .browser { tokenInput := .input "second" },
    .render,
    .step (.signal (.inputs (some "cz") (some "1"))),
    .step (.fire .focusOut 0 "")]).2.map (·.body) = ["vat=CZ1&csrfmiddlewaretoken=first"] := by
  decide +kernel

end DonationSite.Page.Billing
