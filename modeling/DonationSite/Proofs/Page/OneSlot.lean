import DonationSite.Page.Billing
import DonationSite.Proofs.Vat.Current
import DonationSite.Proofs.Vat.Request
import DonationSite.Proofs.Vat.Superseding

/-!
# The billing page as a form with one slot

The billing page keeps every lookup that waits for its answer. Seen from outside it is a simpler
machine, which consists of the form and one slot for a request: leaving an input puts the request
for the two texts into the slot, or empties it if there is none, and only the answer to the request
in the slot can fill in the form.

The simulation relates the slot to the one waiting call, if there is any, that no call has
superseded (`Autofill.IsCurrent`).

## Key results

- `Simulates.step`: one step of the page is one step of the machine
- `billing_refines_oneSlot`: after every step of every run, form and requests are the same
-/

namespace DonationSite.Page.Billing

open DonationSite.Billing Ui

/-! ### The machine with one slot -/

/-- A form, and the number of the request whose answer may fill it in. -/
structure OneSlot where
  form : Form := {}
  slot : Option Nat := none

/-- What happens to the machine. -/
inductive OneSlot.Event where
  /-- The visitor puts a text into a field. -/
  | edit (field : Field) (value : String)
  /-- The visitor leaves a VAT input; the texts are those of the two inputs and the token. -/
  | leave (countryCode vatNumber token : String)
  /-- The reply to the request with a number arrives. -/
  | reply (number : Nat) (reply : Http.Reply)

/-- The answer in a reply of success that can be read and decoded, if the answer is a valid one. -/
def validAnswer? : Http.Reply → Option Vat.Answer
  | .unsent _ => none
  | .received _ (.error _) => none
  | .received status (.ok body) =>
    if 200 ≤ status ∧ status ≤ 299 then
      match Vat.Answer.decode body with
      | .ok answer => if answer.valid then some answer else none
      | .error _ => none
    else none

/-- The form after the answer in a reply is filled in, if it holds a valid one. -/
def fillFrom (form : Form) (reply : Http.Reply) : Form :=
  match (validAnswer? reply).bind Vat.Patch.ofAnswer? with
  | some patch => form.apply (.autofill patch)
  | none => form

namespace OneSlot

/-- Takes an event when a number of requests were sent; gives the request that it sends. -/
def step (o : OneSlot) (sent : Nat) : Event → OneSlot × Option Vat.Request
  | .edit field value => ({ o with form := o.form.apply (.edit field value) }, none)
  | .leave countryCode vatNumber token =>
    if Text.isBlankText countryCode || Text.isBlankText vatNumber then
      ({ o with slot := none }, none)
    else
      ({ o with slot := some sent },
        some ⟨Text.upper (Text.trim countryCode) ++ Text.trim vatNumber, token⟩)
  | .reply number reply =>
    if o.slot = some number then ({ form := fillFrom o.form reply, slot := none }, none)
    else (o, none)

/-- The field that an event of a kind edits, by the number of the listening control. -/
def editedField? : Html.EventKind → Nat → Option Field
  | .change, 0 => some .countryCode
  | .change, 1 => some .vatNumber
  | .change, 2 => some .country
  | .input, 0 => some .name
  | .input, 1 => some .address
  | .input, 2 => some .postcode
  | .input, 3 => some .city
  | _, _ => none

/-- The texts that the two VAT inputs hold; none for an input that is not there. -/
abbrev Inputs := Option String × Option String

/-- What a step of the page means to the machine. Leaving an input means nothing unless both inputs
are there. -/
def Event.ofStep? (token : String) (inputs : Inputs) : Step → Option Event
  | .fire .focusOut number _ =>
    match inputs with
    | (some countryCode, some vatNumber) =>
      if number < 2 then some (.leave countryCode vatNumber token) else none
    | _ => none
  | .fire kind number value => (editedField? kind number).map (.edit · value)
  | .signal (.reply number answer) => some (Event.reply number answer)
  | .signal _ => none

/-- The texts in the two VAT inputs after a step. -/
def inputsAfter (inputs : Inputs) : Step → Inputs
  | .signal (.inputs countryCode vatNumber) => (countryCode, vatNumber)
  | _ => inputs

/-- Takes what a step of the page means. -/
def take (o : OneSlot) (token : String) (inputs : Inputs) (sent : Nat) (s : Step) :
    OneSlot × Option Vat.Request :=
  match Event.ofStep? token inputs s with
  | some event => o.step sent event
  | none => (o, none)

/-- The form and the request sent, after each of the steps of a page. -/
def trace (token : String) (o : OneSlot) (inputs : Inputs) (sent : Nat) :
    List Step → List (Form × Option Vat.Request)
  | [] => []
  | s :: steps =>
    let (next, request) := o.take token inputs sent s
    (next.form, request) ::
      trace token next (inputsAfter inputs s) (sent + request.toList.length) steps

end OneSlot

/-! ### Steps of the page -/

/-- What an event of the visitor means to the page. -/
def meaning? (kind : Html.EventKind) (number : Nat) (value : String) : Option Message :=
  match kind with
  | .focusOut => if number < 2 then some .leave else none
  | kind => (OneSlot.editedField? kind number).map (.edit · value)

/-- The controls that report changes are the two VAT inputs and the dropdown. -/
theorem listeners_change (b : Billing) :
    b.view.listeners .change =
      [editing .change .countryCode, editing .change .vatNumber, editing .change .country] := rfl

/-- The controls that report what is typed are those of the address. -/
theorem listeners_input (b : Billing) :
    b.view.listeners .input =
      [editing .input .name, editing .input .address, editing .input .postcode,
        editing .input .city] := rfl

/-- The two VAT inputs report that they are left. -/
theorem listeners_focusOut (b : Billing) : b.view.listeners .focusOut = [leaving, leaving] := rfl

/-- Nothing on the page listens to clicks. -/
theorem listeners_click (b : Billing) : b.view.listeners .click = [] := rfl

/-- The listeners of the page say what its events mean. -/
theorem listeners_meaning (b : Billing) (kind : Html.EventKind) (number : Nat) (value : String) :
    ((b.view.listeners kind)[number]?.bind fun listener => listener.message value) =
      meaning? kind number value := by
  cases kind with
  | click => rw [listeners_click]; rfl
  | change =>
    rw [listeners_change]
    match number with
    | 0 | 1 | 2 | _ + 3 => rfl
  | input =>
    rw [listeners_input]
    match number with
    | 0 | 1 | 2 | 3 | _ + 4 => rfl
  | focusOut =>
    rw [listeners_focusOut]
    match number with
    | 0 | 1 => rfl
    | _ + 2 => simp [meaning?]

/-- The page and its effects after a step. -/
def taken (b : Billing) (s : Step) : Billing × List Effect :=
  ((component.step b s).state, (component.step b s).effects)

/-- An event of the visitor does what it means, and nothing if it means nothing. -/
theorem taken_fire (b : Billing) (kind : Html.EventKind) (number : Nat) (value : String) :
    b.taken (.fire kind number value) =
      match meaning? kind number value with
      | some message => b.update message
      | none => (b, []) := by
  rw [← listeners_meaning b]
  cases hget : (b.view.listeners kind)[number]? with
  | none => simp [taken, Component.step, component, hget]
  | some listener =>
    cases hmessage : listener.message value <;>
      simp [taken, Component.step, Component.updateIfAny, component, hget, hmessage]

/-- A report of the browser is received by the page. -/
theorem taken_signal (b : Billing) (signal : Signal) :
    b.taken (.signal signal) = b.receive signal := rfl

/-- The effects of lookups hold the requests they send, and log lines besides. -/
theorem requests_effectsOf (outcome : Vat.Outcome) :
    (effectsOf outcome).filterMap Effect.request? =
      outcome.sent.map (·.toHttp Settings.backendUrl) := by
  rw [effectsOf, List.filterMap_append, List.filterMap_map, List.filterMap_map]
  have hsent : (Effect.request? ∘ fun request : Vat.Request =>
      Effect.send (request.toHttp Settings.backendUrl)) =
        fun request => some (request.toHttp Settings.backendUrl) := rfl
  have hlog : (Effect.request? ∘ Effect.log) = fun _ => none := rfl
  rw [hsent, hlog, List.filterMap_eq_map']
  simp

/-- What the answer in a reply fills in. -/
theorem conclude_answerOfReply (request : Vat.Request) (reply : Http.Reply) :
    (Vat.conclude request (Vat.answerOfReply reply)).1 =
      (validAnswer? reply).bind Vat.Patch.ofAnswer? := by
  cases reply with
  | unsent reason => rfl
  | received status body =>
    cases body with
    | error reason =>
      rw [Vat.answerOfReply]
      split <;> rfl
    | ok body =>
      -- The body matters only if the status reports success.
      by_cases hsuccess : 200 ≤ status ∧ status ≤ 299
      · have hstatus : Http.isSuccess status = true := by simpa [Http.isSuccess] using hsuccess
        simp only [Vat.answerOfReply, hstatus, if_pos, Vat.answerOfBody, validAnswer?, hsuccess,
          and_self]
        cases Vat.Answer.decode body with
        | error e => rfl
        | ok answer =>
          show (Vat.conclude request (.ok answer)).1 = _
          rw [Vat.conclude_ok]
          cases hvalid : answer.valid with
          | false => simp [Vat.Patch.ofAnswer?, hvalid]
          | true => simp [hvalid]
      · have hstatus : Http.isSuccess status = false := by
          rw [Bool.eq_false_iff]
          simpa [Http.isSuccess] using hsuccess
        simp [Vat.answerOfReply, hstatus, validAnswer?, hsuccess, Vat.conclude_error]

/-! ### The simulation -/

/-- The machine with one slot stands for the page: it has the same form, and its slot holds the
request that is not superseded. -/
structure Simulates (b : Billing) (o : OneSlot) (token : String) (inputs : OneSlot.Inputs)
    (sent : Nat) : Prop where
  token : b.token = token
  inputs : (b.codeInput, b.numberInput) = inputs
  form : b.form = o.form
  sent : b.lookups.sent = sent
  slot : ∀ number, o.slot = some number ↔ b.lookups.IsCurrent number
  history : ∃ history, Vat.Tracks history b.lookups

/-- The page and the machine agree after a step: the machine stands for the page again, and both
sent the same request or none. -/
def Agree (after : Billing × List Effect) (next : OneSlot × Option Vat.Request) (token : String)
    (inputs : OneSlot.Inputs) (sent : Nat) : Prop :=
  Simulates after.1 next.1 token inputs (sent + next.2.toList.length) ∧
    after.2.filterMap Effect.request? = next.2.toList.map (·.toHttp Settings.backendUrl)

namespace Simulates

variable {b : Billing} {o : OneSlot} {token : String} {inputs : OneSlot.Inputs} {sent : Nat}

/-- The machine stands for the page as long as neither does anything. -/
theorem idle (h : Simulates b o token inputs sent) :
    Agree (b, []) (o, none) token inputs sent := ⟨h, rfl⟩

/-- An edit writes the same text into the form of both. -/
theorem edit (h : Simulates b o token inputs sent) (field : Field) (value : String) :
    Agree (b.update (.edit field value)) (o.step sent (.edit field value)) token inputs sent := by
  refine ⟨{ h with form := ?_ }, rfl⟩
  show b.form.apply (.edit field value) = o.form.apply (.edit field value)
  rw [h.form]

/-- Leaving an input sends the same request on both sides, or none, and the slot holds it from then
on. -/
theorem leave (h : Simulates b o token inputs sent) (countryCode vatNumber : String) :
    Agree (b.lookUp (.focusOut countryCode vatNumber token))
      (o.step sent (.leave countryCode vatNumber token)) token inputs sent := by
  obtain ⟨history, t⟩ := h.history
  have tracks := Vat.Autofill.tracks_focusOut t countryCode vatNumber token
  rw [Agree, lookUp, OneSlot.step, Vat.Autofill.step, requests_effectsOf]
  by_cases hblank : (Text.isBlankText countryCode || Text.isBlankText vatNumber) = true
  · -- The call ends at once with none, which leaves the form alone.
    have hrequest := Vat.Request.ofInputs?_of_blank hblank token
    have hcurrent := t.isCurrent_focusOut_of_none hrequest
    rw [Vat.Autofill.focusOut_of_none hrequest] at tracks hcurrent ⊢
    rw [if_pos hblank]
    refine ⟨⟨h.token, h.inputs, h.form, h.sent, ?_, _, tracks⟩, rfl⟩
    intro number
    exact ⟨fun hslot => (by cases hslot), fun hnumber => absurd hnumber (hcurrent number)⟩
  · have hrequest := Vat.Request.ofInputs?_of_not_blank (Bool.eq_false_iff.2 hblank) token
    have hcurrent := t.isCurrent_focusOut_of_some hrequest
    -- The new request is the current one, and the next number is its number plus one.
    rw [Vat.Autofill.focusOut_of_some hrequest] at tracks hcurrent ⊢
    rw [if_neg hblank]
    refine ⟨⟨h.token, h.inputs, h.form, ?_, ?_, _, tracks⟩, rfl⟩
    · show b.lookups.sent + 1 = sent + 1
      rw [h.sent]
    · intro number
      rw [hcurrent number, h.sent]
      exact ⟨fun hslot => (Option.some.inj hslot).symm, fun hnumber => by rw [hnumber]⟩

/-- What a reply does to the form: if its request is current, its answer is filled in. -/
theorem fillAll_answer (h : Simulates b o token inputs sent) (number : Nat) (reply : Http.Reply) :
    fillAll b.form (b.lookups.answer number (Vat.answerOfReply reply)).2.finished =
      if o.slot = some number then fillFrom o.form reply else o.form := by
  obtain ⟨history, t⟩ := h.history
  rw [← h.form]
  cases hfind : b.lookups.waiting.find? (·.number == number) with
  | none =>
    -- Nobody waits for the request, so it is not the one in the slot.
    have hslot : o.slot ≠ some number := by
      intro hslot
      obtain ⟨waiting, hmem, hnumber, -⟩ := (h.slot number).1 hslot
      rw [t.find?_waiting.2 ⟨hmem, hnumber⟩] at hfind
      cases hfind
    rw [Vat.Autofill.answer_of_none hfind, if_neg hslot]
    rfl
  | some waiting =>
    -- The call that waits is the one for the slot exactly if it is the latest.
    obtain ⟨hmem, hnumber⟩ := t.find?_waiting.1 hfind
    have hslot : o.slot = some number ↔ b.lookups.isLatest waiting.call = true := by
      rw [h.slot number]
      constructor
      · intro hexists
        -- No two calls wait for the same request, so the one in the slot is this one.
        obtain ⟨other, hother, hotherNumber, hlatest⟩ := hexists
        rwa [t.eq_of_number hother hmem (hotherNumber.trans hnumber.symm)] at hlatest
      · intro hlatest
        exact ⟨waiting, hmem, hnumber, hlatest⟩
    rw [Vat.Autofill.answer_of_some hfind]
    by_cases hlatest : b.lookups.isLatest waiting.call = true
    -- Only the latest call gives its answer on to the form.
    · rw [if_pos hlatest, if_pos (hslot.2 hlatest), conclude_answerOfReply, fillFrom]
      cases (validAnswer? reply).bind Vat.Patch.ofAnswer? <;> rfl
    · rw [if_neg hlatest, if_neg (fun heq => hlatest (hslot.1 heq))]
      rfl

/-- A reply fills in the same form on both sides, and empties the slot if it holds its request. -/
theorem reply (h : Simulates b o token inputs sent) (number : Nat) (reply : Http.Reply) :
    Agree (b.lookUp (.answer number (Vat.answerOfReply reply))) (o.step sent (.reply number reply))
      token inputs sent := by
  obtain ⟨history, t⟩ := h.history
  have tracks := Vat.Autofill.tracks_answer t number (Vat.answerOfReply reply)
  have hcurrent := t.isCurrent_answer number (Vat.answerOfReply reply)
  have hform := h.fillAll_answer number reply
  have hsent : (b.lookups.answer number (Vat.answerOfReply reply)).1.sent = sent := by
    rw [Vat.Autofill.answer_state, ← h.sent]
  rw [Agree, lookUp, OneSlot.step, requests_effectsOf, Vat.Autofill.sent_step, Vat.Autofill.step]
  by_cases hslot : o.slot = some number
  · -- The answer to the request in the slot leaves no current one.
    rw [if_pos hslot] at hform ⊢
    refine ⟨⟨h.token, h.inputs, hform, hsent, ?_, _, tracks⟩, rfl⟩
    intro other
    rw [hcurrent other]
    exact ⟨fun heq => (by cases heq), fun hnot => absurd ((h.slot number).1 hslot) hnot.2⟩
  · -- Any other answer leaves the current one alone.
    rw [if_neg hslot] at hform ⊢
    refine ⟨⟨h.token, h.inputs, hform, hsent, ?_, _, tracks⟩, rfl⟩
    intro other
    rw [hcurrent other, h.slot other]
    exact ⟨fun hother => ⟨hother, fun hnumber => hslot ((h.slot number).2 hnumber)⟩, And.left⟩

/-- An event of the visitor that edits a field. -/
theorem fire_edit (h : Simulates b o token inputs sent) {kind : Html.EventKind} {number : Nat}
    {value : String}
    (hmeaning : meaning? kind number value =
      (OneSlot.editedField? kind number).map (.edit · value))
    (hevent : OneSlot.Event.ofStep? token inputs (.fire kind number value) =
      (OneSlot.editedField? kind number).map (.edit · value)) :
    Agree (b.taken (.fire kind number value)) (o.take token inputs sent (.fire kind number value))
      token inputs sent := by
  rw [taken_fire, OneSlot.take, hmeaning, hevent]
  cases OneSlot.editedField? kind number with
  | none => exact h.idle
  | some field => exact h.edit field value

/-- The visitor leaves an input. -/
theorem fire_leave (h : Simulates b o token inputs sent) (number : Nat) (value : String) :
    Agree (b.taken (.fire .focusOut number value))
      (o.take token inputs sent (.fire .focusOut number value)) token inputs sent := by
  obtain ⟨code, vat⟩ := inputs
  obtain ⟨hcode, hvat⟩ := Prod.mk.inj h.inputs
  rw [taken_fire, OneSlot.take, meaning?]
  by_cases hnumber : number < 2
  · simp only [if_pos hnumber]
    rw [update, hcode, hvat, h.token]
    -- Both sides do something only if both inputs are there.
    cases code with
    | none => exact h.idle
    | some countryCode =>
      cases vat with
      | none => exact h.idle
      | some vatNumber =>
        simp only [OneSlot.Event.ofStep?, if_pos hnumber]
        exact h.leave countryCode vatNumber
  · -- No other control listens to the event.
    have hevent :
        OneSlot.Event.ofStep? token (code, vat) (.fire .focusOut number value) = none := by
      cases code <;> cases vat <;> simp [OneSlot.Event.ofStep?, hnumber]
    simp only [if_neg hnumber, hevent]
    exact h.idle

/-- One step of the page is one step of the machine. -/
theorem step (h : Simulates b o token inputs sent) (s : Step) :
    Agree (b.taken s) (o.take token inputs sent s) token (OneSlot.inputsAfter inputs s) sent := by
  cases s with
  | fire kind number value =>
    -- All events but one mean an edit on either side, or nothing.
    cases kind with
    | click => exact h.fire_edit rfl rfl
    | change => exact h.fire_edit rfl rfl
    | input => exact h.fire_edit rfl rfl
    | focusOut => exact h.fire_leave number value
  | signal signal =>
    rw [taken_signal]
    cases signal with
    | reply number reply => exact h.reply number reply
    -- The page copies nothing and starts no timers, so these reports mean nothing to it.
    | copied number failure => exact h.idle
    | due number => exact h.idle
    | inputs countryCode vatNumber => exact ⟨{ h with inputs := rfl }, rfl⟩

end Simulates

/-- The machine stands for the page at the start: the slot is empty and nobody waits. -/
theorem simulates_start (browser : Browser) :
    Simulates (start browser) {} (Csrf.pageToken browser) (none, none) 0 where
  token := rfl
  inputs := rfl
  form := rfl
  sent := rfl
  slot := by
    intro number
    exact ⟨fun h => (by cases h), fun ⟨_, hmem, _⟩ => absurd hmem List.not_mem_nil⟩
  history := ⟨[], Vat.Autofill.tracks_nil⟩

/-! ### Runs of the page -/

/-- What is seen of a step of the page: the form after it and the requests it sent. -/
def seen (taken : Taken Billing) : Form × List Http.Request :=
  (taken.state.form, taken.effects.filterMap Effect.request?)

/-- A step of the machine as it is seen: its request goes to the backend. -/
def OneSlot.seen (step : Form × Option Vat.Request) : Form × List Http.Request :=
  (step.1, step.2.toList.map (·.toHttp Settings.backendUrl))

/-- After every step of a run the two show the same form and sent the same request. -/
theorem Simulates.run {b : Billing} {o : OneSlot} {token : String} {inputs : OneSlot.Inputs}
    {sent : Nat} (h : Simulates b o token inputs sent) (steps : List Step) :
    (component.run b steps).map seen = (o.trace token inputs sent steps).map OneSlot.seen := by
  -- By induction on the steps, from any page that the machine stands for.
  induction steps generalizing b o inputs sent with
  | nil => rfl
  | cons s steps ih =>
    obtain ⟨hnext, hrequests⟩ := h.step s
    rw [Component.run, OneSlot.trace, List.map_cons, List.map_cons]
    refine List.cons_eq_cons.2 ⟨?_, ih hnext⟩
    exact Prod.ext hnext.form hrequests

/-- The billing page refines the machine with one slot: after every step of every run, its form and
the requests it sent are those of the machine. -/
theorem billing_refines_oneSlot (browser : Browser) (steps : List Step) :
    (component.run (start browser) steps).map seen =
      (OneSlot.trace (Csrf.pageToken browser) {} (none, none) 0 steps).map OneSlot.seen :=
  (simulates_start browser).run steps

end DonationSite.Page.Billing
