import DonationSite.Log
import DonationSite.Vat.Lookup
import DonationSite.Vat.Patch

/-!
# Automatic lookups

Each time the visitor leaves one of the two VAT inputs, a call begins. It sends a request unless an
input is blank, and ends when the answer arrives, or at once if it sent nothing. A later call
supersedes all earlier ones, also one that sends nothing: the answer to a superseded call has no
effect but a line in the log.

The machine `Autofill` numbers calls and requests from zero in the order of their beginning, and
keeps the calls that wait for an answer.
-/

namespace DonationSite.Vat

/-- A call that waits for its answer. -/
structure Waiting where
  /-- The number of the call. -/
  call : Nat
  /-- The number of its request. -/
  number : Nat
  /-- What it asked. -/
  request : Request
  deriving DecidableEq, Repr

/-- A call that has ended, and what it fills in. -/
structure Finished where
  call : Nat
  patch : Option Patch
  deriving DecidableEq, Repr

/-- What one event brings about. -/
structure Outcome where
  sent : List Request := []
  finished : List Finished := []
  log : List Log.Line := []
  deriving DecidableEq, Repr

/-- The calls so far. -/
structure Autofill where
  /-- How many calls have begun. -/
  calls : Nat := 0
  /-- How many requests were sent. -/
  sent : Nat := 0
  /-- The calls that wait for an answer. -/
  waiting : List Waiting := []
  deriving DecidableEq, Repr

/-- What can happen to the calls. -/
inductive LookupEvent where
  /-- The visitor leaves an input; the texts are those of the two inputs and the token. -/
  | focusOut (countryCode vatNumber token : String)
  /-- The answer to the request with a number arrives. -/
  | answer (number : Nat) (result : Except LookupError Answer)

/-- What the answer to a call that was not superseded fills in, and its line in the log. -/
def conclude (request : Request) : Except LookupError Answer → Option Patch × Log.Line
  | .ok answer =>
    match Patch.ofAnswer? answer with
    | some patch =>
      (some patch, ⟨.debug, "VAT " ++ request.vat ++ " confirmed as " ++
        answer.countryCode.getD "" ++ answer.vatNumber.getD ""⟩)
    | none =>
      (none, ⟨.info, "VAT " ++ request.vat ++ " is not valid (fault: " ++
        answer.faultCode.getD "-" ++ " " ++ answer.faultMessage.getD "-" ++ ")"⟩)
  | .error error =>
    (none, ⟨.error, "VAT lookup for " ++ request.vat ++ " failed: " ++ error.message⟩)

/-- The line in the log for the answer to a call that was superseded. -/
def droppedLine (request : Request) : Log.Line :=
  ⟨.debug, "Dropping stale VAT lookup for " ++ request.vat⟩

namespace Autofill

/-- Begins a call. -/
def focusOut (a : Autofill) (countryCode vatNumber token : String) : Autofill × Outcome :=
  match Request.ofInputs? countryCode vatNumber token with
  | none => ({ a with calls := a.calls + 1 }, { finished := [⟨a.calls, none⟩] })
  | some request =>
    ({ calls := a.calls + 1
       sent := a.sent + 1
       waiting := a.waiting ++ [⟨a.calls, a.sent, request⟩] },
     { sent := [request] })

/-- Whether no call began after the given one. -/
def isLatest (a : Autofill) (call : Nat) : Bool :=
  call + 1 == a.calls

/-- Ends the call whose request has a number. Nothing happens if none waits for it. -/
def answer (a : Autofill) (number : Nat) (result : Except LookupError Answer) :
    Autofill × Outcome :=
  match a.waiting.find? (·.number == number) with
  | none => (a, {})
  | some call =>
    let (patch, line) :=
      if a.isLatest call.call then conclude call.request result
      else (none, droppedLine call.request)
    ({ a with waiting := a.waiting.filter (·.number != number) },
     { finished := [⟨call.call, patch⟩], log := [line] })

/-- Takes one event. -/
def step (a : Autofill) : LookupEvent → Autofill × Outcome
  | .focusOut countryCode vatNumber token => a.focusOut countryCode vatNumber token
  | .answer number result => a.answer number result

/-- Takes events in order; gives the outcome of each. -/
def run (a : Autofill) : List LookupEvent → Autofill × List Outcome
  | [] => (a, [])
  | event :: events =>
    let (next, outcome) := a.step event
    let (last, outcomes) := next.run events
    (last, outcome :: outcomes)

end Autofill

end DonationSite.Vat
