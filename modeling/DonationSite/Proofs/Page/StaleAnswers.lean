import DonationSite.Page.Billing
import DonationSite.Proofs.Vat.Current

/-!
# Answers that come too late

While the visitor edits the billing form and leaves its VAT inputs, answers arrive in any order.
Once a call has begun after a request was sent, nothing can tell what the answer to that request
says: another answer in its place, or an error, leaves the requests, the ends of calls, the log and
the form as they are after every step.

## Key results

- `happen_eq_of_superseded`: one answer to a superseded request does what any other does
- `watch_eq_of_differStale`: two runs that differ in such answers only are seen alike
-/

namespace DonationSite.Page.Billing

open DonationSite.Billing

/-- What happens to the form and the lookups that feed it. -/
inductive Happening where
  /-- The visitor puts a text into a field. -/
  | edit (field : Field) (value : String)
  /-- A call begins, or an answer arrives. -/
  | lookup (event : Vat.LookupEvent)

/-- What a happening is to the lookups. -/
def Happening.event? : Happening → Option Vat.LookupEvent
  | .edit .. => none
  | .lookup event => some event

/-- The page after a happening, and what that brought about in the lookups. -/
def happen (b : Billing) : Happening → Billing × Vat.Outcome
  | .edit field value => ((b.update (.edit field value)).1, {})
  | .lookup event => ((b.lookUp event).1, (b.lookups.step event).2)

/-- What is seen of a step: the requests sent, the calls that ended, the lines in the log, and the
form after it. -/
structure Sight where
  outcome : Vat.Outcome
  form : Form
  deriving DecidableEq, Repr

/-- What is seen of each step of a run. -/
def watch (b : Billing) : List Happening → List Sight
  | [] => []
  | x :: xs => ⟨(b.happen x).2, (b.happen x).1.form⟩ :: (b.happen x).1.watch xs

/-- Two runs after the same history of lookups are the same, but for what answers to requests say
after which a call began by then. -/
inductive DifferStale : List Vat.LookupEvent → List Happening → List Happening → Prop where
  | nil {history : List Vat.LookupEvent} : DifferStale history [] []
  | same {history : List Vat.LookupEvent} {xs ys : List Happening} (x : Happening) :
    DifferStale (history ++ x.event?.toList) xs ys → DifferStale history (x :: xs) (x :: ys)
  | stale {history : List Vat.LookupEvent} {xs ys : List Happening} {number : Nat}
    (first second : Except Vat.LookupError Vat.Answer) :
    Vat.Superseded history number →
    DifferStale (history ++ [.answer number first]) xs ys →
    DifferStale history (.lookup (.answer number first) :: xs)
      (.lookup (.answer number second) :: ys)

variable {history : List Vat.LookupEvent} {b : Billing}

/-- A happening keeps the lookups in step with their history. -/
theorem tracks_happen (t : Vat.Tracks history b.lookups) (x : Happening) :
    Vat.Tracks (history ++ x.event?.toList) (b.happen x).1.lookups := by
  cases x with
  | edit field value =>
    rw [Happening.event?, Option.toList_none, List.append_nil]
    exact t
  | lookup event => exact Vat.Autofill.tracks_step t event

/-- What the answer to a superseded request says does not matter. -/
theorem happen_eq_of_superseded (t : Vat.Tracks history b.lookups) {number : Nat}
    (h : Vat.Superseded history number) (first second : Except Vat.LookupError Vat.Answer) :
    b.happen (.lookup (.answer number first)) = b.happen (.lookup (.answer number second)) := by
  have hanswer : b.lookups.answer number first = b.lookups.answer number second :=
    Vat.Autofill.answer_eq_of_not_isCurrent (t.not_isCurrent_of_superseded h) first second
  rw [happen, happen, lookUp, lookUp, Vat.Autofill.step, Vat.Autofill.step, hanswer]

/-- Two runs that differ in answers to superseded requests only look the same from any state in step
with its history. -/
theorem watch_eq_of_tracks {xs ys : List Happening} (h : DifferStale history xs ys)
    (t : Vat.Tracks history b.lookups) : b.watch xs = b.watch ys := by
  -- By induction on where the runs differ; either way the state stays in step with the history.
  induction h generalizing b with
  | nil => rfl
  | same x _ ih => rw [watch, watch, ih (tracks_happen t x)]
  | stale first second hstale _ ih =>
    -- The first answer may stand for both, so the histories stay the same too.
    rw [watch, watch, ← happen_eq_of_superseded t hstale first second,
      ih (tracks_happen t (.lookup (.answer _ first)))]

/-- What answers to superseded requests say is never seen: two runs of a form and its lookups, from
the beginning of the lookups on, that differ in such answers only look the same at every step. -/
theorem watch_eq_of_differStale (token : String) (form : Form) {xs ys : List Happening}
    (h : DifferStale [] xs ys) :
    watch { token := token, form := form } xs = watch { token := token, form := form } ys :=
  watch_eq_of_tracks h Vat.Autofill.tracks_nil

/-- An edit and two calls, the first of which is answered after the second has begun. -/
def overtaken (late : Except Vat.LookupError Vat.Answer) : List Happening := [
  .edit .name "Ada",
  .lookup (.focusOut "CZ" "111" "token"),
  .lookup (.focusOut "CZ" "222" "token"),
  .lookup (.answer 0 late),
  .lookup (.answer 1 (.ok { valid := true, name := some "Second" }))]

/-- A valid answer. -/
def lateAnswer : Except Vat.LookupError Vat.Answer :=
  .ok { valid := true, name := some "First" }

/-- A failure in its place. -/
def lateFailure : Except Vat.LookupError Vat.Answer :=
  .error (.network "offline")

/-- A valid answer that comes too late is seen as a failure in its place is. -/
theorem watch_overtaken :
    DifferStale [] (overtaken lateAnswer) (overtaken lateFailure) ∧
      watch { token := "token" } (overtaken lateAnswer) =
        watch { token := "token" } (overtaken lateFailure) := by
  -- The second call begins before the first one is answered.
  have hstale : Vat.Superseded
      [.focusOut "CZ" "111" "token", .focusOut "CZ" "222" "token"] 0 := by
    refine ⟨0, 1, by decide, ⟨_, rfl, ?_, rfl⟩, ⟨_, rfl, rfl⟩⟩
    decide +kernel
  have hdiffer : DifferStale [] (overtaken lateAnswer) (overtaken lateFailure) :=
    .same _ (.same _ (.same _ (.stale _ _ hstale (.same _ .nil))))
  exact ⟨hdiffer, watch_eq_of_differStale "token" {} hdiffer⟩

end DonationSite.Page.Billing
