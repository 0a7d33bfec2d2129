import Mathlib.Data.List.Nodup
import DonationSite.Proofs.Vat.Request
import DonationSite.Proofs.Vat.Superseding

/-!
# No lookup is lost or duplicated

In any run the requests are those that the calls ask for, one per call whose two inputs both hold
something, in order. A call with a blank input ends as it begins. Any other call ends when the
answer to its own request arrives, at no other step, and leaves one line in the log then. So the
calls that have not ended are those whose request is not answered.

## Key results

- `sent_eq_asked`: the requests of a run
- `outcome_delivered`: what the answer to the request of a call brings about
- `EndsAt.step_eq`: a call ends once
- `lookups_conserved`: the statement above
-/

namespace DonationSite.Vat

/-! ### What calls ask for -/

/-- Both inputs hold something besides blanks. -/
def Asks (countryCode vatNumber : String) : Prop :=
  Text.trim countryCode ≠ "" ∧ Text.trim vatNumber ≠ ""

instance (countryCode vatNumber : String) : Decidable (Asks countryCode vatNumber) :=
  inferInstanceAs (Decidable (_ ∧ _))

/-- What is asked of two inputs that hold something. -/
def asked (countryCode vatNumber token : String) : Request :=
  ⟨Text.upper (Text.trim countryCode) ++ Text.trim vatNumber, token⟩

/-- The request that an event asks for. -/
def asked? : LookupEvent → Option Request
  | .focusOut countryCode vatNumber token =>
    if Asks countryCode vatNumber then some (asked countryCode vatNumber token) else none
  | .answer .. => none

/-- The requests of a run. -/
def sentRequests (events : List LookupEvent) : List Request :=
  (Autofill.run {} events).2.flatMap (·.sent)

/-- The calls that a run ends, in the order of their ends. -/
def endedCalls (events : List LookupEvent) : List Nat :=
  (Autofill.run {} events).2.flatMap (·.finished.map (·.call))

/-- A step of a run brings something about. -/
def OutcomeAt (events : List LookupEvent) (step : Nat) (outcome : Outcome) : Prop :=
  (Autofill.run {} events).2[step]? = some outcome

/-- The level of the line about the answer that a call which began at a step gets at a later one. -/
inductive LevelOf (events : List LookupEvent) (begun step : Nat) :
    Except LookupError Answer → Log.Level → Prop where
  | superseded (result : Except LookupError Answer) :
    ¬NoCallBetween events begun step → LevelOf events begun step result .debug
  | valid (answer : Answer) : NoCallBetween events begun step → answer.valid = true →
    LevelOf events begun step (.ok answer) .debug
  | invalid (answer : Answer) : NoCallBetween events begun step → answer.valid = false →
    LevelOf events begun step (.ok answer) .info
  | failed (error : LookupError) : NoCallBetween events begun step →
    LevelOf events begun step (.error error) .error

variable {events : List LookupEvent} {call begun step : Nat} {countryCode vatNumber token : String}

/-- A call does not ask exactly if one of its two texts is blank. -/
theorem not_asks_iff :
    ¬Asks countryCode vatNumber ↔
      (Text.isBlankText countryCode || Text.isBlankText vatNumber) = true := by
  rw [Asks, Bool.or_eq_true, ← Text.isEmpty_trim, ← Text.isEmpty_trim, String.isEmpty_iff,
    String.isEmpty_iff]
  exact Decidable.not_and_iff_not_or_not.trans (by simp only [ne_eq, Decidable.not_not])

/-- The request that goes out with an event is the one it asks for. -/
theorem request?_eq_asked? (event : LookupEvent) : event.request? = asked? event := by
  cases event with
  | focusOut countryCode vatNumber token =>
    rw [LookupEvent.request?, asked?]
    split
    · next hasks =>
      refine Request.ofInputs?_of_not_blank ?_ token
      rw [Bool.eq_false_iff]
      exact fun hblank => not_asks_iff.2 hblank hasks
    · next hblank => exact Request.ofInputs?_of_blank (not_asks_iff.1 hblank) token
  | answer => rfl

/-- Inputs that both hold something make the request they ask for. -/
theorem ofInputs?_of_asks (h : Asks countryCode vatNumber) (token : String) :
    Request.ofInputs? countryCode vatNumber token = some (asked countryCode vatNumber token) := by
  have := request?_eq_asked? (.focusOut countryCode vatNumber token)
  rwa [LookupEvent.request?, asked?, if_pos h] at this

/-- Inputs of which one is blank make no request. -/
theorem ofInputs?_of_not_asks (h : ¬Asks countryCode vatNumber) (token : String) :
    Request.ofInputs? countryCode vatNumber token = none := by
  have := request?_eq_asked? (.focusOut countryCode vatNumber token)
  rwa [LookupEvent.request?, asked?, if_neg h] at this

/-- Inputs that make a request both hold something. -/
theorem asks_of_ofInputs? {request : Request}
    (h : Request.ofInputs? countryCode vatNumber token = some request) :
    Asks countryCode vatNumber := by
  by_contra hblank
  rw [ofInputs?_of_not_asks hblank] at h
  cases h

/-! ### Requests -/

/-- The requests of a run from any state are those of its events, in order. -/
theorem sent_run (a : Autofill) (events : List LookupEvent) :
    (a.run events).2.flatMap (·.sent) = events.filterMap (·.request?) := by
  induction events generalizing a with
  | nil => rfl
  | cons event events ih =>
    rw [Autofill.run_cons, List.flatMap_cons, ih, Autofill.sent_step, List.filterMap_cons]
    cases event.request? <;> rfl

/-- The requests of a run are those that its calls ask for. -/
theorem sent_eq_asked (events : List LookupEvent) :
    sentRequests events = events.filterMap asked? := by
  rw [sentRequests, sent_run, funext request?_eq_asked?]

/-! ### Ends -/

/-- A call that ends has begun. -/
theorem EndsAt.begins {patch : Option Patch} (h : EndsAt events call step patch) :
    ∃ begun countryCode vatNumber token,
      Begins events call begun countryCode vatNumber token := by
  have t := Autofill.tracks_after (events.take step)
  obtain ⟨event, hevent, hmem⟩ := endsAt_iff_step.1 h
  cases event with
  | focusOut countryCode vatNumber token =>
    obtain ⟨-, hcall, -⟩ := mem_finished_focusOut.1 hmem
    exact ⟨step, countryCode, vatNumber, token, hevent, by rw [hcall, t.calls]⟩
  | answer number result =>
    -- The call waited for the answer, so it began before.
    obtain ⟨waiting, hwaiting, -, hcall, -⟩ := (mem_finished_answer t).1 hmem
    obtain ⟨begun, hawaits⟩ := (t.mem_waiting waiting).1 hwaiting
    obtain ⟨-, ⟨countryCode, vatNumber, token, hbegins, -⟩, -⟩ := awaits_take_iff.1 hawaits
    rw [hcall] at hbegins
    exact ⟨begun, countryCode, vatNumber, token, hbegins⟩

/-- A request is answered once. -/
theorem Delivered.step_eq {step' : Nat} {result result' : Except LookupError Answer}
    (h : Delivered events begun step result) (h' : Delivered events begun step' result') :
    step = step' := by
  rcases Nat.lt_trichotomy step step' with hlt | heq | hgt
  -- Of two answers the later one would not be the first.
  · exact absurd h.event (h'.first step result h.later hlt)
  · exact heq
  · exact absurd h'.event (h.first step' result' h'.later hgt)

/-- Where a call ends. -/
theorem endsAt_step_iff (h : Begins events call begun countryCode vatNumber token) :
    (∃ patch, EndsAt events call step patch) ↔
      if Asks countryCode vatNumber then ∃ result, Delivered events begun step result
      else step = begun := by
  simp only [endsAt_iff h]
  split
  · next hasks =>
    rw [ofInputs?_of_asks hasks]
    constructor
    · intro hexists
      obtain ⟨patch, ⟨hnone, -⟩ | ⟨request, result, -, hdelivered, -⟩⟩ := hexists
      · cases hnone
      · exact ⟨result, hdelivered⟩
    · intro hexists
      obtain ⟨result, hdelivered⟩ := hexists
      -- Whether it was superseded or not, the answer ends the call.
      by_cases hbetween : NoCallBetween events begun step
      · exact ⟨_, .inr ⟨_, result, rfl, hdelivered, .inl ⟨hbetween, rfl⟩⟩⟩
      · exact ⟨_, .inr ⟨_, result, rfl, hdelivered, .inr ⟨hbetween, rfl⟩⟩⟩
  · next hblank =>
    rw [ofInputs?_of_not_asks hblank]
    constructor
    · intro hexists
      obtain ⟨patch, ⟨-, hstep, -⟩ | ⟨_, _, hsome, -⟩⟩ := hexists
      · exact hstep
      · cases hsome
    · intro hstep
      exact ⟨none, .inl ⟨rfl, hstep, rfl⟩⟩

/-- A call ends once. -/
theorem EndsAt.step_eq {step' : Nat} {patch patch' : Option Patch}
    (h : EndsAt events call step patch) (h' : EndsAt events call step' patch') :
    step = step' := by
  obtain ⟨begun, countryCode, vatNumber, token, hbegins⟩ := h.begins
  have hends := (endsAt_step_iff hbegins).1 ⟨patch, h⟩
  have hends' := (endsAt_step_iff hbegins).1 ⟨patch', h'⟩
  split at hends
  · next hasks =>
    rw [if_pos hasks] at hends'
    obtain ⟨result, hdelivered⟩ := hends
    obtain ⟨result', hdelivered'⟩ := hends'
    exact hdelivered.step_eq hdelivered'
  · next hblank =>
    rw [if_neg hblank] at hends'
    exact hends.trans hends'.symm

/-- The calls a run ends are those that end at one of its steps. -/
theorem mem_endedCalls :
    call ∈ endedCalls events ↔ ∃ step patch, EndsAt events call step patch := by
  rw [endedCalls, List.mem_flatMap]
  constructor
  · intro hexists
    obtain ⟨outcome, hmem, hcall⟩ := hexists
    obtain ⟨step, hstep⟩ := List.mem_iff_getElem?.1 hmem
    obtain ⟨finished, hfinished, rfl⟩ := List.mem_map.1 hcall
    exact ⟨step, finished.patch, outcome, hstep, hfinished⟩
  · intro hexists
    obtain ⟨step, patch, outcome, hstep, hfinished⟩ := hexists
    exact ⟨outcome, List.mem_of_getElem? hstep, List.mem_map.2 ⟨_, hfinished, rfl⟩⟩

/-- One event ends at most one call. -/
theorem length_finished_step_le (a : Autofill) (event : LookupEvent) :
    (a.step event).2.finished.length ≤ 1 := by
  cases event with
  | focusOut countryCode vatNumber token =>
    rw [Autofill.step]
    cases hrequest : Request.ofInputs? countryCode vatNumber token with
    | none => rw [Autofill.focusOut_of_none hrequest]; exact Nat.le_refl 1
    | some request => rw [Autofill.focusOut_of_some hrequest]; exact Nat.zero_le 1
  | answer number result =>
    rw [Autofill.step]
    cases hfind : a.waiting.find? (·.number == number) with
    | none => rw [Autofill.answer_of_none hfind]; exact Nat.zero_le 1
    | some waiting =>
      rw [Autofill.answer_of_some hfind]
      dsimp only
      split <;> exact Nat.le_refl 1

/-- No call ends twice. -/
theorem nodup_endedCalls (events : List LookupEvent) : (endedCalls events).Nodup := by
  rw [endedCalls, List.nodup_flatMap]
  constructor
  -- Within one step there is at most one end.
  · intro outcome hmem
    obtain ⟨step, hstep⟩ := List.mem_iff_getElem?.1 hmem
    rw [Autofill.run_outcome, Option.map_eq_some_iff] at hstep
    obtain ⟨event, -, rfl⟩ := hstep
    have hlen := length_finished_step_le (Autofill.after (events.take step)) event
    match ((Autofill.after (events.take step)).step event).2.finished, hlen with
    | [], _ => exact List.nodup_nil
    | [_], _ => exact List.nodup_singleton _
  · rw [List.pairwise_iff_getElem]
    intro i j hi hj hij call hfirst hsecond
    obtain ⟨finished, hfinished, rfl⟩ := List.mem_map.1 hfirst
    obtain ⟨finished', hfinished', hcall⟩ := List.mem_map.1 hsecond
    -- The same call would end at two steps.
    have hends : EndsAt events finished.call i finished.patch :=
      ⟨_, List.getElem?_eq_getElem hi, hfinished⟩
    have hends' : EndsAt events finished.call j finished'.patch :=
      ⟨_, List.getElem?_eq_getElem hj, by rw [← hcall]; exact hfinished'⟩
    exact Nat.ne_of_lt hij (hends.step_eq hends')

/-! ### What a step brings about -/

/-- What a step brings about is what its event does after the history before it. -/
theorem outcomeAt_iff {outcome : Outcome} :
    OutcomeAt events step outcome ↔ ∃ event, events[step]? = some event ∧
      ((Autofill.after (events.take step)).step event).2 = outcome := by
  rw [OutcomeAt, Autofill.run_outcome, Option.map_eq_some_iff]

/-- A call with a blank input ends as it begins, and does nothing else. -/
theorem outcome_of_not_asks (h : Begins events call begun countryCode vatNumber token)
    (hblank : ¬Asks countryCode vatNumber) :
    OutcomeAt events begun { finished := [⟨call, none⟩] } := by
  refine outcomeAt_iff.2 ⟨_, h.event, ?_⟩
  rw [Autofill.step, Autofill.focusOut_of_none (ofInputs?_of_not_asks hblank token),
    (Autofill.tracks_after _).calls, h.number]

/-- A call with two inputs sends its request as it begins, and does nothing else. -/
theorem outcome_of_asks (h : Begins events call begun countryCode vatNumber token)
    (hasks : Asks countryCode vatNumber) :
    OutcomeAt events begun { sent := [asked countryCode vatNumber token] } := by
  refine outcomeAt_iff.2 ⟨_, h.event, ?_⟩
  rw [Autofill.step, Autofill.focusOut_of_some (ofInputs?_of_asks hasks token)]

/-- The level of the line about an answer that is looked at. -/
theorem levelOf_conclude (request : Request) (result : Except LookupError Answer)
    (h : NoCallBetween events begun step) :
    LevelOf events begun step result (conclude request result).2.level := by
  cases result with
  | error error => exact .failed error h
  | ok answer =>
    have hvalid := Patch.ofAnswer?_isSome answer
    unfold conclude
    dsimp only
    split
    · next hpatch =>
      rw [hpatch] at hvalid
      exact .valid answer h hvalid.symm
    · next hpatch =>
      rw [hpatch] at hvalid
      exact .invalid answer h hvalid.symm

/-- The answer to the request of a call ends it, with one line in the log, and does nothing else. -/
theorem outcome_delivered (h : Begins events call begun countryCode vatNumber token)
    (hasks : Asks countryCode vatNumber) {result : Except LookupError Answer}
    (hdelivered : Delivered events begun step result) :
    ∃ patch line, OutcomeAt events step { finished := [⟨call, patch⟩], log := [line] } ∧
      LevelOf events begun step result line.level := by
  obtain ⟨hevent, hawaits⟩ := (delivered_iff h (ofInputs?_of_asks hasks token)).1 hdelivered
  have t := Autofill.tracks_after (events.take step)
  have hfind := t.find?_waiting.2 ⟨(t.mem_waiting _).2 ⟨begun, hawaits⟩, rfl⟩
  have hlatest := isLatest_take_iff hdelivered.later h
  by_cases hbetween : NoCallBetween events begun step
  · let concluded := conclude (asked countryCode vatNumber token) result
    refine ⟨concluded.1, concluded.2, outcomeAt_iff.2 ⟨_, hevent, ?_⟩,
      levelOf_conclude _ result hbetween⟩
    rw [Autofill.step, Autofill.answer_of_some hfind, if_pos (hlatest.2 hbetween)]
  -- A superseded call still ends here, and its answer is dropped.
  · refine ⟨none, droppedLine (asked countryCode vatNumber token),
      outcomeAt_iff.2 ⟨_, hevent, ?_⟩, .superseded result hbetween⟩
    rw [Autofill.step, Autofill.answer_of_some hfind, if_neg (fun hl => hbetween (hlatest.1 hl))]

/-- An answer to no request, or to one that is answered already, does nothing. -/
theorem outcome_stray {number : Nat} {result : Except LookupError Answer}
    (hevent : events[step]? = some (.answer number result))
    (h : ∀ call begun countryCode vatNumber token,
      Begins events call begun countryCode vatNumber token → Asks countryCode vatNumber →
      ¬Delivered events begun step result) :
    OutcomeAt events step {} := by
  have t := Autofill.tracks_after (events.take step)
  refine outcomeAt_iff.2 ⟨_, hevent, ?_⟩
  rw [Autofill.step]
  cases hfind : (Autofill.after (events.take step)).waiting.find? (·.number == number) with
  | none => rw [Autofill.answer_of_none hfind]
  | some waiting =>
    -- A call that waits for the answer would get it.
    obtain ⟨hwaiting, rfl⟩ := t.find?_waiting.1 hfind
    obtain ⟨begun, hawaits⟩ := (t.mem_waiting waiting).1 hwaiting
    obtain ⟨hlt, ⟨countryCode, vatNumber, token, hbegins, hrequest⟩, hnumber, hfirst⟩ :=
      awaits_take_iff.1 hawaits
    rw [hnumber] at hevent hfirst
    exact absurd ⟨hlt, hevent, fun i other hi hstep => hfirst i other hi hstep⟩
      (h _ begun _ _ _ hbegins (asks_of_ofInputs? hrequest))

/-! ### Calls that have not ended -/

/-- A call has not ended exactly if it sent a request to which no answer was delivered. -/
theorem not_mem_endedCalls_iff (h : Begins events call begun countryCode vatNumber token) :
    call ∉ endedCalls events ↔
      Asks countryCode vatNumber ∧ ∀ step result, ¬Delivered events begun step result := by
  have hends : call ∈ endedCalls events ↔
      ∃ step, if Asks countryCode vatNumber then ∃ result, Delivered events begun step result
        else step = begun := by
    simp only [mem_endedCalls, endsAt_step_iff h]
  rw [hends]
  by_cases hasks : Asks countryCode vatNumber
  · simp [hasks]
  · simp [hasks]

/-- Of the answers to a request the first one is delivered. -/
theorem exists_delivered {i : Nat} {result : Except LookupError Answer} (hi : begun < i)
    (hevent : events[i]? = some (.answer (requestCount (events.take begun)) result)) :
    ∃ step result, Delivered events begun step result := by
  induction i using Nat.strongRecOn generalizing result with
  | ind i ih =>
    -- An earlier answer to the same request would come first, so go back to the first one.
    by_cases hearlier : ∃ j other, begun < j ∧ j < i ∧
        events[j]? = some (.answer (requestCount (events.take begun)) other)
    · obtain ⟨j, other, hj, hji, hother⟩ := hearlier
      exact ih j hji hj hother
    · exact ⟨i, result, hi, hevent, fun j other hj hji hother =>
        hearlier ⟨j, other, hj, hji, hother⟩⟩

/-- The machine keeps the calls that asked for something and are not answered. -/
theorem exists_waiting_iff (h : Begins events call begun countryCode vatNumber token) :
    (∃ waiting ∈ (Autofill.after events).waiting, waiting.call = call) ↔
      Asks countryCode vatNumber ∧ ∀ step result, ¬Delivered events begun step result := by
  have t := Autofill.tracks_after events
  constructor
  · intro hexists
    obtain ⟨waiting, hmem, rfl⟩ := hexists
    obtain ⟨begun', hawaits⟩ := (t.mem_waiting waiting).1 hmem
    rw [← events.take_length] at hawaits
    obtain ⟨-, ⟨_, _, _, hbegins, hrequest⟩, hnumber, hunanswered⟩ := awaits_take_iff.1 hawaits
    obtain ⟨rfl, rfl, rfl, rfl⟩ := hbegins.unique h
    -- The history here is the whole run, so the call waits as long as no answer came at all.
    refine ⟨asks_of_ofInputs? hrequest, fun step result hdelivered => ?_⟩
    have hlt := (List.getElem?_eq_some_iff.1 hdelivered.event).1
    refine hunanswered step result hdelivered.later hlt ?_
    rw [hnumber]
    exact hdelivered.event
  · intro hboth
    obtain ⟨hasks, hnone⟩ := hboth
    have hawaits : Awaits (events.take events.length) begun
        ⟨call, requestCount (events.take begun), asked countryCode vatNumber token⟩ := by
      refine awaits_take_iff.2 ⟨(List.getElem?_eq_some_iff.1 h.event).1,
        ⟨_, _, _, h, ofInputs?_of_asks hasks token⟩, rfl, ?_⟩
      intro i result hi _ hanswer
      obtain ⟨step, other, hdelivered⟩ := exists_delivered hi hanswer
      exact hnone step other hdelivered
    rw [events.take_length] at hawaits
    exact ⟨_, (t.mem_waiting _).2 ⟨begun, hawaits⟩, rfl⟩

/-! ### The account of a run -/

/-- What becomes of a call that begins at a step of a run with these texts. -/
structure Accounted (events : List LookupEvent) (call begun : Nat)
    (countryCode vatNumber token : String) : Prop where
  /-- If an input is blank, the call ends as it begins; nothing is sent or logged. -/
  blank : ¬Asks countryCode vatNumber → OutcomeAt events begun { finished := [⟨call, none⟩] }
  /-- If not, beginning it sends its request and does nothing else. -/
  sends : Asks countryCode vatNumber →
    OutcomeAt events begun { sent := [asked countryCode vatNumber token] }
  /-- The answer to its request ends it with one line in the log, and does nothing else. -/
  answered : Asks countryCode vatNumber → ∀ step result, Delivered events begun step result →
    ∃ patch line, OutcomeAt events step { finished := [⟨call, patch⟩], log := [line] } ∧
      LevelOf events begun step result line.level
  /-- It ends nowhere else. -/
  ends : ∀ step, (∃ patch, EndsAt events call step patch) ↔
    if Asks countryCode vatNumber then ∃ result, Delivered events begun step result
    else step = begun
  /-- It has not ended exactly if it sent a request that is not answered. -/
  unfinished : call ∉ endedCalls events ↔
    Asks countryCode vatNumber ∧ ∀ step result, ¬Delivered events begun step result
  /-- The machine keeps it as long as it has not ended. -/
  kept : call ∉ endedCalls events ↔
    ∃ waiting ∈ (Autofill.after events).waiting, waiting.call = call

/-- No lookup is lost or duplicated. The requests of a run are, in order, those that its calls ask
for. No call ends twice, and each is accounted for. An answer that is delivered to no call does
nothing. -/
theorem lookups_conserved (events : List LookupEvent) :
    sentRequests events = events.filterMap asked? ∧
    (endedCalls events).Nodup ∧
    (∀ call begun countryCode vatNumber token,
      Begins events call begun countryCode vatNumber token →
      Accounted events call begun countryCode vatNumber token) ∧
    ∀ step number result, events[step]? = some (.answer number result) →
      (∀ call begun countryCode vatNumber token,
        Begins events call begun countryCode vatNumber token → Asks countryCode vatNumber →
        ¬Delivered events begun step result) →
      OutcomeAt events step {} := by
  refine ⟨sent_eq_asked events, nodup_endedCalls events, ?_, ?_⟩
  · intro call begun countryCode vatNumber token h
    exact {
      blank := outcome_of_not_asks h
      sends := outcome_of_asks h
      answered := fun hasks _ _ hdelivered => outcome_delivered h hasks hdelivered
      ends := fun _ => endsAt_step_iff h
      unfinished := not_mem_endedCalls_iff h
      kept := (not_mem_endedCalls_iff h).trans (exists_waiting_iff h).symm }
  · intro step number result hevent hnone
    exact outcome_stray hevent hnone

/-- A call, a call with a blank input, and the answer to the first one, which arrives twice. -/
def answeredTwice : List LookupEvent := [
  .focusOut "CZ" "111" "token",
  .focusOut " " "222" "token",
  .answer 0 (.error (.status 500)),
  .answer 0 (.error (.status 500))]

/-- The first call ends with the first answer, though it was superseded by then, and is not kept. -/
theorem lookups_conserved_answeredTwice :
    Begins answeredTwice 0 0 "CZ" "111" "token" ∧ Asks "CZ" "111" ∧
      Delivered answeredTwice 0 2 (.error (.status 500)) ∧
      (∃ patch line, OutcomeAt answeredTwice 2 { finished := [⟨0, patch⟩], log := [line] } ∧
        LevelOf answeredTwice 0 2 (.error (.status 500)) line.level) ∧
      ¬∃ waiting ∈ (Autofill.after answeredTwice).waiting, waiting.call = 0 := by
  have hbegins : Begins answeredTwice 0 0 "CZ" "111" "token" := ⟨rfl, rfl⟩
  have hasks : Asks "CZ" "111" := by decide +kernel
  have hdelivered : Delivered answeredTwice 0 2 (.error (.status 500)) := by
    refine ⟨by decide, rfl, fun i other hi hlt => ?_⟩
    -- The only step in between begins another call.
    rw [show i = 1 by omega]
    simp [answeredTwice]
  have account := (lookups_conserved answeredTwice).2.2.1 0 0 _ _ _ hbegins
  refine ⟨hbegins, hasks, hdelivered, account.answered hasks 2 _ hdelivered, ?_⟩
  intro hkept
  exact (account.unfinished.1 (account.kept.2 hkept)).2 2 _ hdelivered

end DonationSite.Vat
