import DonationSite.Proofs.Vat.History

/-!
# Calls that are superseded

In any run, a call ends with a patch exactly if it sent a request, the answer to that request is a
valid one, and no other call began before the answer arrived. In all other cases it ends with none:
at once if it sent nothing, and else when its answer arrives.

## Key results

- `endsAt_iff`: when a call ends, and with what, in terms of the events alone
- `endsAt_some_iff`, `endsAt_none_iff`: when it ends with a patch, and when with none
- `call_ends_iff`: the statement above
-/

namespace DonationSite.Vat

/-! ### What happens to a call in a run -/

/-- The call with a number begins at a step with these texts. -/
structure Begins (events : List LookupEvent) (call begun : Nat)
    (countryCode vatNumber token : String) : Prop where
  event : events[begun]? = some (.focusOut countryCode vatNumber token)
  number : callCount (events.take begun) = call

/-- The answer to the request sent at a step arrives at a later step. Further answers to the same
request may follow; they do not count. -/
structure Delivered (events : List LookupEvent) (begun step : Nat)
    (result : Except LookupError Answer) : Prop where
  later : begun < step
  event : events[step]? = some (.answer (requestCount (events.take begun)) result)
  first : ∀ i other, begun < i → i < step →
    events[i]? ≠ some (.answer (requestCount (events.take begun)) other)

/-- No call begins between two steps. -/
def NoCallBetween (events : List LookupEvent) (begun step : Nat) : Prop :=
  ∀ i countryCode vatNumber token, begun < i → i < step →
    events[i]? ≠ some (.focusOut countryCode vatNumber token)

/-- A run sends a request at a step. -/
def SendsAt (events : List LookupEvent) (step : Nat) (request : Request) : Prop :=
  ∃ outcome, (Autofill.run {} events).2[step]? = some outcome ∧ outcome.sent = [request]

/-- A run ends a call at a step, with a patch or with none. -/
def EndsAt (events : List LookupEvent) (call step : Nat) (patch : Option Patch) : Prop :=
  ∃ outcome, (Autofill.run {} events).2[step]? = some outcome ∧ ⟨call, patch⟩ ∈ outcome.finished

variable {events : List LookupEvent} {call begun step : Nat} {countryCode vatNumber token : String}

/-- A call begins once. -/
theorem Begins.unique {begun' : Nat} {countryCode' vatNumber' token' : String}
    (h : Begins events call begun countryCode vatNumber token)
    (h' : Begins events call begun' countryCode' vatNumber' token') :
    begun = begun' ∧ countryCode = countryCode' ∧ vatNumber = vatNumber' ∧ token = token' := by
  have hbegun : begun = begun' :=
    List.countP_take_inj (p := LookupEvent.isFocusOut) h.event rfl h'.event rfl
      (h.number.trans h'.number.symm)
  have hevent := h.event
  rw [hbegun, h'.event] at hevent
  cases hevent
  exact ⟨hbegun, rfl, rfl, rfl⟩

/-- No call begins between two steps exactly if none of the events before the second and after the
first begins one. -/
theorem noCallBetween_iff :
    NoCallBetween events begun step ↔
      ∀ i later, begun < i → (events.take step)[i]? = some later → later.isFocusOut = false := by
  constructor
  · intro h i later hi hlater
    obtain ⟨hlt, hlater⟩ := List.getElem?_take_eq_some_iff.1 hlater
    cases later with
    | focusOut countryCode vatNumber token =>
      exact absurd hlater (h i countryCode vatNumber token hi hlt)
    | answer => rfl
  · intro h i countryCode vatNumber token hi hlt hevent
    have := h i _ hi (List.getElem?_take_eq_some_iff.2 ⟨hlt, hevent⟩)
    exact absurd this (by simp [LookupEvent.isFocusOut])

/-- A call waits before a step exactly if it sent its request earlier and no answer to that has
arrived. -/
theorem awaits_take_iff {waiting : Waiting} :
    Awaits (events.take step) begun waiting ↔
      begun < step ∧
      (∃ countryCode vatNumber token,
        Begins events waiting.call begun countryCode vatNumber token ∧
        Request.ofInputs? countryCode vatNumber token = some waiting.request) ∧
      waiting.number = requestCount (events.take begun) ∧
      ∀ i result, begun < i → i < step → events[i]? ≠ some (.answer waiting.number result) := by
  constructor
  · intro h
    obtain ⟨event, hget, hrequest⟩ := h.sent
    obtain ⟨hlt, hget⟩ := List.getElem?_take_eq_some_iff.1 hget
    have hcall := h.call
    have hnumber := h.number
    -- Cutting at `step` and then at an earlier step is cutting at the earlier one.
    rw [List.take_take_of_lt hlt] at hcall hnumber
    refine ⟨hlt, ?_, hnumber, ?_⟩
    · cases event with
      | focusOut countryCode vatNumber token =>
        exact ⟨countryCode, vatNumber, token, ⟨hget, hcall.symm⟩, hrequest⟩
      | answer => exact absurd hrequest (by simp [LookupEvent.request?])
    · intro i result hi histep hanswer
      exact h.unanswered i result hi (List.getElem?_take_eq_some_iff.2 ⟨histep, hanswer⟩)
  · intro hboth
    obtain ⟨hlt, ⟨countryCode, vatNumber, token, hbegins, hrequest⟩, hnumber, hunanswered⟩ := hboth
    refine ⟨⟨.focusOut countryCode vatNumber token, ?_, hrequest⟩, ?_, ?_, ?_⟩
    · exact List.getElem?_take_eq_some_iff.2 ⟨hlt, hbegins.event⟩
    · rw [List.take_take_of_lt hlt, hbegins.number]
    · rw [List.take_take_of_lt hlt, hnumber]
    · intro i result hi hanswer
      obtain ⟨histep, hanswer⟩ := List.getElem?_take_eq_some_iff.1 hanswer
      exact hunanswered i result hi histep hanswer

/-! ### What an answer fills in -/

/-- An answer that could be read gives the patch it holds, if it is valid. -/
theorem conclude_ok (request : Request) (answer : Answer) :
    (conclude request (.ok answer)).1 = Patch.ofAnswer? answer := by
  unfold conclude
  dsimp only
  split
  · next hpatch => rw [hpatch]
  · next hpatch => rw [hpatch]

/-- A lookup that failed gives no patch. -/
theorem conclude_error (request : Request) (error : LookupError) :
    (conclude request (.error error)).1 = none := rfl

/-- A patch comes only from a valid answer, and it is the one the answer holds. -/
theorem conclude_eq_some_iff {request : Request} {result : Except LookupError Answer}
    {patch : Patch} :
    (conclude request result).1 = some patch ↔
      ∃ answer, result = .ok answer ∧ answer.valid = true ∧
        Patch.ofAnswer? answer = some patch := by
  cases result with
  | ok answer =>
    rw [conclude_ok]
    constructor
    · intro hpatch
      exact ⟨answer, rfl, by rw [← Patch.ofAnswer?_isSome, hpatch]; rfl, hpatch⟩
    · intro hexists
      obtain ⟨_, heq, -, hpatch⟩ := hexists
      cases heq
      exact hpatch
  | error error => simp [conclude_error]

/-- There is no patch exactly if there is no valid answer. -/
theorem conclude_eq_none_iff {request : Request} {result : Except LookupError Answer} :
    (conclude request result).1 = none ↔
      ¬∃ answer, result = .ok answer ∧ answer.valid = true := by
  cases result with
  | ok answer =>
    rw [conclude_ok, ← Option.not_isSome_iff_eq_none, Patch.ofAnswer?_isSome]
    simp
  | error error => simp [conclude_error]

/-! ### Where a call ends -/

/-- What a run ends at a step is what the event of that step ends, after the history before it. -/
theorem endsAt_iff_step {patch : Option Patch} :
    EndsAt events call step patch ↔ ∃ event, events[step]? = some event ∧
      ⟨call, patch⟩ ∈ ((Autofill.after (events.take step)).step event).2.finished := by
  rw [EndsAt, Autofill.run_outcome]
  simp only [Option.map_eq_some_iff]
  constructor
  · intro hexists
    obtain ⟨outcome, ⟨event, hevent, rfl⟩, hmem⟩ := hexists
    exact ⟨event, hevent, hmem⟩
  · intro hexists
    obtain ⟨event, hevent, hmem⟩ := hexists
    exact ⟨_, ⟨event, hevent, rfl⟩, hmem⟩

/-- A call ends as one begins exactly if it is the one that begins and sends nothing, and then with
none. -/
theorem mem_finished_focusOut {a : Autofill} {patch : Option Patch} :
    ⟨call, patch⟩ ∈ (a.step (.focusOut countryCode vatNumber token)).2.finished ↔
      Request.ofInputs? countryCode vatNumber token = none ∧ call = a.calls ∧ patch = none := by
  rw [Autofill.step]
  cases hrequest : Request.ofInputs? countryCode vatNumber token with
  | none => simp [Autofill.focusOut_of_none hrequest]
  | some request => simp [Autofill.focusOut_of_some hrequest]

/-- What a waiting call ends with. -/
def Autofill.patchFor (a : Autofill) (waiting : Waiting) (result : Except LookupError Answer) :
    Option Patch :=
  if a.isLatest waiting.call then (conclude waiting.request result).1 else none

/-- An answer ends the call that waits for it and no other one. -/
theorem mem_finished_answer {history : List LookupEvent} {a : Autofill} (t : Tracks history a)
    {number : Nat} {result : Except LookupError Answer} {patch : Option Patch} :
    ⟨call, patch⟩ ∈ (a.step (.answer number result)).2.finished ↔
      ∃ waiting ∈ a.waiting, waiting.number = number ∧ waiting.call = call ∧
        patch = a.patchFor waiting result := by
  rw [Autofill.step]
  cases hfind : a.waiting.find? (·.number == number) with
  | none =>
    rw [Autofill.answer_of_none hfind]
    refine ⟨fun h => absurd h List.not_mem_nil, ?_⟩
    intro hexists
    obtain ⟨waiting, hmem, hnumber, -⟩ := hexists
    -- A waiting call would have been found.
    rw [t.find?_waiting.2 ⟨hmem, hnumber⟩] at hfind
    cases hfind
  | some found =>
    -- The one call that waits for the request is the one that ends.
    obtain ⟨hfound, hnumber⟩ := t.find?_waiting.1 hfind
    have hfinished : (a.answer number result).2.finished =
        [⟨found.call, a.patchFor found result⟩] := by
      rw [Autofill.answer_of_some hfind, Autofill.patchFor]
      split <;> rfl
    rw [hfinished, List.mem_singleton, Finished.mk.injEq]
    constructor
    · intro hboth
      obtain ⟨hcall, hpatch⟩ := hboth
      exact ⟨found, hfound, hnumber, hcall.symm, hpatch⟩
    · intro hexists
      obtain ⟨waiting, hmem, hwaiting, hcall, hpatch⟩ := hexists
      have hsame : waiting = found := t.eq_of_number hmem hfound (hwaiting.trans hnumber.symm)
      rw [hsame] at hcall hpatch
      exact ⟨hcall.symm, hpatch⟩

/-- Before a step a call is the latest one exactly if none began between it and the step. -/
theorem isLatest_take_iff (hlt : begun < step)
    (h : Begins events call begun countryCode vatNumber token) :
    (Autofill.after (events.take step)).isLatest call = true ↔
      NoCallBetween events begun step := by
  have hget : (events.take step)[begun]? = some (.focusOut countryCode vatNumber token) :=
    List.getElem?_take_eq_some_iff.2 ⟨hlt, h.event⟩
  rw [noCallBetween_iff, ← h.number, ← List.take_take_of_lt hlt]
  exact (Autofill.tracks_after _).isLatest_iff hget rfl

/-- A waiting call ends with what the answer fills in exactly if no call began since. -/
theorem patchFor_after {waiting : Waiting} (hlt : begun < step)
    (hbegins : Begins events waiting.call begun countryCode vatNumber token)
    (result : Except LookupError Answer) (patch : Option Patch) :
    patch = (Autofill.after (events.take step)).patchFor waiting result ↔
      (NoCallBetween events begun step ∧ patch = (conclude waiting.request result).1) ∨
      (¬NoCallBetween events begun step ∧ patch = none) := by
  have hlatest := isLatest_take_iff hlt hbegins
  -- A superseded call ends with none whatever the answer.
  unfold Autofill.patchFor
  by_cases hbetween : NoCallBetween events begun step
  · simp [hlatest.2 hbetween, hbetween]
  · have hnot : (Autofill.after (events.take step)).isLatest waiting.call = false :=
      Bool.eq_false_iff.2 fun h => hbetween (hlatest.1 h)
    simp [hnot, hbetween]

/-- The answer to a call arrives at a step exactly if the call waits before it and the event of the
step names its request. -/
theorem delivered_iff {request : Request} {result : Except LookupError Answer}
    (h : Begins events call begun countryCode vatNumber token)
    (hrequest : Request.ofInputs? countryCode vatNumber token = some request) :
    Delivered events begun step result ↔
      events[step]? = some (.answer (requestCount (events.take begun)) result) ∧
      Awaits (events.take step) begun ⟨call, requestCount (events.take begun), request⟩ := by
  constructor
  · intro hd
    refine ⟨hd.event, awaits_take_iff.2 ⟨hd.later, ⟨_, _, _, h, hrequest⟩, rfl, ?_⟩⟩
    intro i other hi hstep
    exact hd.first i other hi hstep
  · intro hboth
    obtain ⟨hevent, hawaits⟩ := hboth
    obtain ⟨hlt, -, -, hunanswered⟩ := awaits_take_iff.1 hawaits
    exact ⟨hlt, hevent, hunanswered⟩

/-- When a call ends, and with what. -/
theorem endsAt_iff (h : Begins events call begun countryCode vatNumber token)
    {patch : Option Patch} :
    EndsAt events call step patch ↔
      (Request.ofInputs? countryCode vatNumber token = none ∧ step = begun ∧ patch = none) ∨
      ∃ request result, Request.ofInputs? countryCode vatNumber token = some request ∧
        Delivered events begun step result ∧
        ((NoCallBetween events begun step ∧ patch = (conclude request result).1) ∨
          (¬NoCallBetween events begun step ∧ patch = none)) := by
  have t := Autofill.tracks_after (events.take step)
  rw [endsAt_iff_step]
  constructor
  · intro hexists
    obtain ⟨event, hevent, hmem⟩ := hexists
    cases event with
    | focusOut countryCode' vatNumber' token' =>
      -- A call that ends as one begins is that call, and it sent nothing.
      obtain ⟨hnone, hcall, hpatch⟩ := mem_finished_focusOut.1 hmem
      have hbegins : Begins events call step countryCode' vatNumber' token' :=
        ⟨hevent, by rw [hcall, t.calls]⟩
      obtain ⟨hstep, rfl, rfl, rfl⟩ := hbegins.unique h
      exact .inl ⟨hnone, hstep, hpatch⟩
    | answer number result =>
      -- A call that ends with an answer was waiting for it.
      obtain ⟨waiting, hwaiting, hnumber, hcall, hpatch⟩ := (mem_finished_answer t).1 hmem
      obtain ⟨begun', hawaits⟩ := (t.mem_waiting waiting).1 hwaiting
      obtain ⟨hlt, ⟨_, _, _, hbegins, hrequest⟩, hasked, -⟩ := awaits_take_iff.1 hawaits
      obtain ⟨waitingCall, waitingNumber, request⟩ := waiting
      cases hcall
      cases hasked
      cases hnumber
      obtain ⟨rfl, rfl, rfl, rfl⟩ := hbegins.unique h
      refine .inr ⟨request, result, hrequest, (delivered_iff h hrequest).2 ⟨hevent, hawaits⟩, ?_⟩
      exact (patchFor_after hlt hbegins result patch).1 hpatch
  · intro hcases
    rcases hcases with ⟨hnone, hstep, hpatch⟩ | ⟨request, result, hrequest, hdelivered, hpatch⟩
    · subst hstep
      exact ⟨_, h.event, mem_finished_focusOut.2 ⟨hnone, by rw [t.calls, h.number], hpatch⟩⟩
    · obtain ⟨hevent, hawaits⟩ := (delivered_iff h hrequest).1 hdelivered
      -- The call waits under the number of its request, which is the one the answer names.
      refine ⟨_, hevent, (mem_finished_answer t).2
        ⟨_, (t.mem_waiting _).2 ⟨begun, hawaits⟩, rfl, rfl, ?_⟩⟩
      exact (patchFor_after hdelivered.later h result patch).2 hpatch

/-- A call sends what its two inputs ask for. -/
theorem sendsAt_iff (h : Begins events call begun countryCode vatNumber token)
    {request : Request} :
    SendsAt events begun request ↔
      Request.ofInputs? countryCode vatNumber token = some request := by
  rw [SendsAt, Autofill.run_outcome, h.event]
  cases hrequest : Request.ofInputs? countryCode vatNumber token with
  | none => simp [Autofill.step, Autofill.focusOut_of_none hrequest]
  | some asked => simp [Autofill.step, Autofill.focusOut_of_some hrequest]

/-- An answer is valid, and no call begins between two steps. -/
def TakesEffect (events : List LookupEvent) (begun step : Nat)
    (result : Except LookupError Answer) : Prop :=
  (∃ answer, result = .ok answer ∧ answer.valid = true) ∧ NoCallBetween events begun step

/-- When a call ends with a patch. -/
theorem endsAt_some_iff (h : Begins events call begun countryCode vatNumber token)
    {patch : Patch} :
    EndsAt events call step (some patch) ↔
      ∃ request answer, SendsAt events begun request ∧ Delivered events begun step (.ok answer) ∧
        answer.valid = true ∧ Patch.ofAnswer? answer = some patch ∧
        NoCallBetween events begun step := by
  simp only [endsAt_iff h, sendsAt_iff h]
  constructor
  · intro hcases
    -- Neither a call that sent nothing nor one that was superseded ends with a patch.
    rcases hcases with ⟨-, -, hpatch⟩ | ⟨request, result, hrequest, hdelivered, hpatch⟩
    · cases hpatch
    · rcases hpatch with ⟨hbetween, hpatch⟩ | ⟨-, hpatch⟩
      · obtain ⟨answer, rfl, hvalid, hpatch⟩ := conclude_eq_some_iff.1 hpatch.symm
        exact ⟨request, answer, hrequest, hdelivered, hvalid, hpatch, hbetween⟩
      · cases hpatch
  · intro hexists
    obtain ⟨request, answer, hrequest, hdelivered, hvalid, hpatch, hbetween⟩ := hexists
    have hconclude : (conclude request (.ok answer)).1 = some patch :=
      conclude_eq_some_iff.2 ⟨answer, rfl, hvalid, hpatch⟩
    exact .inr ⟨request, .ok answer, hrequest, hdelivered, .inl ⟨hbetween, hconclude.symm⟩⟩

/-- When a call ends with none. -/
theorem endsAt_none_iff (h : Begins events call begun countryCode vatNumber token) :
    EndsAt events call step none ↔
      ((∀ request, ¬SendsAt events begun request) ∧ step = begun) ∨
      ∃ request result, SendsAt events begun request ∧ Delivered events begun step result ∧
        ¬TakesEffect events begun step result := by
  simp only [endsAt_iff h, sendsAt_iff h]
  constructor
  · intro hcases
    rcases hcases with ⟨hnone, hstep, -⟩ | ⟨request, result, hrequest, hdelivered, hpatch⟩
    · exact .inl ⟨by simp [hnone], hstep⟩
    · refine .inr ⟨request, result, hrequest, hdelivered, fun heffect => ?_⟩
      rcases hpatch with ⟨-, hpatch⟩ | ⟨hnot, -⟩
      · exact conclude_eq_none_iff.1 hpatch.symm heffect.1
      · exact hnot heffect.2
  · intro hcases
    rcases hcases with ⟨hnone, hstep⟩ | ⟨request, result, hrequest, hdelivered, hnot⟩
    -- Nothing was sent, so the call ended where it began.
    · exact .inl ⟨Option.eq_none_iff_forall_ne_some.2 hnone, hstep, trivial⟩
    · refine .inr ⟨request, result, hrequest, hdelivered, ?_⟩
      by_cases hbetween : NoCallBetween events begun step
      · -- The call was not superseded, so it is the answer that is not valid.
        have hinvalid := fun hvalid => hnot ⟨hvalid, hbetween⟩
        exact .inl ⟨hbetween, (conclude_eq_none_iff.2 hinvalid).symm⟩
      · exact .inr ⟨hbetween, trivial⟩

/-- A call ends with a patch exactly if it sent a request, the answer to that is a valid one and
gives the patch, and no call began in between. In every other case in which it sent nothing or its
answer arrives, it ends with none. -/
theorem call_ends_iff (h : Begins events call begun countryCode vatNumber token) (step : Nat) :
    (∀ patch, EndsAt events call step (some patch) ↔
      ∃ request answer, SendsAt events begun request ∧ Delivered events begun step (.ok answer) ∧
        answer.valid = true ∧ Patch.ofAnswer? answer = some patch ∧
        NoCallBetween events begun step) ∧
    (EndsAt events call step none ↔
      ((∀ request, ¬SendsAt events begun request) ∧ step = begun) ∨
      ∃ request result, SendsAt events begun request ∧ Delivered events begun step result ∧
        ¬TakesEffect events begun step result) :=
  ⟨fun _ => endsAt_some_iff h, endsAt_none_iff h⟩

/-- Two calls, of which the later one is answered first. -/
def overtaking : List LookupEvent := [
  .focusOut "CZ" "111" "token",
  .focusOut "cz" " 222" "token",
  .answer 1 (.ok { valid := true, name := some "Second" }),
  .answer 0 (.ok { valid := true, name := some "First" })]

/-- The later call fills in its answer, and the earlier one, which it overtook, nothing. -/
theorem call_ends_overtaking :
    Begins overtaking 0 0 "CZ" "111" "token" ∧ Begins overtaking 1 1 "cz" " 222" "token" ∧
      EndsAt overtaking 1 2 (some { name := some "Second" }) ∧ EndsAt overtaking 0 3 none := by
  have hfirst : Begins overtaking 0 0 "CZ" "111" "token" := ⟨rfl, rfl⟩
  have hsecond : Begins overtaking 1 1 "cz" " 222" "token" := ⟨rfl, rfl⟩
  have hnumber : requestCount (overtaking.take 1) = 1 := by decide +kernel
  refine ⟨hfirst, hsecond, ((call_ends_iff hsecond 2).1 _).2 ?_, (call_ends_iff hfirst 3).2.2 ?_⟩
  · refine ⟨⟨"CZ222", "token"⟩, { valid := true, name := some "Second" }, ?_, ?_, rfl, ?_, ?_⟩
    · exact ⟨{ sent := [⟨"CZ222", "token"⟩] }, by decide +kernel, rfl⟩
    · refine ⟨by decide, by rw [hnumber]; rfl, ?_⟩
      intro i other hi hlt
      omega
    · decide +kernel
    · intro i countryCode vatNumber token hi hlt
      omega
  · refine .inr ⟨⟨"CZ111", "token"⟩, .ok { valid := true, name := some "First" }, ?_, ?_, ?_⟩
    · exact ⟨{ sent := [⟨"CZ111", "token"⟩] }, by decide +kernel, rfl⟩
    · refine ⟨by decide, rfl, ?_⟩
      intro i other hi hlt
      have hsteps : i = 1 ∨ i = 2 := by omega
      rcases hsteps with rfl | rfl
      · simp [overtaking]
      · simp [overtaking, requestCount]
    · intro h
      exact h.2 1 "cz" " 222" "token" (by decide) (by decide) rfl

end DonationSite.Vat
