import DonationSite.Proofs.List
import DonationSite.Vat.Autofill

/-!
# Histories of lookups

The calls and requests of `Autofill` are numbered, and what a call does when its answer arrives
depends on how many calls began before and since. This file relates the state after any run to the
list of events that led to it, its history: how many calls began, how many requests were sent, and
which calls wait for an answer.

## Key results

- `Autofill.tracks_after`: the state after a run says what its history says
- `Tracks.find?_waiting`: an answer reaches the one waiting call whose request it names
- `Tracks.isLatest_iff`: a waiting call is the latest one exactly if no call began since
- `Tracks.isLatest_eq_words`: words of 64 bits do to tell the latest call
- `Autofill.run_outcome`: the outcome of a step is that of its event after the history before it
-/

namespace DonationSite.Vat

/-! ### What a history says -/

namespace LookupEvent

/-- Whether a call begins with the event. -/
def isFocusOut : LookupEvent → Bool
  | .focusOut .. => true
  | .answer .. => false

/-- The request that goes out with the event. -/
def request? : LookupEvent → Option Request
  | .focusOut countryCode vatNumber token => Request.ofInputs? countryCode vatNumber token
  | .answer .. => none

/-- An event with a request begins a call: answers send nothing. -/
theorem isFocusOut_of_request? {event : LookupEvent} (h : event.request?.isSome = true) :
    event.isFocusOut = true := by
  cases event with
  | focusOut => rfl
  | answer => exact absurd h (by simp [request?])

end LookupEvent

/-- How many calls begin in a history. -/
def callCount (history : List LookupEvent) : Nat :=
  history.countP (·.isFocusOut)

/-- How many requests go out in a history. -/
def requestCount (history : List LookupEvent) : Nat :=
  history.countP (·.request?.isSome)

/-- A call began at a step of a history and still waits for its answer. -/
structure Awaits (history : List LookupEvent) (begun : Nat) (waiting : Waiting) : Prop where
  sent : ∃ event, history[begun]? = some event ∧ event.request? = some waiting.request
  call : waiting.call = callCount (history.take begun)
  number : waiting.number = requestCount (history.take begun)
  unanswered : ∀ i result, begun < i → history[i]? ≠ some (.answer waiting.number result)

/-- A state says of the calls and requests what a history says. -/
structure Tracks (history : List LookupEvent) (a : Autofill) : Prop where
  calls : a.calls = callCount history
  sent : a.sent = requestCount history
  mem_waiting : ∀ waiting, waiting ∈ a.waiting ↔ ∃ begun, Awaits history begun waiting

/-- One more event adds one to the count of calls if a call begins with it. -/
theorem callCount_concat (history : List LookupEvent) (event : LookupEvent) :
    callCount (history ++ [event]) = callCount history + if event.isFocusOut then 1 else 0 := by
  rw [callCount, List.countP_append, List.countP_singleton]
  rfl

/-- One more event adds one to the count of requests if a request goes out with it. -/
theorem requestCount_concat (history : List LookupEvent) (event : LookupEvent) :
    requestCount (history ++ [event]) =
      requestCount history + if event.request?.isSome then 1 else 0 := by
  rw [requestCount, List.countP_append, List.countP_singleton]
  rfl

namespace Awaits

variable {history : List LookupEvent} {begun : Nat} {waiting : Waiting}

/-- A call that waits began inside the history. -/
theorem begun_lt (h : Awaits history begun waiting) : begun < history.length := by
  obtain ⟨event, hget, -⟩ := h.sent
  exact (List.getElem?_eq_some_iff.1 hget).1

/-- The event that sent a waiting call's request is the one the call began with. -/
theorem begins (h : Awaits history begun waiting) :
    ∃ event, history[begun]? = some event ∧ event.isFocusOut = true := by
  obtain ⟨event, hget, hrequest⟩ := h.sent
  exact ⟨event, hget, LookupEvent.isFocusOut_of_request? (by rw [hrequest]; rfl)⟩

/-- A step tells the call that began with it. -/
theorem eq_of_begun {waiting' : Waiting} (h : Awaits history begun waiting)
    (h' : Awaits history begun waiting') : waiting = waiting' := by
  obtain ⟨event, hget, hrequest⟩ := h.sent
  obtain ⟨event', hget', hrequest'⟩ := h'.sent
  -- The two steps are one, so the requests agree, and the counts before them too.
  have hsame : event = event' := Option.some.inj (hget.symm.trans hget')
  rw [hsame, hrequest'] at hrequest
  have hcall : waiting.call = waiting'.call := h.call.trans h'.call.symm
  have hnumber : waiting.number = waiting'.number := h.number.trans h'.number.symm
  obtain ⟨call, number, request⟩ := waiting
  obtain ⟨call', number', request'⟩ := waiting'
  cases hcall
  cases hnumber
  cases hrequest
  rfl

/-- The number of its request tells a waiting call. -/
theorem eq_of_number {begun' : Nat} {waiting' : Waiting} (h : Awaits history begun waiting)
    (h' : Awaits history begun' waiting') (heq : waiting.number = waiting'.number) :
    waiting = waiting' := by
  obtain ⟨event, hget, hrequest⟩ := h.sent
  obtain ⟨event', hget', hrequest'⟩ := h'.sent
  -- Each of the two steps adds one to the count, so the count before them tells them apart.
  rw [h.number, h'.number] at heq
  have hbegun : begun = begun' :=
    List.countP_take_inj hget (by rw [hrequest]; rfl) hget' (by rw [hrequest']; rfl) heq
  rw [← hbegun] at h'
  exact h.eq_of_begun h'

/-- The number of a waiting call tells it. -/
theorem eq_of_call {begun' : Nat} {waiting' : Waiting} (h : Awaits history begun waiting)
    (h' : Awaits history begun' waiting') (heq : waiting.call = waiting'.call) :
    waiting = waiting' := by
  obtain ⟨event, hget, hbegins⟩ := h.begins
  obtain ⟨event', hget', hbegins'⟩ := h'.begins
  rw [h.call, h'.call] at heq
  have hbegun : begun = begun' := List.countP_take_inj hget hbegins hget' hbegins' heq
  rw [← hbegun] at h'
  exact h.eq_of_begun h'

/-- An event leaves a call that began before it waiting, unless it is the answer to its request. -/
theorem concat_iff_of_lt {event : LookupEvent} (hlt : begun < history.length) :
    Awaits (history ++ [event]) begun waiting ↔
      Awaits history begun waiting ∧ ∀ result, event ≠ .answer waiting.number result := by
  have hget : (history ++ [event])[begun]? = history[begun]? := List.getElem?_append_left hlt
  have htake : (history ++ [event]).take begun = history.take begun :=
    List.take_append_of_le_length (Nat.le_of_lt hlt)
  constructor
  · intro h
    refine ⟨⟨?_, ?_, ?_, ?_⟩, ?_⟩
    · rw [← hget]; exact h.sent
    · rw [← htake]; exact h.call
    · rw [← htake]; exact h.number
    · intro i result hi hanswer
      refine h.unanswered i result hi ?_
      rw [List.getElem?_append_left (List.getElem?_eq_some_iff.1 hanswer).1, hanswer]
    · intro result heq
      refine h.unanswered history.length result hlt ?_
      rw [List.getElem?_concat_length, heq]
  · intro hboth
    obtain ⟨h, hne⟩ := hboth
    refine ⟨?_, ?_, ?_, ?_⟩
    · rw [hget]; exact h.sent
    · rw [htake]; exact h.call
    · rw [htake]; exact h.number
    · intro i result hi hanswer
      rcases List.getElem?_concat_eq_some_iff.1 hanswer with hanswer | ⟨-, hanswer⟩
      · exact h.unanswered i result hi hanswer
      · exact hne result hanswer

/-- The call that begins with the last event waits if it sends a request. -/
theorem concat_length_iff {event : LookupEvent} :
    Awaits (history ++ [event]) history.length waiting ↔
      event.request? = some waiting.request ∧ waiting.call = callCount history ∧
        waiting.number = requestCount history := by
  have hget : (history ++ [event])[history.length]? = some event := List.getElem?_concat_length
  have htake : (history ++ [event]).take history.length = history := List.take_left
  constructor
  · intro h
    obtain ⟨event', hget', hrequest⟩ := h.sent
    rw [hget] at hget'
    cases hget'
    exact ⟨hrequest, by rw [h.call, htake], by rw [h.number, htake]⟩
  · intro hboth
    obtain ⟨hrequest, hcall, hnumber⟩ := hboth
    refine ⟨⟨event, hget, hrequest⟩, by rw [htake, hcall], by rw [htake, hnumber], ?_⟩
    -- No event comes after the last one.
    intro i result hi hanswer
    rcases List.getElem?_concat_eq_some_iff.1 hanswer with hanswer | ⟨hlast, -⟩
    · have := (List.getElem?_eq_some_iff.1 hanswer).1
      omega
    · omega

/-- After one more event those wait that waited and were not answered by it, and the call that
began with it, if it sent a request. -/
theorem exists_concat_iff {event : LookupEvent} :
    (∃ begun, Awaits (history ++ [event]) begun waiting) ↔
      ((∃ begun, Awaits history begun waiting) ∧ ∀ result, event ≠ .answer waiting.number result) ∨
      (event.request? = some waiting.request ∧ waiting.call = callCount history ∧
        waiting.number = requestCount history) := by
  constructor
  · intro hexists
    obtain ⟨begun, h⟩ := hexists
    have hlt := h.begun_lt
    rw [List.length_append, List.length_singleton] at hlt
    -- The call began with the last event or before it.
    rcases Nat.lt_or_eq_of_le (Nat.le_of_lt_succ hlt) with hlt | heq
    · obtain ⟨h, hne⟩ := (concat_iff_of_lt hlt).1 h
      exact .inl ⟨⟨begun, h⟩, hne⟩
    · subst heq
      exact .inr (concat_length_iff.1 h)
  · intro hcases
    rcases hcases with ⟨⟨begun, h⟩, hne⟩ | h
    · exact ⟨begun, (concat_iff_of_lt h.begun_lt).2 ⟨h, hne⟩⟩
    · exact ⟨history.length, concat_length_iff.2 h⟩

end Awaits

/-! ### What a state knows of its history -/

namespace Tracks

variable {history : List LookupEvent} {a : Autofill}

/-- A waiting call has a smaller number than the next call will get. -/
theorem call_lt (t : Tracks history a) {waiting : Waiting} (h : waiting ∈ a.waiting) :
    waiting.call < a.calls := by
  obtain ⟨begun, hawaits⟩ := (t.mem_waiting waiting).1 h
  obtain ⟨event, hget, hbegins⟩ := hawaits.begins
  have hlt := List.countP_take_lt hawaits.begun_lt hget hbegins
  rw [List.take_length] at hlt
  rw [hawaits.call, t.calls]
  exact hlt

/-- No two waiting calls of a state wait for the same request. -/
theorem eq_of_number (t : Tracks history a) {v w : Waiting} (hv : v ∈ a.waiting)
    (hw : w ∈ a.waiting) (heq : v.number = w.number) : v = w := by
  obtain ⟨_, hv⟩ := (t.mem_waiting v).1 hv
  obtain ⟨_, hw⟩ := (t.mem_waiting w).1 hw
  exact hv.eq_of_number hw heq

/-- No two waiting calls of a state have the same number. -/
theorem eq_of_call (t : Tracks history a) {v w : Waiting} (hv : v ∈ a.waiting)
    (hw : w ∈ a.waiting) (heq : v.call = w.call) : v = w := by
  obtain ⟨_, hv⟩ := (t.mem_waiting v).1 hv
  obtain ⟨_, hw⟩ := (t.mem_waiting w).1 hw
  exact hv.eq_of_call hw heq

/-- An answer reaches the one waiting call whose request it names. -/
theorem find?_waiting (t : Tracks history a) {number : Nat} {waiting : Waiting} :
    a.waiting.find? (·.number == number) = some waiting ↔
      waiting ∈ a.waiting ∧ waiting.number = number := by
  constructor
  · intro h
    exact ⟨List.mem_of_find?_eq_some h, by simpa using List.find?_some h⟩
  · intro hboth
    obtain ⟨hmem, hnumber⟩ := hboth
    cases hfind : a.waiting.find? (·.number == number) with
    -- The call looked for is itself a waiting one, so the search finds something, and what it finds
    -- has the same request.
    | none =>
      rw [List.find?_eq_none] at hfind
      exact absurd (hfind waiting hmem) (by simp [hnumber])
    | some found =>
      have hfound : found.number = number := by simpa using List.find?_some hfind
      have heq : found = waiting :=
        t.eq_of_number (List.mem_of_find?_eq_some hfind) hmem (hfound.trans hnumber.symm)
      rw [heq]

/-- A call that began at a step is the latest one exactly if no call began since. -/
theorem isLatest_iff (t : Tracks history a) {begun : Nat} {event : LookupEvent}
    (hget : history[begun]? = some event) (hbegins : event.isFocusOut = true) :
    a.isLatest (callCount (history.take begun)) = true ↔
      ∀ i later, begun < i → history[i]? = some later → later.isFocusOut = false := by
  have hlt : begun < history.length := (List.getElem?_eq_some_iff.1 hget).1
  have hnext : callCount (history.take (begun + 1)) = callCount (history.take begun) + 1 :=
    List.countP_take_succ hget hbegins
  -- Counting its own beginning too, the call is the latest if the count has not grown since.
  rw [Autofill.isLatest, beq_iff_eq, t.calls, ← hnext]
  have hall : callCount history = callCount (history.take history.length) := by
    rw [List.take_length]
  rw [hall]
  refine (List.countP_take_eq_iff hlt).trans ?_
  constructor
  · intro h i later hi hlater
    exact h i later hi (List.getElem?_eq_some_iff.1 hlater).1 hlater
  · intro h i later hi _ hlater
    exact h i later hi hlater

/-- Comparing words of 64 bits tells the latest call as well, while fewer calls began than there are
words. -/
theorem isLatest_eq_words (t : Tracks history a) (hcalls : callCount history < UInt64.size)
    {waiting : Waiting} (h : waiting ∈ a.waiting) :
    a.isLatest waiting.call = (UInt64.ofNat (waiting.call + 1) == UInt64.ofNat a.calls) := by
  have hbound : a.calls < UInt64.size := by rw [t.calls]; exact hcalls
  have hnext : waiting.call + 1 < UInt64.size := Nat.lt_of_le_of_lt (t.call_lt h) hbound
  rw [Autofill.isLatest, Bool.eq_iff_iff, beq_iff_eq, beq_iff_eq]
  constructor
  · intro heq
    rw [heq]
  · intro heq
    -- Neither word wraps around, so equal words come from equal numbers.
    have htoNat := congrArg UInt64.toNat heq
    rw [UInt64.toNat_ofNat_of_lt' hnext, UInt64.toNat_ofNat_of_lt' hbound] at htoNat
    exact htoNat

end Tracks

/-! ### One event -/

namespace Autofill

variable {history : List LookupEvent} {a : Autofill}

/-- A call with nothing to ask is counted and ends at once, without a form. -/
theorem focusOut_of_none {countryCode vatNumber token : String}
    (h : Request.ofInputs? countryCode vatNumber token = none) :
    a.focusOut countryCode vatNumber token =
      ({ a with calls := a.calls + 1 }, { finished := [⟨a.calls, none⟩] }) := by
  rw [focusOut, h]

/-- A call with something to ask sends its request and waits under the two running numbers. -/
theorem focusOut_of_some {countryCode vatNumber token : String} {request : Request}
    (h : Request.ofInputs? countryCode vatNumber token = some request) :
    a.focusOut countryCode vatNumber token =
      ({ calls := a.calls + 1
         sent := a.sent + 1
         waiting := a.waiting ++ [⟨a.calls, a.sent, request⟩] },
       { sent := [request] }) := by
  rw [focusOut, h]

/-- An answer to a request nobody waits for changes nothing and says nothing. -/
theorem answer_of_none {number : Nat} (h : a.waiting.find? (·.number == number) = none)
    (result : Except LookupError Answer) : a.answer number result = (a, {}) := by
  rw [answer, h]

/-- An answer ends the call that waits for it, with a form if the call is the latest one, else with
a note in the log that the answer was dropped. -/
theorem answer_of_some {number : Nat} {waiting : Waiting}
    (h : a.waiting.find? (·.number == number) = some waiting)
    (result : Except LookupError Answer) :
    a.answer number result =
      ({ a with waiting := a.waiting.filter (·.number != number) },
       if a.isLatest waiting.call then
         { finished := [⟨waiting.call, (conclude waiting.request result).1⟩]
           log := [(conclude waiting.request result).2] }
       else
         { finished := [⟨waiting.call, none⟩], log := [droppedLine waiting.request] }) := by
  rw [answer, h]
  dsimp only
  split <;> rfl

/-- An event sends what it asks for. -/
theorem sent_step (a : Autofill) (event : LookupEvent) :
    (a.step event).2.sent = event.request?.toList := by
  cases event with
  | focusOut countryCode vatNumber token =>
    rw [step, LookupEvent.request?]
    cases hrequest : Request.ofInputs? countryCode vatNumber token with
    | none => rw [focusOut_of_none hrequest]; rfl
    | some request => rw [focusOut_of_some hrequest]; rfl
  | answer number result =>
    rw [step]
    cases hfind : a.waiting.find? (·.number == number) with
    | none => rw [answer_of_none hfind]; rfl
    | some waiting =>
      rw [answer_of_some hfind]
      dsimp only
      split <;> rfl

/-- After the answer to a request the other calls still wait. -/
theorem answer_state (a : Autofill) (number : Nat) (result : Except LookupError Answer) :
    (a.answer number result).1 = { a with waiting := a.waiting.filter (·.number != number) } := by
  cases hfind : a.waiting.find? (·.number == number) with
  | none =>
    -- Nobody waits for the request, so the filter keeps everybody.
    rw [answer_of_none hfind]
    have hall : a.waiting.filter (·.number != number) = a.waiting := by
      rw [List.filter_eq_self]
      intro waiting hmem
      simpa using List.find?_eq_none.1 hfind waiting hmem
    rw [hall]
  | some waiting => rw [answer_of_some hfind]

/-- The beginning of a call keeps a state in step with its history. -/
theorem tracks_focusOut (t : Tracks history a) (countryCode vatNumber token : String) :
    Tracks (history ++ [.focusOut countryCode vatNumber token])
      (a.focusOut countryCode vatNumber token).1 := by
  cases hrequest : Request.ofInputs? countryCode vatNumber token with
  | none =>
    rw [focusOut_of_none hrequest]
    refine ⟨?_, ?_, fun waiting => ?_⟩
    · rw [callCount_concat, t.calls]; rfl
    · rw [requestCount_concat, t.sent]; simp [LookupEvent.request?, hrequest]
    · simp [t.mem_waiting, Awaits.exists_concat_iff, LookupEvent.request?, hrequest]
  | some request =>
    rw [focusOut_of_some hrequest]
    refine ⟨?_, ?_, fun waiting => ?_⟩
    · rw [callCount_concat, t.calls]; rfl
    · rw [requestCount_concat, t.sent]; simp [LookupEvent.request?, hrequest]
    · -- The new call is the one that `exists_concat_iff` adds.
      have hnew : waiting = ⟨a.calls, a.sent, request⟩ ↔
          some request = some waiting.request ∧ waiting.call = callCount history ∧
            waiting.number = requestCount history := by
        rw [t.calls, t.sent]
        obtain ⟨call, number, asked⟩ := waiting
        simp only [Waiting.mk.injEq, Option.some.injEq]
        constructor
        · intro hboth
          obtain ⟨hcall, hnumber, hasked⟩ := hboth
          exact ⟨hasked.symm, hcall, hnumber⟩
        · intro hboth
          obtain ⟨hasked, hcall, hnumber⟩ := hboth
          exact ⟨hcall, hnumber, hasked.symm⟩
      rw [List.mem_append, List.mem_singleton, hnew, t.mem_waiting]
      simp [Awaits.exists_concat_iff, LookupEvent.request?, hrequest]

/-- The arrival of an answer keeps a state in step with its history. -/
theorem tracks_answer (t : Tracks history a) (number : Nat)
    (result : Except LookupError Answer) :
    Tracks (history ++ [.answer number result]) (a.answer number result).1 := by
  rw [answer_state]
  refine ⟨?_, ?_, fun waiting => ?_⟩
  · rw [callCount_concat, t.calls]; rfl
  · rw [requestCount_concat, t.sent]; rfl
  -- The answer names the request of a waiting call exactly if the filter takes that call out.
  · have hne : (∀ r, LookupEvent.answer number result ≠ .answer waiting.number r) ↔
        waiting.number ≠ number := by
      constructor
      · intro h heq
        exact h result (by rw [heq])
      · intro h r heq
        cases heq
        exact h rfl
    rw [List.mem_filter, t.mem_waiting, Awaits.exists_concat_iff, hne, bne_iff_ne]
    simp [LookupEvent.request?]

/-- Every event keeps a state in step with its history. -/
theorem tracks_step (t : Tracks history a) (event : LookupEvent) :
    Tracks (history ++ [event]) (a.step event).1 := by
  cases event with
  | focusOut countryCode vatNumber token => exact tracks_focusOut t countryCode vatNumber token
  | answer number result => exact tracks_answer t number result

/-! ### Runs -/

/-- The first state is in step with the empty history: nothing was sent and nobody waits. -/
theorem tracks_nil : Tracks [] {} where
  calls := rfl
  sent := rfl
  mem_waiting := by
    intro waiting
    refine ⟨fun h => absurd h List.not_mem_nil, ?_⟩
    intro hexists
    obtain ⟨begun, h⟩ := hexists
    exact absurd h.begun_lt (Nat.not_lt_zero _)

/-- A run keeps a state in step with its history. -/
theorem tracks_run (t : Tracks history a) (events : List LookupEvent) :
    Tracks (history ++ events) (a.run events).1 := by
  -- The events taken move from the run to the history.
  induction events generalizing history a with
  | nil => rwa [List.append_nil]
  | cons event events ih =>
    have := ih (tracks_step t event)
    rwa [List.append_assoc] at this

/-- The state after a run from the start. -/
def after (history : List LookupEvent) : Autofill :=
  (run {} history).1

/-- The state after a run says of the calls and requests what its history says. -/
theorem tracks_after (history : List LookupEvent) : Tracks history (after history) :=
  tracks_run tracks_nil history

/-- A run takes its first event, then runs the others from there. -/
theorem run_cons (a : Autofill) (event : LookupEvent) (events : List LookupEvent) :
    a.run (event :: events) =
      (((a.step event).1.run events).1, (a.step event).2 :: ((a.step event).1.run events).2) := rfl

/-- A run of two histories one after the other is a run of the second from where the first ends. -/
theorem run_append (a : Autofill) (first second : List LookupEvent) :
    a.run (first ++ second) =
      (((a.run first).1.run second).1, (a.run first).2 ++ ((a.run first).1.run second).2) := by
  induction first generalizing a with
  | nil => rfl
  | cons event first ih =>
    rw [List.cons_append, run_cons, ih, run_cons]
    rfl

/-- A run has one outcome for every event. -/
theorem length_run (a : Autofill) (events : List LookupEvent) :
    (a.run events).2.length = events.length := by
  induction events generalizing a with
  | nil => rfl
  | cons event events ih => rw [run, List.length_cons, ih, List.length_cons]

/-- The outcome of a step is that of its event after the history before it. -/
theorem run_outcome (events : List LookupEvent) (step : Nat) :
    (run {} events).2[step]? =
      events[step]?.map fun event => ((after (events.take step)).step event).2 := by
  cases hget : events[step]? with
  | none =>
    rw [List.getElem?_eq_none_iff] at hget
    exact List.getElem?_eq_none (by rwa [length_run])
  | some event =>
    have hlt := (List.getElem?_eq_some_iff.1 hget).1
    -- Cut the run before and after the step.
    have hsplit : events = events.take step ++ event :: events.drop (step + 1) := by
      rw [← (List.getElem?_eq_some_iff.1 hget).2, ← List.drop_eq_getElem_cons hlt,
        List.take_append_drop]
    have hlen : (run {} (events.take step)).2.length = step := by
      rw [length_run, List.length_take_of_le (Nat.le_of_lt hlt)]
    conv => lhs; rw [hsplit, run_append]
    rw [List.getElem?_append_right (Nat.le_of_eq hlen), hlen, Nat.sub_self]
    rfl

end Autofill

end DonationSite.Vat
