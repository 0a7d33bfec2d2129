import DonationSite.Proofs.Vat.History

/-!
# The current request

A request is current while the call that sent it waits for its answer and no call began since. At
most one request is current: a call that begins makes its own request the current one, or leaves
none current if it sends nothing, and the answer to the current request leaves none. Only the answer
to the current request is looked at.

## Key results

- `Tracks.isCurrent_focusOut_of_some`: a call that sends a request makes it the current one
- `Tracks.isCurrent_answer`: an answer leaves the current request current unless it is its answer
- `Tracks.not_isCurrent_of_superseded`: a request after which a call began is not current
- `Autofill.answer_eq_of_not_isCurrent`: what the answer to another request says does not matter
-/

namespace DonationSite.Vat

/-- A call that no later call has superseded waits for the answer to the request with a number. -/
def Autofill.IsCurrent (a : Autofill) (number : Nat) : Prop :=
  ∃ waiting ∈ a.waiting, waiting.number = number ∧ a.isLatest waiting.call = true

/-- The request with a number was sent, and a call began later. -/
def Superseded (history : List LookupEvent) (number : Nat) : Prop :=
  ∃ sent later, sent < later ∧
    (∃ event, history[sent]? = some event ∧ event.request?.isSome = true ∧
      requestCount (history.take sent) = number) ∧
    ∃ event, history[later]? = some event ∧ event.isFocusOut = true

namespace Tracks

variable {history : List LookupEvent} {a : Autofill}

/-- A call that begins supersedes those that wait. -/
theorem not_isLatest_succ (t : Tracks history a) {waiting : Waiting} (h : waiting ∈ a.waiting)
    {b : Autofill} (hcalls : b.calls = a.calls + 1) : b.isLatest waiting.call = false := by
  have hlt := t.call_lt h
  rw [Autofill.isLatest, hcalls, beq_eq_false_iff_ne]
  omega

/-- After a call that sends nothing no request is current. -/
theorem isCurrent_focusOut_of_none (t : Tracks history a) {countryCode vatNumber token : String}
    (h : Request.ofInputs? countryCode vatNumber token = none) (number : Nat) :
    ¬(a.focusOut countryCode vatNumber token).1.IsCurrent number := by
  rw [Autofill.focusOut_of_none h]
  intro hexists
  obtain ⟨waiting, hmem, _, hlatest⟩ := hexists
  rw [t.not_isLatest_succ hmem rfl] at hlatest
  cases hlatest

/-- After a call that sends a request that request is the current one, and no other is. -/
theorem isCurrent_focusOut_of_some (t : Tracks history a) {countryCode vatNumber token : String}
    {request : Request} (h : Request.ofInputs? countryCode vatNumber token = some request)
    (number : Nat) :
    (a.focusOut countryCode vatNumber token).1.IsCurrent number ↔ number = a.sent := by
  rw [Autofill.focusOut_of_some h]
  constructor
  · intro hexists
    obtain ⟨waiting, hmem, hnumber, hlatest⟩ := hexists
    -- The calls that waited before are superseded by the new one.
    rcases List.mem_append.1 hmem with hmem | hmem
    · rw [t.not_isLatest_succ hmem rfl] at hlatest
      cases hlatest
    · rw [List.mem_singleton.1 hmem] at hnumber
      exact hnumber.symm
  · intro hnumber
    refine ⟨⟨a.calls, a.sent, request⟩, ?_, hnumber.symm, ?_⟩
    · exact List.mem_append_right _ (List.mem_singleton.2 rfl)
    · simp [Autofill.isLatest]

/-- The answer to the current request leaves none current, and any other leaves it current. -/
theorem isCurrent_answer (t : Tracks history a) (answered : Nat)
    (result : Except LookupError Answer) (number : Nat) :
    (a.answer answered result).1.IsCurrent number ↔
      a.IsCurrent number ∧ ¬a.IsCurrent answered := by
  rw [Autofill.answer_state]
  constructor
  · intro hexists
    obtain ⟨waiting, hmem, hnumber, hlatest⟩ := hexists
    obtain ⟨hmem, hne⟩ := List.mem_filter.1 hmem
    refine ⟨⟨waiting, hmem, hnumber, hlatest⟩, ?_⟩
    intro hexists
    obtain ⟨other, hother, hanswered, hotherLatest⟩ := hexists
    -- Only one call can be the latest one.
    have hcall : waiting.call = other.call := by
      simp only [Autofill.isLatest, beq_iff_eq] at hlatest hotherLatest
      omega
    rw [t.eq_of_call hmem hother hcall, hanswered] at hne
    exact absurd hne (by simp)
  · intro hexists
    obtain ⟨⟨waiting, hmem, hnumber, hlatest⟩, hnot⟩ := hexists
    refine ⟨waiting, List.mem_filter.2 ⟨hmem, ?_⟩, hnumber, hlatest⟩
    -- If the answer named this request, it would be the answer to a current one.
    rw [bne_iff_ne]
    intro heq
    exact hnot ⟨waiting, hmem, heq, hlatest⟩

/-- A request after which a call began is not current. -/
theorem not_isCurrent_of_superseded (t : Tracks history a) {number : Nat}
    (h : Superseded history number) : ¬a.IsCurrent number := by
  intro hexists
  obtain ⟨waiting, hmem, hnumber, hlatest⟩ := hexists
  obtain ⟨sent, later, hlt, ⟨event, hsent, hrequest, hcount⟩, next, hlater, hbegins⟩ := h
  obtain ⟨begun, hawaits⟩ := (t.mem_waiting waiting).1 hmem
  obtain ⟨event', hget, hrequest'⟩ := hawaits.sent
  -- The number of the request tells the step at which it was sent.
  have hbegun : begun = sent := by
    refine List.countP_take_inj (p := (·.request?.isSome)) hget ?_ hsent hrequest ?_
    · rw [hrequest']; rfl
    · exact (hawaits.number.symm.trans hnumber).trans hcount.symm
  subst hbegun
  rw [hawaits.call, t.isLatest_iff hsent (LookupEvent.isFocusOut_of_request? hrequest)] at hlatest
  rw [hlatest later next hlt hlater] at hbegins
  cases hbegins

end Tracks

/-- What the answer to a request that is not current says does not matter. -/
theorem Autofill.answer_eq_of_not_isCurrent {a : Autofill} {number : Nat}
    (h : ¬a.IsCurrent number) (first second : Except LookupError Answer) :
    a.answer number first = a.answer number second := by
  cases hfind : a.waiting.find? (·.number == number) with
  | none => rw [answer_of_none hfind, answer_of_none hfind]
  | some waiting =>
    have hnumber : waiting.number = number := by simpa using List.find?_some hfind
    have hlatest : ¬a.isLatest waiting.call = true := fun hlatest =>
      h ⟨waiting, List.mem_of_find?_eq_some hfind, hnumber, hlatest⟩
    -- Both answers are dropped.
    rw [answer_of_some hfind, answer_of_some hfind, if_neg hlatest, if_neg hlatest]

end DonationSite.Vat
