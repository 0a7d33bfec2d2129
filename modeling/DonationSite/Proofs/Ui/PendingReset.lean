import DonationSite.Proofs.Ui.Confirmation

/-!
# The reset of a confirmation

A clipboard button never stays on its confirmation: whatever turns it to `copied` starts a timer as
well, and the timer that is due first turns it back. So a button that says that it has copied has a
running timer, also if a write that failed has put it there. In time, a running timer was started at
most the reset time ago, since it is reported just when it is due.

## Key results

- `Change.running_ne_nil`: every step keeps a timer running under a confirmation
- `Clocked.onTime_run`: running timers were started at most the reset time ago
- `copied_only_with_reset`: a button that says that it has copied is about to be turned back
-/

namespace DonationSite.Ui.ClipboardButton

/-! ### Running timers -/

section Steps

variable {b b' : ClipboardButton} {next : Step} {started : List Nat}

/-- A step that leaves the button saying that it has copied leaves a timer running. -/
theorem Change.running_ne_nil (h : Change b next b' started)
    (hb : b.face = .copied → b.running ≠ []) (hface : b'.face = .copied) : b'.running ≠ [] := by
  cases h with
  | idle | click => exact hb hface
  | shown =>
    -- The timer that was started with the confirmation is the last of the running ones.
    simp
  | failed | due => simp at hface

/-- No step changes what a button says at rest. -/
theorem Change.idleLabel_eq (h : Change b next b' started) : b'.idleLabel = b.idleLabel := by
  cases h <;> rfl

/-- After steps a timer runs if the button says that it has copied, as long as that was so
before. -/
theorem running_ne_nil_after (hb : b.face = .copied → b.running ≠ []) (steps : List Step)
    (hface : (component.after b steps).face = .copied) :
    (component.after b steps).running ≠ [] := by
  induction steps using List.reverseRecOn with
  | nil => exact hb hface
  | append_singleton steps next ih =>
    rw [Component.after_concat] at hface ⊢
    exact (change_step _ next).running_ne_nil ih hface

/-- After steps a button says at rest what it said at first. -/
theorem idleLabel_after (b : ClipboardButton) (steps : List Step) :
    (component.after b steps).idleLabel = b.idleLabel := by
  induction steps using List.reverseRecOn with
  | nil => rfl
  | append_singleton steps next ih =>
    rw [Component.after_concat, (change_step _ next).idleLabel_eq, ih]

end Steps

/-! ### Reachable buttons -/

/-- A button can be what it is after steps since it was made. Timers may be due in any order. -/
def Reachable (text idleLabel : String) (hasWindow : Bool) (b : ClipboardButton) : Prop :=
  ∃ steps, b = component.after (fresh text idleLabel hasWindow) steps

/-- The button says what it says at rest, and looks like one that was just made. -/
structure IsResting (idleLabel : String) (b : ClipboardButton) : Prop where
  label : b.face.label b.idleLabel = idleLabel
  view (text : String) (hasWindow : Bool) :
    component.view b = component.view (fresh text idleLabel hasWindow)

namespace Reachable

variable {text idleLabel : String} {hasWindow : Bool} {b : ClipboardButton}

/-- A reachable button that says that it has copied has a running timer. -/
theorem running_ne_nil (h : Reachable text idleLabel hasWindow b) (hface : b.face = .copied) :
    b.running ≠ [] := by
  obtain ⟨steps, rfl⟩ := h
  have hfresh : (fresh text idleLabel hasWindow).face = .copied →
      (fresh text idleLabel hasWindow).running ≠ [] := by simp [fresh]
  exact running_ne_nil_after hfresh steps hface

/-- A reachable button says at rest what it was made to say. -/
theorem idleLabel_eq (h : Reachable text idleLabel hasWindow b) : b.idleLabel = idleLabel := by
  obtain ⟨steps, rfl⟩ := h
  exact idleLabel_after (fresh text idleLabel hasWindow) steps

/-- Without a running timer a button is at rest. -/
theorem isResting (h : Reachable text idleLabel hasWindow b) (hrunning : b.running = []) :
    IsResting idleLabel b := by
  have hlabel := h.idleLabel_eq
  -- A button that says that it has copied would have a running timer.
  have hface : b.face = .idle := by
    cases hface : b.face with
    | idle => rfl
    | copied => exact absurd hrunning (h.running_ne_nil hface)
  constructor
  · rw [hface, hlabel]
    rfl
  · intro text hasWindow
    show b.view = (fresh text idleLabel hasWindow).view
    simp [ClipboardButton.view, fresh, hface, hlabel]

end Reachable

/-! ### Running timers in time -/

/-- What happens to the button in a tick, if anything does. -/
def Tick.step? : Tick → Option Step
  | .wait _ => none
  | .step next => some next

namespace Clocked

variable {c c' : Clocked} {tick : Tick} {ticks : List Tick}

/-- The steps among the ticks of a run make the button what it is in the end. -/
theorem button_run (h : c.run? ticks = some c') :
    c'.button = component.after c.button (ticks.filterMap Tick.step?) := by
  induction ticks using List.reverseRecOn generalizing c' with
  | nil => cases h; rfl
  | append_singleton ticks tick ih =>
    obtain ⟨d, hticks, htick⟩ := run?_concat_eq_some_iff.1 h
    have hbutton := ih hticks
    rw [List.filterMap_append]
    cases tick with
    | wait milliseconds =>
      obtain ⟨-, rfl⟩ := tick?_wait_eq_some_iff.1 htick
      -- Time that passes is no step, and leaves the button as it is.
      have hsteps : [Tick.wait milliseconds].filterMap Tick.step? = [] := rfl
      rw [hsteps, List.append_nil, ← hbutton]
    | step next =>
      obtain ⟨-, rfl⟩ := tick?_step_eq_some_iff.1 htick
      have hsteps : [Tick.step next].filterMap Tick.step? = [next] := rfl
      rw [hsteps, Component.after_concat, ← hbutton]
      rfl

/-- A timer was started at most the reset time ago. -/
def IsRecent (c : Clocked) (number : Nat) : Prop :=
  ∃ started, started ≤ c.now ∧ c.now ≤ started + Settings.copiedResetMs ∧
    c.deadlines[number]? = some (started + Settings.copiedResetMs)

/-- Every running timer was started at most the reset time ago. -/
structure OnTime (c : Clocked) : Prop where
  aligned : c.Aligned
  recent : ∀ number ∈ c.button.running, c.IsRecent number

namespace OnTime

/-- Time passes only until a running timer is due. -/
theorem wait (h : OnTime c) {milliseconds : Nat}
    (hfree : c.isFreeUntil (c.now + milliseconds) = true) :
    OnTime { c with now := c.now + milliseconds } := by
  refine ⟨h.aligned, fun number hmem => ?_⟩
  obtain ⟨started, hstarted, -, hdeadline⟩ := h.recent number hmem
  have hdue := List.all_eq_true.1 hfree number hmem
  rw [hdeadline, Option.all_some, decide_eq_true_eq] at hdue
  have hlater : started ≤ c.now + milliseconds := by omega
  exact ⟨started, hlater, hdue, hdeadline⟩

/-- A step starts timers now, and keeps the deadlines of the others. -/
theorem step (h : OnTime c) (next : Step) (haligned : (c.afterStep next).Aligned) :
    OnTime (c.afterStep next) := by
  refine ⟨haligned, ?_⟩
  have hchange := change_step c.button next
  rw [afterStep]
  generalize (component.step c.button next).state = b' at hchange ⊢
  generalize startedTimers (component.step c.button next) = started at hchange ⊢
  -- A timer that ran before the step has its deadline among the old ones.
  have hold (number : Nat) (hmem : number ∈ c.button.running) :
      IsRecent ⟨b', c.now, c.deadlines ++ started.map (c.now + ·)⟩ number := by
    obtain ⟨begun, hbegun, hnow, hdeadline⟩ := h.recent number hmem
    have hlt := (List.getElem?_eq_some_iff.1 hdeadline).1
    exact ⟨begun, hbegun, hnow, by rw [List.getElem?_append_left hlt, hdeadline]⟩
  cases hchange with
  | idle | click | failed => exact hold
  | shown =>
    intro number hmem
    rcases List.mem_append.1 hmem with hmem | hmem
    · exact hold number hmem
    -- The new timer is the one that gets the new deadline.
    · have hnumber : number = c.deadlines.length := by
        rw [List.mem_singleton.1 hmem]
        exact h.aligned.symm
      have hnew : (c.deadlines ++ [c.now + Settings.copiedResetMs])[number]? =
          some (c.now + Settings.copiedResetMs) := by
        rw [hnumber, List.getElem?_concat_length]
      exact ⟨c.now, Nat.le_refl _, Nat.le_add_right _ _, hnew⟩
  | due => exact fun number hmem => hold number (List.mem_filter.1 hmem).1

end OnTime

/-- A run keeps the running timers recent. -/
theorem onTime_run (h : c.run? ticks = some c') (hc : OnTime c) : OnTime c' := by
  induction ticks using List.reverseRecOn generalizing c' with
  | nil => cases h; exact hc
  | append_singleton ticks tick ih =>
    obtain ⟨d, hticks, htick⟩ := run?_concat_eq_some_iff.1 h
    have hd := ih hticks
    have haligned := aligned_tick htick hd.aligned
    cases tick with
    | wait milliseconds =>
      obtain ⟨hfree, rfl⟩ := tick?_wait_eq_some_iff.1 htick
      exact hd.wait hfree
    | step next =>
      obtain ⟨-, rfl⟩ := tick?_step_eq_some_iff.1 htick
      exact hd.step next haligned

/-- A button that was just made has no timers. -/
theorem onTime_fresh (text idleLabel : String) (hasWindow : Bool) :
    OnTime { button := fresh text idleLabel hasWindow } :=
  ⟨rfl, fun _ hmem => absurd hmem List.not_mem_nil⟩

end Clocked

/-! ### The end of a confirmation -/

/-- A clipboard button never stays on its confirmation. Whatever happens to it, a timer runs while
it says that it has copied, so once no write and no timer is outstanding it says what it says at
rest. If timers are reported when they are due, such a timer was started at most the reset time
ago. -/
theorem copied_only_with_reset (text idleLabel : String) (hasWindow : Bool) :
    (∀ b, Reachable text idleLabel hasWindow b →
      (b.face = .copied → b.running ≠ []) ∧
      (b.pending = [] → b.running = [] → IsResting idleLabel b)) ∧
    ∀ ticks c, Clocked.run? { button := fresh text idleLabel hasWindow } ticks = some c →
      Reachable text idleLabel hasWindow c.button ∧
      (c.button.face = .copied → ∃ number ∈ c.button.running, c.IsRecent number) := by
  refine ⟨fun b hb => ⟨hb.running_ne_nil, fun _ hnone => hb.isResting hnone⟩, ?_⟩
  intro ticks c hrun
  -- The ticks contain the steps that lead to the button.
  have hreachable : Reachable text idleLabel hasWindow c.button := ⟨_, Clocked.button_run hrun⟩
  have htime := Clocked.onTime_run hrun (Clocked.onTime_fresh text idleLabel hasWindow)
  refine ⟨hreachable, fun hface => ?_⟩
  obtain ⟨number, hmem⟩ := List.exists_mem_of_ne_nil _ (hreachable.running_ne_nil hface)
  exact ⟨number, hmem, htime.recent number hmem⟩

/-- Two clicks, the second while the button says that it has copied. The first timer turns the
button back, and then the second write fails. -/
def deniedLate : List Tick := [
  .step (.fire .click 0 ""),
  .step (.signal (.copied 0 none)),
  .wait 1500,
  .step (.fire .click 0 ""),
  .wait 500,
  .step (.signal (.due 0)),
  .wait 100,
  .step (.signal (.copied 1 (some "denied"))),
  .wait 2000]

/-- The button after that: the failure has put it on the confirmation again. -/
def confirmedByFailure : Clocked where
  button := { text := "text", face := .copied, writes := 2, timers := 2, running := [1] }
  now := 4100
  deadlines := [2000, 4100]

/-- A failure that puts the button on its confirmation has started a timer, which is due now. Once
that one is reported, the button is at rest. -/
theorem copied_only_with_reset_deniedLate :
    Clocked.run? { button := fresh "text" "Copy" true } deniedLate = some confirmedByFailure ∧
      confirmedByFailure.button.face = .copied ∧
      (∃ number ∈ confirmedByFailure.button.running, confirmedByFailure.IsRecent number) ∧
      IsResting "Copy" (confirmedByFailure.button.due 1) := by
  have hrun : Clocked.run? { button := fresh "text" "Copy" true } deniedLate =
      some confirmedByFailure := rfl
  obtain ⟨hreachable, hreset⟩ := copied_only_with_reset "text" "Copy" true
  refine ⟨hrun, rfl, (hreset deniedLate _ hrun).2 rfl, ?_⟩
  -- The report of the last timer is one more step.
  have hdue : Reachable "text" "Copy" true (confirmedByFailure.button.due 1) :=
    ⟨deniedLate.filterMap Tick.step? ++ [.signal (.due 1)], rfl⟩
  exact (hreachable _ hdue).2 rfl rfl

end DonationSite.Ui.ClipboardButton
