import Mathlib.Data.List.Induction
import DonationSite.Proofs.Ui.ClipboardSteps

/-!
# How long a copy is confirmed

The clipboard button with the time that passes. A timer that the button starts is due a fixed time
later, and the browser reports it just then. After a write that succeeds the button says that it has
copied for that time, unless a timer that was started before is due in between, or another write
fails that was clicked on a button at rest. Both turn the button back too early.

## Key results

- `Confirmed.tick`: an undisturbed step keeps a confirmation
- `Clocked.tick_of_disturbs`: a disturbance ends it at once
- `shows_copied_iff`: when a copy is confirmed for the full time
-/

namespace DonationSite.Ui.ClipboardButton

/-! ### Runs in time -/

/-- A button and the time. -/
structure Clocked where
  button : ClipboardButton
  /-- The time in milliseconds. -/
  now : Nat := 0
  /-- When the timers are due, in the order in which they were started. -/
  deadlines : List Nat := []

/-- What can happen in time. -/
inductive Tick where
  /-- Some milliseconds pass. -/
  | wait (milliseconds : Nat)
  /-- Something happens to the button. -/
  | step (next : Step)

namespace Clocked

/-- No running timer is due before a time. -/
def isFreeUntil (c : Clocked) (time : Nat) : Bool :=
  c.button.running.all fun number => c.deadlines[number]?.all (time ≤ ·)

/-- A timer that runs is reported just when it is due. -/
def isPunctual (c : Clocked) : Step → Bool
  | .signal (.due number) => !c.button.running.contains number || c.deadlines[number]? == some c.now
  | _ => true

/-- The button after a step, which takes no time. -/
def afterStep (c : Clocked) (next : Step) : Clocked where
  button := (component.step c.button next).state
  now := c.now
  deadlines := c.deadlines ++ (startedTimers (component.step c.button next)).map (c.now + ·)

/-- Lets something happen, if it can: time passes up to the next report of a timer only, and timers
are reported in time. -/
def tick? (c : Clocked) : Tick → Option Clocked
  | .wait milliseconds =>
    if c.isFreeUntil (c.now + milliseconds) then some { c with now := c.now + milliseconds }
    else none
  | .step next => if c.isPunctual next then some (c.afterStep next) else none

/-- Lets things happen in order, if they can. -/
def run? (c : Clocked) (ticks : List Tick) : Option Clocked :=
  ticks.foldlM tick? c

/-- A run of two parts goes on with the second from where the first ends. -/
theorem run?_append (c : Clocked) (first second : List Tick) :
    c.run? (first ++ second) = (c.run? first).bind (·.run? second) :=
  List.foldlM_append

/-- The last thing that happens in a run happens to the button that the others lead to. -/
theorem run?_concat_eq_some_iff {c c' : Clocked} {ticks : List Tick} {tick : Tick} :
    c.run? (ticks ++ [tick]) = some c' ↔ ∃ d, c.run? ticks = some d ∧ d.tick? tick = some c' := by
  rw [run?_append, Option.bind_eq_some_iff]
  simp [run?]

/-- A run can be cut anywhere. -/
theorem exists_run?_of_isPrefix {c c' : Clocked} {part ticks : List Tick} (h : part <+: ticks)
    (hrun : c.run? ticks = some c') :
    ∃ d rest, ticks = part ++ rest ∧ c.run? part = some d ∧ d.run? rest = some c' := by
  obtain ⟨rest, rfl⟩ := h
  rw [run?_append, Option.bind_eq_some_iff] at hrun
  obtain ⟨d, hpart, hrest⟩ := hrun
  exact ⟨d, rest, rfl, hpart, hrest⟩

/-- Time passes exactly if no running timer is due before its end, and only the time changes. -/
theorem tick?_wait_eq_some_iff {c c' : Clocked} {milliseconds : Nat} :
    c.tick? (.wait milliseconds) = some c' ↔
      c.isFreeUntil (c.now + milliseconds) = true ∧
        c' = { c with now := c.now + milliseconds } := by
  rw [tick?]
  split
  · next hfree => simp [hfree, eq_comm]
  · next hfree => simp [hfree]

/-- A step happens exactly if it is in time. -/
theorem tick?_step_eq_some_iff {c c' : Clocked} {next : Step} :
    c.tick? (.step next) = some c' ↔ c.isPunctual next = true ∧ c' = c.afterStep next := by
  rw [tick?]
  split
  · next hpunctual => simp [hpunctual, eq_comm]
  · next hpunctual => simp [hpunctual]

/-- Time does not run backwards. -/
theorem now_le_of_tick? {c c' : Clocked} {tick : Tick} (h : c.tick? tick = some c') :
    c.now ≤ c'.now := by
  cases tick with
  | wait milliseconds =>
    obtain ⟨-, rfl⟩ := tick?_wait_eq_some_iff.1 h
    exact Nat.le_add_right _ _
  | step next =>
    obtain ⟨-, rfl⟩ := tick?_step_eq_some_iff.1 h
    exact Nat.le_refl _

/-- Nor does it in a run. -/
theorem now_le_of_run? {c c' : Clocked} {ticks : List Tick} (h : c.run? ticks = some c') :
    c.now ≤ c'.now := by
  induction ticks using List.reverseRecOn generalizing c' with
  | nil => cases h; exact Nat.le_refl _
  | append_singleton ticks tick ih =>
    obtain ⟨d, hticks, htick⟩ := run?_concat_eq_some_iff.1 h
    exact Nat.le_trans (ih hticks) (now_le_of_tick? htick)

/-- Every timer that was started has its deadline. -/
def Aligned (c : Clocked) : Prop := c.deadlines.length = c.button.timers

/-- What happens keeps a deadline for every timer. -/
theorem aligned_tick {c c' : Clocked} {tick : Tick} (h : c.tick? tick = some c')
    (ha : c.Aligned) : c'.Aligned := by
  cases tick with
  | wait milliseconds =>
    obtain ⟨-, rfl⟩ := tick?_wait_eq_some_iff.1 h
    exact ha
  | step next =>
    obtain ⟨-, rfl⟩ := tick?_step_eq_some_iff.1 h
    have hchange := change_step c.button next
    rw [Aligned] at ha
    rw [Aligned, afterStep]
    dsimp only
    -- Only a confirmation starts a timer, and it is given a deadline at the same time.
    generalize (component.step c.button next).state = b' at hchange ⊢
    generalize startedTimers (component.step c.button next) = started at hchange ⊢
    cases hchange with
    | idle | click | failed | due => simpa using ha
    | shown => simp [ha]

/-- So does a run. -/
theorem aligned_run {c c' : Clocked} {ticks : List Tick} (h : c.run? ticks = some c')
    (ha : c.Aligned) : c'.Aligned := by
  induction ticks using List.reverseRecOn generalizing c' with
  | nil => cases h; exact ha
  | append_singleton ticks tick ih =>
    obtain ⟨d, hticks, htick⟩ := run?_concat_eq_some_iff.1 h
    exact aligned_tick htick (ih hticks)

end Clocked

/-! ### Confirmations -/

/-- A step disturbs the confirmation of a write: a timer is due that ran when the write was done, or
another write fails that was clicked on a button at rest. -/
inductive Disturbs (old : List Nat) (b : ClipboardButton) : Step → Prop where
  | due (number : Nat) : number ∈ old → number ∈ b.running → Disturbs old b (.signal (.due number))
  | failed (number : Nat) (reason : String) (write : PendingWrite) :
    b.pending.find? (·.number == number) = some write → write.clicked = .idle →
    Disturbs old b (.signal (.copied number (some reason)))

/-- The button says that it has copied, and a timer that runs is an old one or was started since a
time. -/
structure Confirmed (old : List Nat) (since : Nat) (c : Clocked) : Prop where
  face : c.button.face = .copied
  aligned : c.Aligned
  since_le : since ≤ c.now
  running : ∀ number ∈ c.button.running, number ∈ old ∨
    ∃ deadline, c.deadlines[number]? = some deadline ∧ since + Settings.copiedResetMs ≤ deadline

namespace Confirmed

variable {old : List Nat} {since : Nat} {c c' : Clocked}

/-- A timer that was started since the time is not due before its end. -/
theorem mem_old_of_due (h : Confirmed old since c) {number : Nat}
    (hpunctual : c.isPunctual (.signal (.due number)) = true) (hmem : number ∈ c.button.running)
    (hnow : c.now < since + Settings.copiedResetMs) : number ∈ old := by
  rcases h.running number hmem with hold | ⟨deadline, hdeadline, hle⟩
  · exact hold
  -- It would be reported just when it is due, which is later than now.
  · have hdue : c.deadlines[number]? = some c.now := by
      simpa [Clocked.isPunctual, hmem] using hpunctual
    rw [hdeadline, Option.some.injEq] at hdue
    omega

/-- A step that does not disturb a confirmation keeps it. -/
theorem step (h : Confirmed old since c) {next : Step} (hpunctual : c.isPunctual next = true)
    (hnow : c.now < since + Settings.copiedResetMs) (hnext : ¬Disturbs old c.button next) :
    Confirmed old since (c.afterStep next) := by
  have haligned : (c.afterStep next).Aligned :=
    Clocked.aligned_tick (Clocked.tick?_step_eq_some_iff.2 ⟨hpunctual, rfl⟩) h.aligned
  -- The face and the running timers are looked at one after the other, each by the change made.
  refine ⟨?_, haligned, h.since_le, ?_⟩
  all_goals
    have hchange := change_step c.button next
    rw [Clocked.afterStep]
    dsimp only
    generalize (component.step c.button next).state = b' at hchange ⊢
    generalize startedTimers (component.step c.button next) = started at hchange ⊢
  -- Of the changes only the two that disturb turn the button back.
  · cases hchange with
    | idle | click => exact h.face
    | shown => rfl
    | failed number reason write hfind hclicked =>
      exact absurd (.failed number reason write hfind hclicked) hnext
    | due number hmem =>
      exact absurd (.due number (h.mem_old_of_due hpunctual hmem hnow) hmem) hnext
  -- A timer is new only after a confirmation; all others ran before.
  · intro number hmem
    -- A deadline that was known stays where it was.
    have hkept (hmem : number ∈ c.button.running) : number ∈ old ∨
        ∃ deadline, (c.deadlines ++ started.map (c.now + ·))[number]? = some deadline ∧
          since + Settings.copiedResetMs ≤ deadline := by
      rcases h.running number hmem with hold | ⟨deadline, hdeadline, hle⟩
      · exact .inl hold
      · refine .inr ⟨deadline, ?_, hle⟩
        rw [List.getElem?_append_left (List.getElem?_eq_some_iff.1 hdeadline).1, hdeadline]
    cases hchange with
    | idle | click | failed => exact hkept hmem
    | due => exact hkept (List.mem_filter.1 hmem).1
    -- The timer that is started now is due the full time from now.
    | shown =>
      rcases List.mem_append.1 hmem with hmem | hmem
      · exact hkept hmem
      · refine .inr ⟨c.now + Settings.copiedResetMs, ?_, Nat.add_le_add_right h.since_le _⟩
        rw [List.mem_singleton.1 hmem, ← h.aligned]
        exact List.getElem?_concat_length

/-- Time that passes, or a step that does not disturb a confirmation, keeps it. -/
theorem tick (h : Confirmed old since c) {tick : Tick} (htick : c.tick? tick = some c')
    (hnow : c.now < since + Settings.copiedResetMs)
    (hnext : ∀ next, tick = .step next → ¬Disturbs old c.button next) :
    Confirmed old since c' := by
  cases tick with
  | wait milliseconds =>
    obtain ⟨-, rfl⟩ := Clocked.tick?_wait_eq_some_iff.1 htick
    exact ⟨h.face, h.aligned, Nat.le_add_right_of_le h.since_le, h.running⟩
  | step next =>
    obtain ⟨hpunctual, rfl⟩ := Clocked.tick?_step_eq_some_iff.1 htick
    exact h.step hpunctual hnow (hnext next rfl)

/-- A confirmation lasts as long as nothing disturbs it. -/
theorem of_isPrefix (h : Confirmed old since c) {later : List Tick}
    (hlater : c.run? later = some c')
    (hnow : c'.now < since + Settings.copiedResetMs)
    (hcalm : ∀ part next d, part ++ [.step next] <+: later → c.run? part = some d →
      ¬Disturbs old d.button next)
    {part : List Tick} (hpart : part <+: later) {d : Clocked} (hd : c.run? part = some d) :
    Confirmed old since d := by
  induction part using List.reverseRecOn generalizing d with
  | nil => cases hd; exact h
  | append_singleton part tick ih =>
    -- The end of the run is later than the end of this part, so its time is not over yet.
    obtain ⟨e, he, htick⟩ := Clocked.run?_concat_eq_some_iff.1 hd
    have hprefix : part <+: later := (List.prefix_append part [tick]).trans hpart
    obtain ⟨e', rest, -, he', hrest⟩ := Clocked.exists_run?_of_isPrefix hprefix hlater
    obtain rfl : e = e' := Option.some.inj (he.symm.trans he')
    refine (ih hprefix he).tick htick (Nat.lt_of_le_of_lt (Clocked.now_le_of_run? hrest) hnow) ?_
    rintro next rfl
    exact hcalm part next e hpart he

end Confirmed

/-- A disturbance turns the button to rest. -/
theorem face_of_disturbs {old : List Nat} {b : ClipboardButton} {next : Step}
    (h : Disturbs old b next) : (component.step b next).state.face = .idle := by
  cases h with
  | due number _ hmem =>
    show (b.due number).face = .idle
    rw [due, if_pos hmem]
  | failed number reason write hfind hclicked =>
    show (b.written number (some reason)).1.face = .idle
    rw [written_of_some hfind, hclicked]
    exact face_turn _ _

/-- Right after a write that succeeds the button says that it has copied, and all timers but the new
one are old. -/
theorem confirmed_of_success {c c₁ : Clocked} (ha : c.Aligned) {number : Nat}
    {write : PendingWrite} (hfind : c.button.pending.find? (·.number == number) = some write)
    (hdone : c.tick? (.step (.signal (.copied number none))) = some c₁) :
    Confirmed c.button.running c₁.now c₁ := by
  have haligned := Clocked.aligned_tick hdone ha
  obtain ⟨-, rfl⟩ := Clocked.tick?_step_eq_some_iff.1 hdone
  have hwritten : (component.step c.button (.signal (.copied number none))).state =
      { c.button with
        pending := c.button.pending.filter (·.number != number)
        face := .copied
        timers := c.button.timers + 1
        running := c.button.running ++ [c.button.timers] } := by
    show (c.button.written number none).1 = _
    rw [written_of_some hfind]
    rfl
  have hstarted : startedTimers (component.step c.button (.signal (.copied number none))) =
      [Settings.copiedResetMs] := by
    show (c.button.written number none).2.filterMap Effect.milliseconds? = _
    rw [written_of_some hfind]
    rfl
  -- The deadlines are aligned with the timers, so the new timer has the new deadline.
  refine ⟨?_, haligned, Nat.le_refl _, ?_⟩
  · rw [Clocked.afterStep, hwritten]
  · rw [Clocked.afterStep, hwritten, hstarted]
    intro other hmem
    rcases List.mem_append.1 hmem with hmem | hmem
    · exact .inl hmem
    · refine .inr ⟨c.now + Settings.copiedResetMs, ?_, Nat.le_refl _⟩
      rw [List.mem_singleton.1 hmem, ← ha]
      exact List.getElem?_concat_length

/-! ### The full time -/

/-- When a copy is confirmed for the full time. A write succeeds after any run of a button that has
just been made. The button says that it has copied at every moment less than the full time later
exactly if no timer is due until then that ran when the write was done, and no write fails that was
clicked on a button at rest. -/
theorem shows_copied_iff {text idleLabel : String} {hasWindow : Bool} {before later : List Tick}
    {c c₁ c₂ : Clocked} {number : Nat} {write : PendingWrite}
    (hbefore : Clocked.run? { button := fresh text idleLabel hasWindow } before = some c)
    (hpending : c.button.pending.find? (·.number == number) = some write)
    (hdone : c.tick? (.step (.signal (.copied number none))) = some c₁)
    (hlater : c₁.run? later = some c₂) (hnow : c₂.now < c₁.now + Settings.copiedResetMs) :
    (∀ part d, part <+: later → c₁.run? part = some d → d.button.face = .copied) ↔
      ∀ part next d, part ++ [.step next] <+: later → c₁.run? part = some d →
        ¬Disturbs c.button.running d.button next := by
  constructor
  · intro hshown part next d hpart hd hdisturbs
    -- The moment after the disturbance belongs to the run.
    obtain ⟨e, rest, -, he, -⟩ := Clocked.exists_run?_of_isPrefix hpart hlater
    have hface := hshown _ e hpart he
    obtain ⟨d', hd', htick⟩ := Clocked.run?_concat_eq_some_iff.1 he
    obtain rfl : d = d' := Option.some.inj (hd.symm.trans hd')
    obtain ⟨-, rfl⟩ := Clocked.tick?_step_eq_some_iff.1 htick
    rw [Clocked.afterStep, face_of_disturbs hdisturbs] at hface
    cases hface
  · intro hcalm part d hpart hd
    have haligned : c.Aligned := Clocked.aligned_run hbefore rfl
    have hconfirmed := confirmed_of_success haligned hpending hdone
    exact (hconfirmed.of_isPrefix hlater hnow hcalm hpart hd).face

/-- A button with a write that is pending since a click on it at rest. -/
def oneClick : Clocked where
  button := { text := "text", writes := 1, pending := [⟨0, .idle⟩] }

/-- The button after that write has succeeded. -/
def oneCopy : Clocked where
  button := { text := "text", face := .copied, writes := 1, timers := 1, running := [0] }
  deadlines := [2000]

/-- The button one millisecond before its timer is due, clicked again. -/
def clickedLate : Clocked where
  button :=
    { text := "text", face := .copied, writes := 2, pending := [⟨1, .copied⟩], timers := 1
      running := [0] }
  now := 1999
  deadlines := [2000]

/-- A copy is confirmed up to the last millisecond, also if the button is clicked again then. -/
theorem shows_copied_oneCopy :
    Clocked.run? { button := fresh "text" "Copy" true } [.step (.fire .click 0 "")] =
        some oneClick ∧
      oneClick.tick? (.step (.signal (.copied 0 none))) = some oneCopy ∧
      ∀ part d, part <+: [.wait 1999, .step (.fire .click 0 "")] → oneCopy.run? part = some d →
        d.button.face = .copied := by
  have hbefore : Clocked.run? { button := fresh "text" "Copy" true }
      [.step (.fire .click 0 "")] = some oneClick := rfl
  have hdone : oneClick.tick? (.step (.signal (.copied 0 none))) = some oneCopy := rfl
  have hlater : oneCopy.run? [.wait 1999, .step (.fire .click 0 "")] = some clickedLate := rfl
  refine ⟨hbefore, hdone, (shows_copied_iff hbefore rfl hdone hlater (by decide)).2 ?_⟩
  intro part next d hpart _ hdisturbs
  -- The one step is a click, and a click disturbs nothing.
  have hmem : Tick.step next ∈ [Tick.wait 1999, Tick.step (.fire .click 0 "")] :=
    hpart.subset (List.mem_append_right _ (List.mem_singleton.2 rfl))
  have hnext : next = .fire .click 0 "" := by simpa using hmem
  subst hnext
  cases hdisturbs

/-- A button whose first write succeeded a second ago, clicked again. -/
def clickedAgain : Clocked where
  button :=
    { text := "text", face := .copied, writes := 2, pending := [⟨1, .copied⟩], timers := 1
      running := [0] }
  now := 1000
  deadlines := [2000]

/-- The button after the second write has succeeded too. -/
def copiedAgain : Clocked where
  button :=
    { text := "text", face := .copied, writes := 2, timers := 2, running := [0, 1] }
  now := 1000
  deadlines := [2000, 3000]

/-- The button another second later, when the first timer has been reported. -/
def turnedBack : Clocked where
  button :=
    { text := "text", face := .idle, writes := 2, timers := 2, running := [1] }
  now := 2000
  deadlines := [2000, 3000]

/-- A copy need not be confirmed for the full time: the timer of the copy before it turns the button
back. -/
theorem confirmation_cut_short :
    ¬∀ (text idleLabel : String) (hasWindow : Bool) (before later : List Tick)
      (c c₁ c₂ : Clocked) (number : Nat) (write : PendingWrite),
      Clocked.run? { button := fresh text idleLabel hasWindow } before = some c →
      c.button.pending.find? (·.number == number) = some write →
      c.tick? (.step (.signal (.copied number none))) = some c₁ →
      c₁.run? later = some c₂ → c₂.now < c₁.now + Settings.copiedResetMs →
      c₂.button.face = .copied := by
  intro h
  have hbefore : Clocked.run? { button := fresh "text" "Copy" true }
      [.step (.fire .click 0 ""), .step (.signal (.copied 0 none)), .wait 1000,
        .step (.fire .click 0 "")] = some clickedAgain := rfl
  have hdone : clickedAgain.tick? (.step (.signal (.copied 1 none))) = some copiedAgain := rfl
  have hlater : copiedAgain.run? [.wait 1000, .step (.signal (.due 0))] = some turnedBack := rfl
  have hshown := h _ _ _ _ _ _ _ _ 1 _ hbefore rfl hdone hlater (by decide)
  cases hshown

end DonationSite.Ui.ClipboardButton
