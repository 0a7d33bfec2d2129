import DonationSite.Proofs.Ui.Runs
import DonationSite.Ui.ClipboardButton

/-!
# Steps of the clipboard button

What a step can do to a clipboard button, said once (`Change`), and which writes are pending after a
run: those that were clicked and not reported since, each with the face that the button had when it
was clicked.

## Key results

- `change_step`: every step makes one of the changes
- `find?_pending_after`: a write that was started is pending until it is reported
- `exists_started`: a pending write was started and not reported since
-/

namespace DonationSite.Ui

namespace ClipboardButton

/-! ### One step -/

/-- What a step can do to a button, and how long the timers run that it starts. -/
inductive Change (b : ClipboardButton) : Step → ClipboardButton → List Nat → Prop where
  /-- Nothing happens; if a write is reported, none with its number is pending. -/
  | idle (next : Step) :
    (∀ number failure, next = .signal (.copied number failure) →
      b.pending.find? (·.number == number) = none) →
    Change b next b []
  /-- A click starts a write. -/
  | click (value : String) :
    Change b (.fire .click 0 value)
      { b with writes := b.writes + 1, pending := b.pending ++ [⟨b.writes, b.face⟩] } []
  /-- A write succeeds, or fails that was clicked when the button said that it has copied. -/
  | shown (number : Nat) (failure : Option String) (write : PendingWrite) :
    b.pending.find? (·.number == number) = some write →
    (failure = none ∨ write.clicked = .copied) →
    Change b (.signal (.copied number failure))
      { b with
        pending := b.pending.filter (·.number != number)
        face := .copied
        timers := b.timers + 1
        running := b.running ++ [b.timers] }
      [Settings.copiedResetMs]
  /-- A write fails that was clicked when the button was at rest. -/
  | failed (number : Nat) (reason : String) (write : PendingWrite) :
    b.pending.find? (·.number == number) = some write → write.clicked = .idle →
    Change b (.signal (.copied number (some reason)))
      { b with pending := b.pending.filter (·.number != number), face := .idle } []
  /-- A timer is due. -/
  | due (number : Nat) : number ∈ b.running →
    Change b (.signal (.due number))
      { b with face := .idle, running := b.running.filter (· != number) } []

/-- How long the timers run that a step starts. -/
def startedTimers (taken : Taken ClipboardButton) : List Nat :=
  taken.effects.filterMap Effect.milliseconds?

/-- An event of the visitor starts a write if it is a click where there is a window, and else does
nothing. -/
theorem change_fire (b : ClipboardButton) (kind : Html.EventKind) (number : Nat)
    (value : String) :
    Change b (.fire kind number value) (component.step b (.fire kind number value)).state
      (startedTimers (component.step b (.fire kind number value))) := by
  have hidle : Change b (.fire kind number value) b [] :=
    .idle _ fun _ _ heq => by cases heq
  -- The button itself is the only listener, and it listens to clicks only.
  match kind, number with
  | .click, 0 =>
    by_cases hwindow : b.hasWindow = true
    · have hclick : component.step b (.fire .click 0 value) =
          { state := { b with
              writes := b.writes + 1
              pending := b.pending ++ [⟨b.writes, b.face⟩] }
            effects := [.copy b.text]
            fired := some (.heard true) } := by
        show Taken.mk b.click.1 b.click.2 _ = _
        rw [click, if_pos hwindow]
      rw [hclick]
      exact .click value
    · have hclick : component.step b (.fire .click 0 value) =
          { state := b, fired := some (.heard true) } := by
        show Taken.mk b.click.1 b.click.2 _ = _
        rw [click, if_neg hwindow]
      rw [hclick]
      exact hidle
  | .click, _ + 1 | .change, _ | .input, _ | .focusOut, _ => exact hidle

/-- Turning a button to a face gives it that face. -/
theorem face_turn (b : ClipboardButton) (face : Face) : (b.turn face).1.face = face := by
  rw [turn]
  split <;> rfl

/-- The report of a write that is not pending does nothing. -/
theorem written_of_none {b : ClipboardButton} {number : Nat}
    (h : b.pending.find? (·.number == number) = none) (failure : Option String) :
    b.written number failure = (b, []) := by
  rw [written, h]

/-- The report of a pending write turns the button to the face that follows the one at the click. -/
theorem written_of_some {b : ClipboardButton} {number : Nat} {write : PendingWrite}
    (h : b.pending.find? (·.number == number) = some write) (failure : Option String) :
    b.written number failure =
      (({ b with pending := b.pending.filter (·.number != number) }.turn
        (write.clicked.after failure.isNone)).1,
        .log (b.writeLine failure) ::
          ({ b with pending := b.pending.filter (·.number != number) }.turn
            (write.clicked.after failure.isNone)).2) := by
  rw [written, h]

/-- The report of a write makes one of the changes. -/
theorem change_written (b : ClipboardButton) (number : Nat) (failure : Option String) :
    Change b (.signal (.copied number failure)) (b.written number failure).1
      ((b.written number failure).2.filterMap Effect.milliseconds?) := by
  cases hfind : b.pending.find? (·.number == number) with
  | none =>
    rw [written_of_none hfind]
    refine .idle _ fun _ _ heq => ?_
    cases heq
    exact hfind
  | some write =>
    rw [written_of_some hfind]
    cases failure with
    | none => exact .shown number none write hfind (.inl rfl)
    | some reason =>
      -- The face is the one that the button had when it was clicked.
      cases hclicked : write.clicked with
      | idle => exact .failed number reason write hfind hclicked
      | copied => exact .shown number (some reason) write hfind (.inr hclicked)

/-- Every step makes one of the changes. -/
theorem change_step (b : ClipboardButton) (next : Step) :
    Change b next (component.step b next).state (startedTimers (component.step b next)) := by
  cases next with
  | fire kind number value => exact change_fire b kind number value
  | signal signal =>
    cases signal with
    | copied number failure => exact change_written b number failure
    | due number =>
      show Change b (.signal (.due number)) (b.due number) []
      rw [due]
      split
      · next hmem => exact .due number hmem
      · exact .idle _ fun _ _ heq => by cases heq
    | reply | inputs => exact .idle _ fun _ _ heq => by cases heq

/-! ### Pending writes -/

namespace Change

variable {b b' : ClipboardButton} {next : Step} {started : List Nat}

/-- The writes that are pending were started. -/
theorem numbers_lt (h : Change b next b' started)
    (hlt : ∀ write ∈ b.pending, write.number < b.writes) :
    ∀ write ∈ b'.pending, write.number < b'.writes := by
  cases h with
  | idle | due => exact hlt
  | click value =>
    intro write hmem
    rcases List.mem_append.1 hmem with hmem | hmem
    · exact Nat.lt_succ_of_lt (hlt write hmem)
    · rw [List.mem_singleton.1 hmem]
      exact Nat.lt_succ_self b.writes
  | shown | failed => exact fun write hmem => hlt write (List.mem_filter.1 hmem).1

/-- A write stays pending as long as it is not reported. -/
theorem find?_pending (h : Change b next b' started) {number : Nat} {write : PendingWrite}
    (hfind : b.pending.find? (·.number == number) = some write)
    (hnext : ∀ failure, next ≠ .signal (.copied number failure)) :
    b'.pending.find? (·.number == number) = some write := by
  -- Dropping a write with another number does not hide this one.
  have hfilter (other : Nat) (hne : other ≠ number) :
      (b.pending.filter (·.number != other)).find? (·.number == number) = some write := by
    rw [List.find?_filter, ← hfind]
    congr 1
    funext w
    by_cases hw : w.number = number
    · simp [hw, hne.symm]
    · simp [hw]
  cases h with
  | idle | due => exact hfind
  | click value => rw [List.find?_append, hfind]; rfl
  | shown other failure | failed other failure =>
    refine hfilter other fun heq => ?_
    subst heq
    exact hnext _ rfl

end Change

/-! ### Writes in a run -/

/-- A button that was just made. -/
def fresh (text idleLabel : String) (hasWindow : Bool) : ClipboardButton :=
  { text := text, idleLabel := idleLabel, hasWindow := hasWindow }

/-- The write with a number was started at one step of a run from a button, and is not reported
before another. -/
structure Outstanding (b : ClipboardButton) (steps : List Step) (number begun step : Nat) :
    Prop where
  later : begun < step
  started : (component.after b (steps.take begun)).writes = number
  counted : (component.after b (steps.take (begun + 1))).writes = number + 1
  unreported : ∀ i failure, begun < i → i < step →
    steps[i]? ≠ some (.signal (.copied number failure))

variable {b : ClipboardButton} {steps : List Step} {number begun step : Nat}

/-- A step of a run makes one of the changes to the button before it. -/
theorem change_after {i : Nat} {next : Step} (h : steps[i]? = some next) :
    ∃ started, Change (component.after b (steps.take i)) next
      (component.after b (steps.take (i + 1))) started := by
  rw [Component.after_take_succ component h]
  exact ⟨_, change_step _ next⟩

/-- A write stays outstanding over a step that does not report it. -/
theorem Outstanding.succ (h : Outstanding b steps number begun step)
    (hstep : ∀ failure, steps[step]? ≠ some (.signal (.copied number failure))) :
    Outstanding b steps number begun (step + 1) where
  later := Nat.lt_succ_of_lt h.later
  started := h.started
  counted := h.counted
  unreported := by
    intro i failure hi hlt
    rcases Nat.lt_or_eq_of_le (Nat.le_of_lt_succ hlt) with hlt | rfl
    · exact h.unreported i failure hi hlt
    · exact hstep failure

/-- At every step of a run the writes that are pending were started. -/
theorem numbers_lt_after (hb : b.pending = []) {i : Nat} (hi : i ≤ steps.length) :
    ∀ write ∈ (component.after b (steps.take i)).pending,
      write.number < (component.after b (steps.take i)).writes := by
  induction i with
  | zero =>
    intro write hmem
    rw [List.take_zero, Component.after, List.foldl_nil, hb] at hmem
    exact absurd hmem List.not_mem_nil
  | succ i ih =>
    obtain ⟨started, hchange⟩ := change_after (b := b) (List.getElem?_eq_getElem hi)
    exact hchange.numbers_lt (ih (Nat.le_of_succ_le hi))

/-- A write that was started is pending until it is reported, with the face that the button had when
it was clicked. -/
theorem find?_pending_after (hb : b.pending = []) (h : Outstanding b steps number begun step)
    (hstep : step ≤ steps.length) :
    (component.after b (steps.take step)).pending.find? (·.number == number) =
      some ⟨number, (component.after b (steps.take begun)).face⟩ := by
  -- The induction is on the steps since the click.
  obtain ⟨k, rfl⟩ : ∃ k, step = begun + 1 + k := ⟨step - (begun + 1), by have := h.later; omega⟩
  induction k with
  | zero =>
    have hlt := numbers_lt_after hb (Nat.le_of_succ_le hstep)
    obtain ⟨next, hget⟩ : ∃ next, steps[begun]? = some next :=
      ⟨_, List.getElem?_eq_getElem hstep⟩
    obtain ⟨started, hchange⟩ := change_after (b := b) hget
    have hnumber := h.started
    have hcounted := h.counted
    rw [Nat.add_zero]
    generalize component.after b (steps.take (begun + 1)) = b' at hchange hcounted ⊢
    -- Only a click starts a write, and all pending writes have smaller numbers.
    cases hchange with
    | click value =>
      rw [List.find?_append, hnumber, List.find?_eq_none.2]
      · simp
      · intro write hmem
        have := hlt write hmem
        rw [hnumber] at this
        simp [Nat.ne_of_lt this]
    | idle | shown | failed | due =>
      have hsame : (component.after b (steps.take begun)).writes = number + 1 := hcounted
      omega
  | succ k ih =>
    have hprevious : Outstanding b steps number begun (begun + 1 + k) :=
      { h with
        later := by omega
        unreported := fun i failure hi hlt => h.unreported i failure hi (by omega) }
    obtain ⟨next, hget⟩ : ∃ next, steps[begun + 1 + k]? = some next :=
      ⟨_, List.getElem?_eq_getElem (by omega)⟩
    obtain ⟨started, hchange⟩ := change_after (b := b) hget
    refine hchange.find?_pending (ih hprevious (by omega)) fun failure heq => ?_
    rw [heq] at hget
    exact h.unreported (begun + 1 + k) failure (by omega) (by omega) hget

/-- A pending write was started and not reported since, and the button had its face then. -/
theorem exists_started (hb : b.pending = []) (hstep : step ≤ steps.length) :
    ∀ write ∈ (component.after b (steps.take step)).pending,
      ∃ begun, Outstanding b steps write.number begun step ∧
        write.clicked = (component.after b (steps.take begun)).face := by
  induction step with
  | zero =>
    intro write hmem
    -- At first no write is pending.
    rw [List.take_zero, Component.after, List.foldl_nil, hb] at hmem
    exact absurd hmem List.not_mem_nil
  | succ step ih =>
    intro write hmem
    obtain ⟨next, hget⟩ : ∃ next, steps[step]? = some next :=
      ⟨_, List.getElem?_eq_getElem hstep⟩
    obtain ⟨started, hchange⟩ := change_after (b := b) hget
    -- A write that was pending before the step and is not reported by it.
    have hkept (hmem : write ∈ (component.after b (steps.take step)).pending)
        (hnext : ∀ failure, next ≠ .signal (.copied write.number failure)) :
        ∃ begun, Outstanding b steps write.number begun (step + 1) ∧
          write.clicked = (component.after b (steps.take begun)).face := by
      obtain ⟨begun, houtstanding, hclicked⟩ := ih (Nat.le_of_succ_le hstep) write hmem
      refine ⟨begun, houtstanding.succ fun failure heq => ?_, hclicked⟩
      exact hnext failure (Option.some.inj (hget.symm.trans heq))
    generalize hafter : component.after b (steps.take (step + 1)) = b' at hchange hmem
    cases hchange with
    | idle _ hstray =>
      refine hkept hmem fun failure heq => ?_
      have hnone := List.find?_eq_none.1 (hstray _ failure heq) write hmem
      exact hnone (by simp)
    | click value =>
      rcases List.mem_append.1 hmem with hmem | hmem
      · exact hkept hmem fun failure heq => by cases heq
      · rw [List.mem_singleton.1 hmem]
        -- The new write was started by this very step.
        refine ⟨step, ⟨Nat.lt_succ_self step, rfl, by rw [hafter], ?_⟩, rfl⟩
        intro i failure hi hlt
        omega
    | shown other failure | failed other failure =>
      obtain ⟨hmem, hne⟩ := List.mem_filter.1 hmem
      refine hkept hmem fun failure heq => ?_
      cases heq
      simp at hne
    | due => exact hkept hmem fun failure heq => by cases heq

end ClipboardButton

end DonationSite.Ui
