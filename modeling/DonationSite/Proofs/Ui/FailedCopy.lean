import DonationSite.Proofs.Ui.ClipboardSteps

/-!
# Copies that fail

A write that fails turns the button to the face that it had when it was clicked. So the failure
keeps what the button shows exactly if the button shows now what it showed then. It may have changed
in between: another write succeeded, or a timer was due. Then the failure turns a button that says
that it has copied back too early, or makes a button at rest say that it has copied.

## Key results

- `face_of_reported`: the face after a failure is that of the click
- `face_of_stray`: a report of no write changes nothing
- `failed_copy_keeps_face_iff`: when a failure keeps what the button shows
-/

namespace DonationSite.Ui.ClipboardButton

/-- What a button shows that has just been made, after the first steps of a run. -/
def faceAt (text idleLabel : String) (hasWindow : Bool) (steps : List Step) (count : Nat) : Face :=
  (component.after (fresh text idleLabel hasWindow) (steps.take count)).face

variable {text idleLabel : String} {hasWindow : Bool} {steps : List Step}
  {number begun step : Nat} {reason : String}

/-- A failure turns the button to the face that it had when the write was clicked. -/
theorem face_of_reported (hstep : steps[step]? = some (.signal (.copied number (some reason))))
    (h : Outstanding (fresh text idleLabel hasWindow) steps number begun step) :
    faceAt text idleLabel hasWindow steps (step + 1) =
      faceAt text idleLabel hasWindow steps begun := by
  have hlt := (List.getElem?_eq_some_iff.1 hstep).1
  have hfind := find?_pending_after rfl h (Nat.le_of_lt hlt)
  rw [faceAt, Component.after_take_succ component hstep]
  show (written _ number (some reason)).1.face = _
  -- The pending write carries the face of the click, and failing keeps that one.
  rw [written_of_some hfind, faceAt]
  exact face_turn _ _

/-- A report that names no pending write changes nothing. -/
theorem face_of_stray (hstep : steps[step]? = some (.signal (.copied number (some reason))))
    (h : ∀ begun, ¬Outstanding (fresh text idleLabel hasWindow) steps number begun step) :
    faceAt text idleLabel hasWindow steps (step + 1) =
      faceAt text idleLabel hasWindow steps step := by
  have hlt := (List.getElem?_eq_some_iff.1 hstep).1
  rw [faceAt, Component.after_take_succ component hstep]
  show (written _ number (some reason)).1.face = _
  cases hfind : (component.after (fresh text idleLabel hasWindow)
      (steps.take step)).pending.find? (·.number == number) with
  | none => rw [written_of_none hfind]; rfl
  | some write =>
    -- A pending write was started at some step.
    have hnumber : write.number = number := by simpa using List.find?_some hfind
    obtain ⟨begun, houtstanding, -⟩ :=
      exists_started rfl (Nat.le_of_lt hlt) write (List.mem_of_find?_eq_some hfind)
    rw [hnumber] at houtstanding
    exact absurd houtstanding (h begun)

/-- A failed copy keeps what the button shows exactly if the button shows now what it showed when
the write was clicked. -/
theorem failed_copy_keeps_face_iff (text idleLabel : String) (hasWindow : Bool)
    (steps : List Step) (step number : Nat) (reason : String)
    (h : steps[step]? = some (.signal (.copied number (some reason)))) :
    faceAt text idleLabel hasWindow steps (step + 1) =
        faceAt text idleLabel hasWindow steps step ↔
      ∀ begun, Outstanding (fresh text idleLabel hasWindow) steps number begun step →
        faceAt text idleLabel hasWindow steps begun =
          faceAt text idleLabel hasWindow steps step := by
  constructor
  · intro hkept begun houtstanding
    rw [← hkept, face_of_reported h houtstanding]
  · intro hsame
    -- Either the write was started and not reported yet, or the report names none.
    by_cases hexists :
        ∃ begun, Outstanding (fresh text idleLabel hasWindow) steps number begun step
    · obtain ⟨begun, houtstanding⟩ := hexists
      rw [face_of_reported h houtstanding, hsame begun houtstanding]
    · exact face_of_stray h fun begun houtstanding => hexists ⟨begun, houtstanding⟩

/-- Three clicks: on a button at rest, on one that says that it has copied, and again at rest, since
the timer was due. The second write fails after that. -/
def deniedAtRest : List Step := [
  .fire .click 0 "",
  .signal (.copied 0 none),
  .fire .click 0 "",
  .signal (.due 0),
  .fire .click 0 "",
  .signal (.copied 1 (some "denied"))]

/-- The failure makes the button at rest say that it has copied, as it said at the second click. -/
theorem failed_copy_deniedAtRest :
    deniedAtRest[5]? = some (.signal (.copied 1 (some "denied"))) ∧
      Outstanding (fresh "text" "Copy" true) deniedAtRest 1 2 5 ∧
      faceAt "text" "Copy" true deniedAtRest 2 = .copied ∧
      faceAt "text" "Copy" true deniedAtRest 5 = .idle ∧
      faceAt "text" "Copy" true deniedAtRest 6 ≠ faceAt "text" "Copy" true deniedAtRest 5 := by
  have houtstanding : Outstanding (fresh "text" "Copy" true) deniedAtRest 1 2 5 := by
    refine ⟨by decide, rfl, rfl, fun i failure hi hlt => ?_⟩
    -- Between the click and the report the timer is due, and the button is clicked again.
    have hsteps : i = 3 ∨ i = 4 := by omega
    rcases hsteps with rfl | rfl <;> simp [deniedAtRest]
  refine ⟨rfl, houtstanding, rfl, rfl, fun hkept => ?_⟩
  have hsame := (failed_copy_keeps_face_iff "text" "Copy" true deniedAtRest 5 1 "denied" rfl).1
    hkept 2 houtstanding
  exact absurd hsame (by decide)

/-- Two clicks on a button at rest, of which the first is written and the second is not. -/
def secondDenied : List Step := [
  .fire .click 0 "",
  .fire .click 0 "",
  .signal (.copied 0 none),
  .signal (.copied 1 (some "denied"))]

/-- A failed copy can change what the button shows: here it takes back at once that the other one
succeeded. -/
theorem failed_copy_changes_face :
    ¬∀ (text idleLabel : String) (hasWindow : Bool) (steps : List Step) (step number : Nat)
      (reason : String), steps[step]? = some (.signal (.copied number (some reason))) →
        faceAt text idleLabel hasWindow steps (step + 1) =
          faceAt text idleLabel hasWindow steps step := by
  intro h
  have hbefore : faceAt "text" "Copy" true secondDenied 3 = .copied := rfl
  have hafter : faceAt "text" "Copy" true secondDenied 4 = .idle := rfl
  have hkept := h "text" "Copy" true secondDenied 3 1 "denied" rfl
  rw [hbefore, hafter] at hkept
  cases hkept

end DonationSite.Ui.ClipboardButton
