import DonationSite.Ui.Component

/-!
# Runs of components

The state of a component after steps, and what an event of the visitor does to it.
-/

namespace DonationSite.Ui

namespace Component

variable {σ μ : Type} (component : Component σ μ) {state : σ} {steps : List Step}

/-- The state after steps. -/
def after (state : σ) (steps : List Step) : σ :=
  steps.foldl (fun state next => (component.step state next).state) state

/-- The last step is taken from the state after those before it. -/
theorem after_concat (state : σ) (steps : List Step) (next : Step) :
    component.after state (steps ++ [next]) =
      (component.step (component.after state steps) next).state := by
  rw [after, List.foldl_append]
  rfl

/-- The state after one more step of a run is that after the step from there. -/
theorem after_take_succ {i : Nat} {next : Step} (h : steps[i]? = some next) :
    component.after state (steps.take (i + 1)) =
      (component.step (component.after state (steps.take i)) next).state := by
  rw [List.take_add_one, h, Option.toList_some, after_concat]

/-- An event does what the listener with its number means by it; without such a listener it does
nothing. -/
theorem state_fire (state : σ) (kind : Html.EventKind) (number : Nat) (value : String) :
    (component.step state (.fire kind number value)).state =
      (component.updateIfAny state
        (((component.view state).listeners kind)[number]?.bind (·.message value))).1 := by
  rw [step]
  cases ((component.view state).listeners kind)[number]? <;> rfl

end Component

end DonationSite.Ui
