import Mathlib.Data.List.Induction
import DonationSite.Page.Donate
import DonationSite.Proofs.Donation.Amount
import DonationSite.Proofs.Page.RewardLabels
import DonationSite.Proofs.Ui.Runs

/-!
# The donation page follows its amount field

Whatever was typed, chosen and clicked before, the donation page shows the tiers as the selection
for the text that stands in the amount field says. Exactly one tier is checked, and since there is a
reward that asks for nothing, that tier is never small. Of the recurrences the one that was chosen
last is checked.

## Key results

- `state_after`: the page remembers the text typed last and the recurrence chosen last
- `isSmall_checked_rewardTiers`: the checked tier of the rewards on offer is never small
- `page_follows_amount`: what the page shows after any steps
-/

namespace DonationSite.Page.Donate

open Donation Ui
open Html (Element)

/-! ### Steps of the page -/

/-- The text that a step types into the amount field. -/
def typed? : Step → Option String
  | .fire .input 0 text => some text
  | _ => none

/-- The recurrence that a step chooses. -/
def chosen? : Step → Option String
  | .fire .change number value =>
    if number < Settings.recurrenceChoices.length then some value else none
  | _ => none

/-- The text in the amount field after steps: the one typed last, or the default donation. -/
def amountText (steps : List Step) : String :=
  (steps.filterMap typed?).getLast?.getD "10"

/-- The recurrence after steps: the one chosen last, or the annual one. -/
def recurrence (steps : List Step) : String :=
  (steps.filterMap chosen?).getLast?.getD "y"

/-- The listener of the amount field. -/
def typing : Html.Listener Message :=
  { kind := .input, message := fun text => some (.typeAmount text) }

/-- The listener of a recurrence. -/
def choosing : Html.Listener Message :=
  { kind := .change, message := fun text => some (.chooseRecurrence text) }

/-- The listener of a tier, which keeps the browser from checking its radio button. -/
def clicking : Html.Listener Message :=
  { kind := .click, prevents := true, message := fun _ => none }

/-- One control of the page listens to what is typed. -/
theorem listeners_input (d : Donate) : d.view.listeners .input = [typing] := by
  simp only [view, Rewards.view]
  split <;> rfl

/-- The recurrences listen to changes, and nothing else does. -/
theorem listeners_change (d : Donate) :
    d.view.listeners .change = List.replicate Settings.recurrenceChoices.length choosing := by
  simp only [view, Rewards.view]
  split <;> rfl

/-- The tiers listen to clicks, and nothing else does. -/
theorem listeners_click (d : Donate) :
    d.view.listeners .click = List.replicate Settings.rewardTiers.tiers.length clicking := by
  simp only [view, Rewards.view]
  split <;> rfl

/-- Nothing on the page listens to inputs that are left. -/
theorem listeners_focusOut (d : Donate) : d.view.listeners .focusOut = [] := by
  simp only [view, Rewards.view]
  split <;> rfl

/-- What a step does to the page. -/
theorem state_step (d : Donate) (next : Step) : (component.step d next).state =
    { d with
      amount := (typed? next).getD d.amount
      recurring := (chosen? next).getD d.recurring } := by
  cases next with
  | signal signal => rfl
  | fire kind number value =>
    rw [Component.state_fire]
    show (component.updateIfAny d ((d.view.listeners kind)[number]?.bind (·.message value))).1 = _
    cases kind with
    | click =>
      -- A click on a tier means nothing.
      rw [listeners_click, List.getElem?_replicate]
      split <;> rfl
    -- A recurrence listens only as long as there are choices, which is what `chosen?` asks too.
    | change =>
      rw [listeners_change, List.getElem?_replicate, chosen?]
      split <;> rfl
    | input =>
      rw [listeners_input]
      match number with
      | 0 => rfl
      | _ + 1 => rfl
    | focusOut =>
      rw [listeners_focusOut]
      rfl

/-- The page remembers the text that was typed last and the recurrence that was chosen last. -/
theorem state_after (browser : Browser) (steps : List Step) :
    component.after (start browser) steps =
      { token := Csrf.pageToken browser
        amount := amountText steps
        recurring := recurrence steps } := by
  -- The last step comes last in what was typed or chosen, if it types or chooses at all.
  have hlast {f : Step → Option String} (next : Step) (steps : List Step) (first : String) :
      ((steps ++ [next]).filterMap f).getLast?.getD first =
        (f next).getD ((steps.filterMap f).getLast?.getD first) := by
    cases hf : f next <;> simp [hf]
  induction steps using List.reverseRecOn with
  | nil => rfl
  | append_singleton steps next ih =>
    rw [Component.after_concat, ih, state_step, amountText, amountText, recurrence, recurrence,
      hlast, hlast]

/-! ### The checked tier -/

/-- One reward asks for nothing, so every amount reaches a tier, and the checked tier is not
small. -/
theorem isSmall_checked_rewardTiers (amount : Amount) :
    (Settings.rewardTiers.select amount).isSmall
      (Settings.rewardTiers.select amount).checked.index = false := by
  obtain ⟨tier, htier, hsmall⟩ := Settings.rewardTiers.exists_checked_tier amount
  rw [Settings.rewardTiers.isSmall_select amount htier, decide_eq_false_iff_not, hsmall,
    Settings.rewardTiers.fallback_iff_forall_lt]
  -- Were no tier reached, neither would be the one that asks for nothing.
  intro hall
  have hfirst : (⟨0, "No reward", .ofUInt32 0⟩ : Tier) ∈ Settings.rewardTiers.tiers :=
    List.mem_cons_self
  have hzero : (Amount.ofUInt32 0).value.quanta = 0 := by decide
  have hlt := Amount.lt_iff_quanta.1 (hall _ hfirst)
  have hnonneg := amount.quanta_nonneg
  rw [hzero] at hlt
  omega

/-! ### What the page shows -/

/-- The classes of the page around the selector. -/
def ownClasses : List String :=
  ["donate-container", "donate-form", "donate-recurrence", "recurrence-choice", "donate-button"]

/-- What is found in none of the recurrences is not found among them. -/
theorem flatMap_recurrences (d : Donate) {f : Html Message → List (Element Message)}
    (h : ∀ value label, f (d.recurrenceView value label) = []) :
    (Settings.recurrenceChoices.map fun (value, label) =>
      d.recurrenceView value label).flatMap f = [] := by
  rw [List.flatMap_map]
  exact List.flatMap_eq_nil_iff.2 fun choice _ => h choice.1 choice.2

/-- Elements of any other class stand in the selector. -/
theorem withClass_view (d : Donate) {name : String} (h : name ∉ ownClasses) :
    d.view.withClass name =
      (Rewards.view Settings.rewardTiers d.typedAmount).withClass name := by
  simp only [ownClasses, List.mem_cons, List.not_mem_nil, or_false, not_or] at h
  obtain ⟨hcontainer, hform, hrecurrence, hchoice, hbutton⟩ := h
  have hchoices := d.flatMap_recurrences (f := Html.withClass name) fun value label => by
    simp [recurrenceView, hchoice]
  rw [view]
  simp [tokenInput, hchoices, hcontainer, hform, hrecurrence, hbutton]

/-- The radio buttons of the page are those of the recurrences and those of the selector. -/
theorem radios_view (d : Donate) (group : String) : d.view.radios group =
    (Settings.recurrenceChoices.flatMap fun (value, label) =>
      (d.recurrenceView value label).radios group) ++
        (Rewards.view Settings.rewardTiers d.typedAmount).radios group := by
  rw [view]
  simp [tokenInput, List.flatMap_map]

/-- The radio button of a recurrence. -/
def recurrenceRadio (d : Donate) (choice : String × String) : Element Message where
  tag := "input"
  attributes :=
    { value := some choice.1
      checked := d.recurring = choice.1
      plain := [("type", "radio"), ("name", "recurring")] }
  body := .empty

/-- The radio buttons of the recurrence are one for each on offer, in order. -/
theorem radios_recurring_view (d : Donate) :
    d.view.radios "recurring" = Settings.recurrenceChoices.map d.recurrenceRadio := by
  rw [radios_view, Rewards.radios_view_of_ne _ _ (by decide), List.append_nil, List.map_eq_flatMap]
  rfl

/-- The radio buttons of the reward are those of the selector. -/
theorem radios_reward_view (d : Donate) : d.view.radios "reward" =
    (Rewards.view Settings.rewardTiers d.typedAmount).radios "reward" := by
  rw [radios_view]
  simp [recurrenceView]

/-- The amount field holds the typed text. -/
theorem value_amount_view (d : Donate) :
    (d.view.withId "donate-amount").map (·.attributes.value) = [some d.amount] := by
  have hchoices := d.flatMap_recurrences (f := Html.withId "donate-amount") fun value label => by
    simp [recurrenceView]
  rw [view]
  simp [tokenInput, hchoices, Rewards.withId_view]

/-- If the chosen recurrence is one of those on offer, its radio button is the only checked one. -/
theorem one_recurrence_checked (d : Donate)
    (h : d.recurring ∈ Settings.recurrenceChoices.map Prod.fst) :
    ∃ radio, (d.view.radios "recurring").filter (·.isChecked) = [radio] ∧
      radio.attributes.value = some d.recurring := by
  -- No two recurrences have the same value.
  have hnodup : (Settings.recurrenceChoices.map Prod.fst).Nodup := by decide
  obtain ⟨choice, hmem, hchoice⟩ := List.mem_map.1 h
  have hchecked : (Element.isChecked ∘ d.recurrenceRadio) =
      fun other : String × String => decide (other.1 = choice.1) := by
    funext other
    rw [Function.comp_apply, Bool.eq_iff_iff, decide_eq_true_eq]
    simp [recurrenceRadio, Element.isChecked, hchoice, eq_comm]
  refine ⟨d.recurrenceRadio choice, ?_, congrArg some hchoice⟩
  rw [radios_recurring_view, List.filter_map, hchecked,
    List.filter_eq_singleton_of_nodup hnodup hmem, List.map_singleton]

/-- The page after steps. -/
def pageAfter (browser : Browser) (steps : List Step) : Html Message :=
  component.view (component.after (start browser) steps)

/-- The donation page is a function of the text in its amount field. After any steps, of which those
that choose a recurrence choose one on offer, the field holds the text typed last, and the page
shows the tiers as the selection for this text says. A click on a tier is kept from the browser.
Exactly one tier is checked, by its radio button and by its label, which is not small. Exactly one
recurrence is checked, the one chosen last. -/
theorem page_follows_amount (browser : Browser) (steps : List Step)
    (h : ∀ value ∈ steps.filterMap chosen?, value ∈ Settings.recurrenceChoices.map Prod.fst) :
    ((pageAfter browser steps).withId "donate-amount").map (·.attributes.value) =
        [some (amountText steps)] ∧
      Rewards.Shows Settings.rewardTiers (Amount.parse (amountText steps))
        (pageAfter browser steps) ∧
      (∀ listener ∈ (pageAfter browser steps).listeners .click,
        listener.prevents = true ∧ ∀ value, listener.message value = none) ∧
      (∃ label radio,
        ((pageAfter browser steps).withClass "reward-tier").filter (·.hasClass "checked") =
            [label] ∧
          ((pageAfter browser steps).radios "reward").filter (·.isChecked) = [radio] ∧
          label.body.radios "reward" = [radio] ∧ label.hasClass "small" = false) ∧
      ∃ radio, ((pageAfter browser steps).radios "recurring").filter (·.isChecked) = [radio] ∧
        radio.attributes.value = some (recurrence steps) := by
  have hstate := state_after browser steps
  -- From here on only what the page remembers matters, not how it came about.
  generalize hd : component.after (start browser) steps = d at hstate
  have hview : pageAfter browser steps = d.view := by rw [pageAfter, hd]; rfl
  have hamount : d.amount = amountText steps := by rw [hstate]
  have hrecurring : d.recurring = recurrence steps := by rw [hstate]
  have hoffered : d.recurring ∈ Settings.recurrenceChoices.map Prod.fst := by
    -- Either one was chosen last, and then one on offer, or the annual one stands from the start.
    rw [hrecurring, recurrence]
    cases hlast : (steps.filterMap chosen?).getLast? with
    | none => decide
    | some value => exact h value (List.mem_of_getLast? hlast)
  -- No class and no radio button of the selector stands around it.
  have hshows : Rewards.Shows Settings.rewardTiers d.typedAmount d.view :=
    Rewards.shows_of_eq (d.withClass_view (by decide)) (d.withClass_view (by decide))
      d.radios_reward_view (d.withClass_view (by decide))
  rw [hview, ← hamount, ← hrecurring]
  refine ⟨d.value_amount_view, hshows, ?_, ?_, d.one_recurrence_checked hoffered⟩
  · intro listener hmem
    rw [listeners_click] at hmem
    rw [List.eq_of_mem_replicate hmem]
    exact ⟨rfl, fun _ => rfl⟩
  · obtain ⟨label, radio, hlabel, hradio, hinside, hsmall⟩ := hshows.one_checked
    exact ⟨label, radio, hlabel, hradio, hinside, by rw [hsmall, isSmall_checked_rewardTiers]⟩

/-- An amount below zero, a recurrence, a click on the last tier, and another amount. -/
def typedAndClicked : List Step := [
  .fire .input 0 "-20",
  .fire .change 2 "q",
  .fire .click 3 "3",
  .fire .input 0 " 2.6e2"]

/-- The click is without effect: the page shows the third tier, which 260 euros reach. -/
theorem page_follows_amount_typedAndClicked :
    (∀ value ∈ typedAndClicked.filterMap chosen?,
        value ∈ Settings.recurrenceChoices.map Prod.fst) ∧
      Rewards.Shows Settings.rewardTiers (Amount.parse " 2.6e2") (pageAfter {} typedAndClicked) ∧
      (Settings.rewardTiers.select (Amount.parse " 2.6e2")).checked = .qualifying 2 ∧
      ∃ radio, ((pageAfter {} typedAndClicked).radios "recurring").filter (·.isChecked) =
          [radio] ∧ radio.attributes.value = some "q" := by
  have hchosen : ∀ value ∈ typedAndClicked.filterMap chosen?,
      value ∈ Settings.recurrenceChoices.map Prod.fst := by decide
  obtain ⟨-, hshows, -, -, hrecurrence⟩ := page_follows_amount {} typedAndClicked hchosen
  exact ⟨hchosen, hshows, by decide +kernel, hrecurrence⟩

end DonationSite.Page.Donate
