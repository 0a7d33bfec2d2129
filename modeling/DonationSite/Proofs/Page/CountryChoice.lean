import Mathlib.Data.List.Induction
import DonationSite.Proofs.Billing.LastWriter
import DonationSite.Proofs.List
import DonationSite.Proofs.Page.BillingView
import DonationSite.Proofs.Page.TypedText
import DonationSite.Proofs.Ui.Runs

/-!
# The choice of a country

The country in the form is always one that the dropdown of the billing page offers, or none: besides
the dropdown itself only the country code writes it, and never a country that is not on offer. So
the dropdown has exactly one selected option.

## Key results

- `isChoice_foldl`: no action leads to a country that cannot be chosen
- `exists_actions_after`: the form of a page is what actions made of the empty one
- `showsChoice_view`: a page whose country can be chosen has exactly one selected option
- `one_country_selected`: both for all actions and for all runs of the page
-/

namespace DonationSite.Page.Billing

open DonationSite.Billing Ui
open Html (Element)

/-- What the dropdown offers: no country, or one of those on offer. -/
def IsChoice (code : String) : Prop :=
  code = "" ∨ code ∈ Settings.countries.map Prod.fst

/-- The dropdown for the country has exactly one selected option, the one with a value. -/
def ShowsChoice (view : Html Message) (value : String) : Prop :=
  ∃ dropdown option, view.withId "billing-country" = [dropdown] ∧ dropdown.tag = "select" ∧
    dropdown.body.options.filter (·.isSelected) = [option] ∧ option.attributes.value = some value

/-- The country that a step chooses in the dropdown. -/
def chosen? : Step → Option String
  | .fire .change 2 value => some value
  | _ => none

/-! ### The country in the form -/

variable {form : Form} {actions : List Action}

/-- Only choices are written into the country. -/
theorem isChoice_of_writes {action : Action} {country : String}
    (hwrites : action.Writes .country country)
    (h : ∀ value, action = .edit .country value → IsChoice value) : IsChoice country := by
  cases hwrites with
  | own => exact h country rfl
  | country hcode hoffered => exact .inr hoffered
  | found htext => cases htext

/-- Actions that put only choices into the country leave a choice in it. -/
theorem isChoice_foldl (hform : IsChoice form.country)
    (h : ∀ value, Action.edit .country value ∈ actions → IsChoice value) :
    IsChoice (actions.foldl Form.apply form).country := by
  show IsChoice ((actions.foldl Form.apply form).get .country)
  -- The country is the one written last, or the one from the start if none was.
  obtain ⟨country, hlast⟩ := exists_lastWritten form actions .country
  rw [hlast.get_eq]
  cases hlast with
  | never => exact hform
  | last hactions hwrites hafter =>
    refine isChoice_of_writes hwrites fun value haction => h value ?_
    rw [hactions, ← haction]
    simp

/-! ### The country of a page -/

/-- A step puts into the country only what it chooses in the dropdown. -/
theorem chosen?_of_dispatched {b : Billing} {next : Step} {value : String}
    (h : Action.edit .country value ∈ Screen.dispatched b next) : chosen? next = some value := by
  cases next with
  | signal signal =>
    cases signal with
    | reply number reply =>
      obtain ⟨patch, -, hpatch⟩ := List.mem_map.1 h
      cases hpatch
    | copied | due | inputs => cases h
  | fire kind number text =>
    rw [Screen.dispatched] at h
    cases kind with
    | click => cases h
    | change =>
      -- The dropdown is the third control that reports changes.
      rcases number with _ | _ | _ | number
      · cases List.mem_singleton.1 h
      · cases List.mem_singleton.1 h
      · cases List.mem_singleton.1 h
        rfl
      · cases h
    -- The text inputs edit other fields.
    | input =>
      rcases number with _ | _ | _ | _ | number
      · cases List.mem_singleton.1 h
      · cases List.mem_singleton.1 h
      · cases List.mem_singleton.1 h
      · cases List.mem_singleton.1 h
      · cases h
    | focusOut =>
      -- Leaving an input is no edit at all.
      rw [meaning?] at h
      by_cases hnumber : number < 2
      · rw [if_pos hnumber] at h
        cases h
      · rw [if_neg hnumber] at h
        cases h

/-- The form of a page after steps is what actions made of the empty form. -/
theorem exists_actions_after (browser : Browser) (steps : List Step) :
    ∃ actions : List Action,
      (component.after (start browser) steps).form = actions.foldl Form.apply {} ∧
      ∀ value, .edit .country value ∈ actions → value ∈ steps.filterMap chosen? := by
  -- A page goes on from where it is, so the last step is the one to take apart.
  induction steps using List.reverseRecOn with
  | nil => exact ⟨[], rfl, fun _ hmem => absurd hmem List.not_mem_nil⟩
  | append_singleton steps next ih =>
    obtain ⟨actions, hform, hchosen⟩ := ih
    refine ⟨actions ++ Screen.dispatched (component.after (start browser) steps) next, ?_, ?_⟩
    · rw [Component.after_concat, List.foldl_append, ← hform]
      exact Screen.form_taken _ next
    · intro value hmem
      rw [List.filterMap_append, List.mem_append]
      rcases List.mem_append.1 hmem with hmem | hmem
      · exact .inl (hchosen value hmem)
      · have hnext : next ∈ [next] := List.mem_singleton.2 rfl
        exact .inr (List.mem_filterMap.2 ⟨next, hnext, chosen?_of_dispatched hmem⟩)

/-! ### The dropdown -/

/-- The dropdown for the country. -/
def dropdown (form : Form) : Element Message where
  tag := "select"
  attributes := { plain := [("id", "billing-country"), ("name", "country")] }
  body := .concat (countryOptions form)

/-- The option for a choice. -/
def optionFor (form : Form) (choice : String × String) : Element Message where
  tag := "option"
  attributes := { value := some choice.1, flags := [("selected", form.country == choice.1)] }
  body := .concat [.text choice.2]

/-- The choices with their labels. -/
def choices : List (String × String) :=
  ("", "---------") :: Settings.countries

/-- The page has one element for the country, its dropdown. -/
theorem withId_country_view (b : Billing) :
    b.view.withId "billing-country" = [dropdown b.form] := by
  have hoptions := flatMap_countryOptions b.form (f := Html.withId "billing-country")
    fun code name => by simp [countryOption]
  rw [view]
  simp [tokenInput, labelFor, textInput, Html.find_append, hoptions, dropdown]

/-- The options of the dropdown are those of the choices, in order. -/
theorem options_dropdown (form : Form) :
    (dropdown form).body.options = choices.map (optionFor form) := by
  have hoption (choice : String × String) :
      (countryOption form choice.1 choice.2).options = [optionFor form choice] := by
    simp [countryOption, optionFor]
  have hchoices : countryOptions form =
      choices.map fun choice => countryOption form choice.1 choice.2 := rfl
  rw [dropdown, Html.options, Html.find_concat, hchoices, List.flatMap_map, List.map_eq_flatMap]
  exact List.flatMap_congr fun choice _ => hoption choice

/-- An option is selected if its value is the country of the form. -/
theorem isSelected_optionFor (form : Form) (choice : String × String) :
    (optionFor form choice).isSelected = decide (choice.1 = form.country) := by
  have hflag : (optionFor form choice).isSelected = true ↔ form.country = choice.1 := by
    simp [Element.isSelected, optionFor]
  rw [Bool.eq_iff_iff, hflag, decide_eq_true_eq]
  exact eq_comm

/-- A country that can be chosen is selected in the dropdown, and no other. -/
theorem showsChoice_view (b : Billing) (h : IsChoice b.form.country) :
    ShowsChoice b.view b.form.country := by
  have hnodup : (choices.map Prod.fst).Nodup := by decide +kernel
  have hmem : b.form.country ∈ choices.map Prod.fst := List.mem_cons.2 h
  obtain ⟨choice, hchoice, hcode⟩ := List.mem_map.1 hmem
  -- The options are selected by their codes, and no code stands among the choices twice.
  have hselected : (Element.isSelected ∘ optionFor b.form) =
      fun other : String × String => decide (other.1 = choice.1) := by
    funext other
    rw [Function.comp_apply, isSelected_optionFor, hcode]
  refine ⟨_, optionFor b.form choice, b.withId_country_view, rfl, ?_, congrArg some hcode⟩
  rw [options_dropdown, List.filter_map, hselected,
    List.filter_eq_singleton_of_nodup hnodup hchoice, List.map_singleton]

/-- The dropdown always has exactly one selected option. Whatever is done to the empty form, as long
as only choices of the dropdown are put into the country itself, the country is one of the choices,
and every page with this form shows it as the one that is selected. So does the page after any
steps, whatever is typed and answered. -/
theorem one_country_selected :
    (∀ actions : List Action, (∀ value, .edit .country value ∈ actions → IsChoice value) →
      IsChoice (actions.foldl Form.apply {}).country ∧
      ∀ b : Billing, b.form = actions.foldl Form.apply {} → ShowsChoice b.view b.form.country) ∧
    ∀ (browser : Browser) (steps : List Step),
      (∀ value ∈ steps.filterMap chosen?, IsChoice value) →
      IsChoice (component.after (start browser) steps).form.country ∧
      ShowsChoice (component.view (component.after (start browser) steps))
        (component.after (start browser) steps).form.country := by
  have hactions (actions : List Action)
      (h : ∀ value, .edit .country value ∈ actions → IsChoice value) :
      IsChoice (actions.foldl Form.apply {}).country := isChoice_foldl (.inl rfl) h
  refine ⟨fun actions h => ⟨hactions actions h, fun b hform => ?_⟩, fun browser steps h => ?_⟩
  · apply showsChoice_view
    rw [hform]
    exact hactions actions h
  · obtain ⟨actions, hform, hchosen⟩ := exists_actions_after browser steps
    have hchoice : IsChoice (component.after (start browser) steps).form.country := by
      rw [hform]
      exact hactions actions fun value hmem => h value (hchosen value hmem)
    exact ⟨hchoice, showsChoice_view _ hchoice⟩

/-- A country is chosen, and then a country code is typed with a ligature that stands for two
letters. -/
def ligatureTyped : List Step := [
  .fire .change 2 "GB",
  .fire .change 0 " \ufb01"]

/-- The ligature selects Finland. So does the same code after Greece was chosen on the form. -/
theorem one_country_selected_ligatureTyped :
    (∀ value ∈ ligatureTyped.filterMap chosen?, IsChoice value) ∧
      ShowsChoice (component.view (component.after (start {}) ligatureTyped)) "FI" ∧
      (∀ value, .edit .country value ∈
        [Action.edit .country "GR", .edit .countryCode "\ufb01"] → IsChoice value) ∧
      ([Action.edit .country "GR", .edit .countryCode "\ufb01"].foldl Form.apply {}).country =
        "FI" ∧
      ShowsChoice (view { token := "", form := { countryCode := "\ufb01", country := "FI" } })
        "FI" := by
  obtain ⟨hforms, hpages⟩ := one_country_selected
  have hchosen : ∀ value ∈ ligatureTyped.filterMap chosen?, IsChoice value := by
    intro value hmem
    cases List.mem_singleton.1 hmem
    exact .inr (by decide +kernel)
  have hedits : ∀ value, .edit .country value ∈
      [Action.edit .country "GR", .edit .countryCode "\ufb01"] → IsChoice value := by
    intro value hmem
    rcases List.mem_cons.1 hmem with hmem | hmem
    · cases hmem
      exact .inr (by decide +kernel)
    · cases List.mem_singleton.1 hmem
  have hcountry : (component.after (start {}) ligatureTyped).form.country = "FI" := by
    decide +kernel
  obtain ⟨-, hpage⟩ := hpages {} ligatureTyped hchosen
  rw [hcountry] at hpage
  obtain ⟨-, hform⟩ := hforms _ hedits
  exact ⟨hchosen, hpage, hedits, by decide +kernel, hform _ (by decide +kernel)⟩

end DonationSite.Page.Billing
