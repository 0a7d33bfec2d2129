import DonationSite.Proofs.Billing.Form

/-!
# The last writer of a field

Each action writes some fields of the form and leaves the others alone. An edit writes its own
field, that of the country code perhaps the country too, and a lookup writes the fields that it
found a text for. What a field holds in the end is what the last action wrote that writes it.

## Key results

- `get_apply_of_writes`, `get_apply_of_not_writes`: what one action does to one field
- `LastWritten.get_eq`, `exists_lastWritten`: what actions do to one field
- `apply_comm`: actions that write different fields can be swapped
- `last_writer_wins`: both for every form and all actions
-/

namespace DonationSite.Billing

open Vat (Patch)

/-- What an action writes, and into which field. -/
inductive Action.Writes : Action → Field → String → Prop where
  /-- An edit writes its own field, just as it was typed. -/
  | own (field : Field) (value : String) : Action.Writes (.edit field value) field value
  /-- The edit of a country code also writes the country that it belongs to, if that is on offer. -/
  | country {code country : String} : Vat.countryOfCode? code = some country →
    country ∈ Settings.countries.map Prod.fst →
    Action.Writes (.edit .countryCode code) .country country
  /-- A lookup writes the texts that it found. -/
  | found {patch : Patch} {field : Field} {value : String} : filling patch field = some value →
    Action.Writes (.autofill patch) field value

/-- Whether an action writes a field at all. -/
def Action.WritesTo (action : Action) (field : Field) : Prop :=
  ∃ value, action.Writes field value

/-- The text that a field holds after actions: what the last of them wrote that writes the field, or
else what it held at first. -/
inductive LastWritten (form : Form) (actions : List Action) (field : Field) : String → Prop where
  | never : (∀ action ∈ actions, ¬action.WritesTo field) →
    LastWritten form actions field (form.get field)
  | last {before after : List Action} {action : Action} {value : String} :
    actions = before ++ action :: after → action.Writes field value →
    (∀ other ∈ after, ¬other.WritesTo field) → LastWritten form actions field value

variable {form : Form} {action first second : Action} {actions : List Action} {field : Field}
  {value : String}

/-! ### One action -/

/-- A code leads to a country that is on offer and has this code. -/
theorem countryOffered?_eq_some_iff {code country : String} :
    countryOffered? code = some country ↔
      Vat.countryOfCode? code = some country ∧ country ∈ Settings.countries.map Prod.fst := by
  rw [countryOffered?, Option.filter_eq_some_iff, isOffered, List.any_eq_true, List.mem_map]
  simp only [beq_iff_eq]

/-- An edit of the country code writes the country only if it is on offer. -/
theorem get_country_edit (form : Form) (code : String) :
    (form.apply (.edit .countryCode code)).get .country =
      (countryOffered? code).getD (form.get .country) := by
  simp only [Form.apply, Form.edit, Form.get]

/-- An edit of any other field writes that field and no other. -/
theorem apply_edit {own : Field} (h : own ≠ .countryCode) (form : Form) (value : String) :
    form.apply (.edit own value) = form.set own value := by
  cases own with
  | countryCode => exact absurd rfl h
  | _ => rfl

/-- What an action writes into a field is there afterwards. -/
theorem get_apply_of_writes (h : action.Writes field value) :
    (form.apply action).get field = value := by
  cases h with
  | own =>
    cases field <;> rfl
  | country hcode hoffered =>
    rw [get_country_edit, countryOffered?_eq_some_iff.2 ⟨hcode, hoffered⟩, Option.getD_some]
  | found htext =>
    show (form.fill _).get field = value
    rw [get_fill, htext, Option.getD_some]

/-- A field that an action does not write is left as it is. -/
theorem get_apply_of_not_writes (h : ¬action.WritesTo field) :
    (form.apply action).get field = form.get field := by
  cases action with
  | autofill patch =>
    -- No text was found for the field.
    have hnone : filling patch field = none := by
      rw [Option.eq_none_iff_forall_ne_some]
      exact fun value htext => h ⟨value, .found htext⟩
    show (form.fill patch).get field = _
    rw [get_fill, hnone, Option.getD_none]
  | edit own value =>
    have hne : field ≠ own := by
      rintro rfl
      exact h ⟨value, .own field value⟩
    -- Only the edit of a country code may write a second field.
    by_cases hcode : own = .countryCode
    · subst hcode
      cases field with
      | country =>
        -- The code belongs to no country on offer.
        have hnone : countryOffered? value = none := by
          rw [Option.eq_none_iff_forall_ne_some]
          intro country hoffered
          obtain ⟨hcountry, hmem⟩ := countryOffered?_eq_some_iff.1 hoffered
          exact h ⟨country, .country hcountry hmem⟩
        rw [get_country_edit, hnone, Option.getD_none]
      | countryCode => exact absurd rfl hne
      | vatNumber | name | address | city | postcode => rfl
    · rw [apply_edit hcode, Form.get_set_of_ne form value hne]

/-! ### Actions in a row -/

/-- A field that no action writes is left as it is. -/
theorem get_foldl_of_not_writes (h : ∀ action ∈ actions, ¬action.WritesTo field) (form : Form) :
    (actions.foldl Form.apply form).get field = form.get field := by
  induction actions generalizing form with
  | nil => rfl
  | cons action actions ih =>
    obtain ⟨haction, hactions⟩ := List.forall_mem_cons.1 h
    rw [List.foldl_cons, ih hactions, get_apply_of_not_writes haction]

/-- A field holds what was last written into it. -/
theorem LastWritten.get_eq (h : LastWritten form actions field value) :
    (actions.foldl Form.apply form).get field = value := by
  cases h with
  | never hnone => exact get_foldl_of_not_writes hnone form
  | last hactions hwrites hafter =>
    rw [hactions, List.foldl_append, List.foldl_cons, get_foldl_of_not_writes hafter,
      get_apply_of_writes hwrites]

/-- Something was last written into a field, or nothing ever. -/
theorem exists_lastWritten (form : Form) (actions : List Action) (field : Field) :
    ∃ value, LastWritten form actions field value := by
  -- The first action counts only if none after it writes the field.
  induction actions with
  | nil => exact ⟨_, .never (List.forall_mem_nil _)⟩
  | cons action actions ih =>
    obtain ⟨value, hlast⟩ := ih
    cases hlast with
    | @last before after writer _ hactions hwrites hafter =>
      -- A later action is the last writer as before.
      have hall : action :: actions = (action :: before) ++ writer :: after := by
        rw [hactions, List.cons_append]
      exact ⟨value, .last hall hwrites hafter⟩
    | never hnone =>
      by_cases hwrites : action.WritesTo field
      · obtain ⟨value, hvalue⟩ := hwrites
        have hall : action :: actions = [] ++ action :: actions := rfl
        exact ⟨value, .last hall hvalue hnone⟩
      · exact ⟨_, .never (List.forall_mem_cons.2 ⟨hwrites, hnone⟩)⟩

/-- What a field holds and what was last written into it are the same. -/
theorem get_foldl_eq_iff :
    (actions.foldl Form.apply form).get field = value ↔ LastWritten form actions field value := by
  constructor
  -- Something was last written, and that is what the field holds.
  · rintro rfl
    obtain ⟨value, hlast⟩ := exists_lastWritten form actions field
    rwa [hlast.get_eq]
  · exact LastWritten.get_eq

/-! ### Actions that write different fields -/

/-- A form is told by the texts in its fields. -/
theorem Form.ext_get {form other : Form} (h : ∀ field, form.get field = other.get field) :
    form = other := by
  cases form
  cases other
  rw [Form.mk.injEq]
  exact ⟨h .countryCode, h .vatNumber, h .country, h .name, h .address, h .city, h .postcode⟩

/-- Two actions that write different fields can be taken in either order. -/
theorem apply_comm (h : ∀ field, ¬(first.WritesTo field ∧ second.WritesTo field)) (form : Form) :
    (form.apply first).apply second = (form.apply second).apply first := by
  apply Form.ext_get
  intro field
  -- Where one of the two writes, the other leaves the field alone, first or second.
  by_cases hfirst : first.WritesTo field
  · have hsecond : ¬second.WritesTo field := fun hsecond => h field ⟨hfirst, hsecond⟩
    obtain ⟨value, hvalue⟩ := hfirst
    rw [get_apply_of_not_writes hsecond, get_apply_of_writes hvalue, get_apply_of_writes hvalue]
  · by_cases hsecond : second.WritesTo field
    · obtain ⟨value, hvalue⟩ := hsecond
      rw [get_apply_of_writes hvalue, get_apply_of_not_writes hfirst, get_apply_of_writes hvalue]
    · rw [get_apply_of_not_writes hsecond, get_apply_of_not_writes hfirst,
        get_apply_of_not_writes hfirst, get_apply_of_not_writes hsecond]

/-- Of all actions the last one that writes a field wins: the field holds what it wrote, and without
such an action what the field held at first. So two actions next to each other that write different
fields can be swapped, and the form in the end is the same. -/
theorem last_writer_wins (form : Form) :
    (∀ actions field value,
      (actions.foldl Form.apply form).get field = value ↔ LastWritten form actions field value) ∧
    ∀ (before after : List Action) (first second : Action),
      (∀ field, ¬(first.WritesTo field ∧ second.WritesTo field)) →
      (before ++ first :: second :: after).foldl Form.apply form =
        (before ++ second :: first :: after).foldl Form.apply form := by
  refine ⟨fun _ _ _ => get_foldl_eq_iff, fun before after first second h => ?_⟩
  rw [List.foldl_append, List.foldl_append, List.foldl_cons, List.foldl_cons, List.foldl_cons,
    List.foldl_cons, apply_comm h]

/-- A company in Greece is found. -/
def foundInGreece : List Action := [
  .edit .countryCode " el",
  .autofill { name := some "ACME", city := some "Town" }]

/-- The visitor types another name, and then starts on another country code. The name stays, as do
the city that was found and the country, also if the two edits come the other way round. -/
theorem last_writer_wins_editedMeanwhile :
    let edits := [Action.edit .name "Ada", .edit .countryCode "x"]
    LastWritten {} (foundInGreece ++ edits) .name "Ada" ∧
      LastWritten {} (foundInGreece ++ edits) .city "Town" ∧
      LastWritten {} (foundInGreece ++ edits) .country "GR" ∧
      (∀ field, ¬((Action.edit .name "Ada").WritesTo field ∧
        (Action.edit .countryCode "x").WritesTo field)) ∧
      (foundInGreece ++ edits).foldl Form.apply {} =
        (foundInGreece ++ edits.reverse).foldl Form.apply {} := by
  obtain ⟨hlast, hswap⟩ := last_writer_wins {}
  -- The first writes its name, the second its code, and the code belongs to no country.
  have hapart : ∀ field, ¬((Action.edit .name "Ada").WritesTo field ∧
      (Action.edit .countryCode "x").WritesTo field) := by
    rintro field ⟨⟨_, hname⟩, ⟨_, hcode⟩⟩
    cases hname
    cases hcode
  intro edits
  refine ⟨?_, ?_, ?_, hapart, hswap foundInGreece [] _ _ hapart⟩
  · exact (hlast _ .name "Ada").1 (by decide +kernel)
  · exact (hlast _ .city "Town").1 (by decide +kernel)
  · exact (hlast _ .country "GR").1 (by decide +kernel)

end DonationSite.Billing
