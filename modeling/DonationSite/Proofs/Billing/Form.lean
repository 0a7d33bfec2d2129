import DonationSite.Billing.Form
import DonationSite.Proofs.Vat.Patch

/-!
# What a lookup fills into the form

A patch of an answer holds no empty text and no blanks around one, so that filling it in can only
replace texts of the form by texts with something in them.

## Key results

- `get_fill`: filling in a patch, field by field
- `fill_never_blanks`: the texts of a patch, and what they do to a form
-/

namespace DonationSite.Billing

open Vat (Patch Answer Locality)
open Text (Tidy trim)

/-- The text that a patch has for a field of the form. -/
def filling (patch : Patch) : Field → Option String
  | .name => patch.name
  | .address => patch.address
  | .city => patch.city
  | .postcode => patch.postcode
  | .countryCode | .vatNumber | .country => none

/-- A field holds the text that a patch has for it, or else what it held before. -/
theorem get_fill (form : Form) (patch : Patch) (field : Field) :
    (form.fill patch).get field = (filling patch field).getD (form.get field) := by
  cases field <;> rfl

variable {answer : Answer} {patch : Patch}

/-- A text for the form is not empty and has no blanks around it; only a name can have several
lines. -/
theorem of_filling (h : Patch.ofAnswer? answer = some patch) {field : Field} {text : String}
    (htext : filling patch field = some text) :
    Tidy text.toList ∧ (field ≠ .name → '\n' ∉ text.toList) := by
  rcases Patch.ofAnswer?_cases h with
    rfl | ⟨first, last, ⟨hfirst, hfirstLine⟩, ⟨hlast, hlastLine⟩, rfl⟩
  -- Nothing but the name is filled in, which may be of several lines.
  · cases field with
    | name => exact ⟨Vat.tidy_of_stated? htext, fun hne => absurd rfl hne⟩
    | _ => cases htext
  · -- Postcode and city hold only characters of the last line.
    have hlocality (htext : (Locality.ofLine last).postcode = some text ∨
        (Locality.ofLine last).city = text) : Tidy text.toList ∧ '\n' ∉ text.toList := by
      obtain ⟨htidy, hmem⟩ := Locality.tidy_ofLine hlast htext
      exact ⟨htidy, fun hnewline => hlastLine (hmem _ hnewline)⟩
    cases field with
    | name => exact ⟨Vat.tidy_of_stated? htext, fun hne => absurd rfl hne⟩
    | address =>
      cases htext
      rw [String.toList_ofList]
      exact ⟨hfirst, fun _ => hfirstLine⟩
    | city => exact (hlocality (.inr (Option.some.inj htext))).imp_right fun hline _ => hline
    | postcode => exact (hlocality (.inl htext)).imp_right fun hline _ => hline
    | _ => cases htext

/-- A field with a text in it still has one after a lookup filled in what it found. -/
theorem get_fill_ne_empty (h : Patch.ofAnswer? answer = some patch) {form : Form} {field : Field}
    (hfield : form.get field ≠ "") : (form.fill patch).get field ≠ "" := by
  rw [get_fill]
  -- The patch has nothing for the field, or a text, and that is not empty.
  cases htext : filling patch field with
  | none => exact hfield
  | some text => exact (Text.tidy_toList_iff.1 (of_filling h htext).1).1

/-- An answer fills in nothing exactly if it is not valid. Otherwise every text of its patch is not
empty and has no blanks around it, and all but the name are one line; a city comes with an address
and only with one, a postcode only with a city. So a lookup never empties a field that has a text,
and leaves the country code, the VAT number and the country as they are. -/
theorem fill_never_blanks (answer : Answer) :
    (Patch.ofAnswer? answer = none ↔ answer.valid = false) ∧
    ∀ patch, Patch.ofAnswer? answer = some patch →
      (∀ field text, filling patch field = some text →
        text ≠ "" ∧ trim text = text ∧ (field ≠ .name → '\n' ∉ text.toList)) ∧
      (patch.city.isSome = true ↔ patch.address.isSome = true) ∧
      (patch.postcode.isSome = true → patch.city.isSome = true) ∧
      ∀ form : Form,
        (∀ field ∈ [Field.name, .address, .city, .postcode], form.get field ≠ "" →
          (form.apply (.autofill patch)).get field ≠ "") ∧
        ∀ field ∈ [Field.countryCode, .vatNumber, .country],
          (form.apply (.autofill patch)).get field = form.get field := by
  refine ⟨?_, fun patch h => ⟨fun field text htext => ?_, ?_, ?_, fun form => ⟨?_, ?_⟩⟩⟩
  · rw [← Option.not_isSome_iff_eq_none, Patch.ofAnswer?_isSome, Bool.not_eq_true]
  · obtain ⟨htidy, hline⟩ := of_filling h htext
    obtain ⟨hne, htrim⟩ := Text.tidy_toList_iff.1 htidy
    exact ⟨hne, htrim, hline⟩
  -- An address fills in a city too, and without one there is neither.
  · rcases Patch.ofAnswer?_cases h with rfl | ⟨first, last, -, -, rfl⟩
    · exact Iff.rfl
    · exact Iff.rfl
  · intro hpostcode
    rcases Patch.ofAnswer?_cases h with rfl | ⟨first, last, -, -, rfl⟩
    · cases hpostcode
    · rfl
  · exact fun field _ hfield => get_fill_ne_empty h hfield
  · intro field hmem
    simp only [List.mem_cons, List.not_mem_nil, or_false] at hmem
    rcases hmem with rfl | rfl | rfl <;> rfl

/-- A valid answer without a name, and with an address of one line, padded by a no-break space. -/
def oneLine : Answer :=
  { valid := true, name := some "---", address := some "\u00a0Town  999\n" }

/-- What `oneLine` fills in. -/
def oneLinePatch : Patch :=
  { address := some "Town  999", city := some "Town", postcode := some "999" }

/-- A form that was filled in before. -/
def filledForm : Form :=
  { countryCode := "cz", country := "CZ", name := "Old name", city := "Old town" }

/-- The old name stays, and the city is replaced by another. -/
theorem fill_never_blanks_oneLine :
    Patch.ofAnswer? oneLine = some oneLinePatch ∧
      filling oneLinePatch .city = some "Town" ∧ trim "Town" = "Town" ∧
      filledForm.get .name ≠ "" ∧ (filledForm.apply (.autofill oneLinePatch)).get .name ≠ "" ∧
      filledForm.get .city ≠ "" ∧ (filledForm.apply (.autofill oneLinePatch)).get .city ≠ "" ∧
      (filledForm.apply (.autofill oneLinePatch)).get .country = filledForm.get .country := by
  have hpatch : Patch.ofAnswer? oneLine = some oneLinePatch := by decide
  obtain ⟨-, hvalid⟩ := fill_never_blanks oneLine
  obtain ⟨htexts, -, -, hform⟩ := hvalid oneLinePatch hpatch
  obtain ⟨hkept, hother⟩ := hform filledForm
  have hname : filledForm.get .name ≠ "" := by decide
  have hcity : filledForm.get .city ≠ "" := by decide
  exact ⟨hpatch, rfl, (htexts .city "Town" rfl).2.1, hname, hkept .name (by simp) hname, hcity,
    hkept .city (by simp) hcity, hother .country (by simp)⟩

end DonationSite.Billing
