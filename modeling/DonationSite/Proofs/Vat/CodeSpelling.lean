import DonationSite.Billing.Form
import DonationSite.Proofs.Text.Upper
import DonationSite.Proofs.Vat.Request

/-!
# The spelling of a country code

A country code may be typed in any case and with blanks around it. The request for a VAT number and
the choice of a country each bring it into the same form, trimmed and in uppercase, which is a fixed
point of doing so again. So no spelling makes a difference to either.

## Key results

- `canonical_canonical`: the form of the form is that form
- `ofInputs?_canonical`, `countryOfCode?_canonical`: only the form matters
- `countryOfCode?_of_eq_some`: a country is the country of its own code
- `spelling_makes_no_difference`: all of this for every text
-/

namespace DonationSite.Vat

open Text (trim upper)

/-- The form of a country code that all its spellings have in common. -/
def canonical (code : String) : String :=
  upper (trim code)

/-- The common form has no blanks around it. -/
theorem trim_canonical (code : String) : trim (canonical code) = canonical code := by
  rw [canonical, Text.trim_upper, Text.trim_trim]

/-- The form of the form is that form: uppercase adds no blanks, and twice is once. -/
theorem canonical_canonical (code : String) : canonical (canonical code) = canonical code := by
  rw [canonical, trim_canonical, canonical, Text.upper_upper]

/-! ### Requests -/

/-- A code is blank in every spelling or in none. -/
theorem isBlankText_canonical (code : String) :
    Text.isBlankText (canonical code) = Text.isBlankText code := by
  rw [← Text.isEmpty_trim, trim_canonical, canonical, Text.isEmpty_upper, Text.isEmpty_trim]

/-- A code makes the same requests as its common form. -/
theorem ofInputs?_canonical (code number token : String) :
    Request.ofInputs? (canonical code) number token = Request.ofInputs? code number token := by
  by_cases hblank : (Text.isBlankText code || Text.isBlankText number) = true
  · have hcanonical : (Text.isBlankText (canonical code) || Text.isBlankText number) = true := by
      rwa [isBlankText_canonical]
    rw [Request.ofInputs?_of_blank hblank, Request.ofInputs?_of_blank hcanonical]
  · rw [Bool.not_eq_true] at hblank
    have hcanonical : (Text.isBlankText (canonical code) || Text.isBlankText number) = false := by
      rwa [isBlankText_canonical]
    rw [Request.ofInputs?_of_not_blank hblank, Request.ofInputs?_of_not_blank hcanonical]
    show some ⟨canonical (canonical code) ++ trim number, token⟩ =
      some (⟨canonical code ++ trim number, token⟩ : Request)
    rw [canonical_canonical]

/-! ### Countries -/

/-- A code belongs to the same country as its common form. -/
theorem countryOfCode?_canonical (code : String) :
    countryOfCode? (canonical code) = countryOfCode? code := by
  have hcanonical : upper (trim (canonical code)) = upper (trim code) := canonical_canonical code
  rw [countryOfCode?, countryOfCode?, hcanonical]

/-- A code is blank, one of the two that are not ISO codes, or an ISO code. -/
theorem countryOfCode?_cases (code : String) :
    countryOfCode? code = none ∨ countryOfCode? code = some "GR" ∨
      countryOfCode? code = some "GB" ∨
      (canonical code ≠ "" ∧ canonical code ≠ "EL" ∧ canonical code ≠ "XI" ∧
        countryOfCode? code = some (canonical code)) := by
  rw [countryOfCode?, canonical]
  -- Only the common form is looked at, never the text it was made of.
  generalize upper (trim code) = form
  split
  · exact .inl rfl
  · exact .inr (.inl rfl)
  · exact .inr (.inr (.inl rfl))
  · next hempty hgreece hireland => exact .inr (.inr (.inr ⟨hempty, hgreece, hireland, rfl⟩))

/-- A country that is found has a code of its own, and is the country of that code. -/
theorem countryOfCode?_of_eq_some {code country : String} (h : countryOfCode? code = some country) :
    country ≠ "" ∧ country ≠ "EL" ∧ country ≠ "XI" ∧ countryOfCode? country = some country := by
  rcases countryOfCode?_cases code with hnone | hgreece | hireland | ⟨hempty, hel, hxi, hself⟩
  · rw [hnone] at h
    cases h
  -- The two codes that are not ISO codes are looked up as what they stand for.
  · rw [hgreece] at h
    obtain rfl := Option.some.inj h
    decide +kernel
  · rw [hireland] at h
    obtain rfl := Option.some.inj h
    decide +kernel
  · -- The country is the common form of its code, which is the form of itself.
    have hcountry : canonical code = country := Option.some.inj (hself.symm.trans h)
    rw [← countryOfCode?_canonical, hcountry] at h
    rw [hcountry] at hempty hel hxi
    exact ⟨hempty, hel, hxi, h⟩

/-- The spelling of a country code makes no difference: the code as it was typed and its uppercase
form without blanks around it make the same requests and select the same country in every form, and
they belong to the same country. And a country that a code belongs to is neither empty nor one of
the two codes that are not ISO codes, and is the country of its own code. -/
theorem spelling_makes_no_difference (code : String) :
    (∀ number token, Request.ofInputs? code number token =
      Request.ofInputs? (upper (trim code)) number token) ∧
    (∀ form : Billing.Form, (form.apply (.edit .countryCode code)).country =
      (form.apply (.edit .countryCode (upper (trim code)))).country) ∧
    countryOfCode? code = countryOfCode? (upper (trim code)) ∧
    ∀ country, countryOfCode? code = some country →
      country ≠ "" ∧ country ≠ "EL" ∧ country ≠ "XI" ∧ countryOfCode? country = some country := by
  have hcountry : countryOfCode? code = countryOfCode? (upper (trim code)) :=
    (countryOfCode?_canonical code).symm
  refine ⟨fun number token => (ofInputs?_canonical code number token).symm, fun form => ?_,
    hcountry, fun country h => countryOfCode?_of_eq_some h⟩
  -- An edit of the code reads it only to look the country up.
  simp only [Billing.Form.apply, Billing.Form.edit, Billing.countryOffered?, hcountry]

/-- The code of Finland, typed as a ligature between blanks of two kinds, is the code of Finland. -/
theorem spelling_makes_no_difference_ligature :
    upper (trim "\u00a0ﬁ ") = "FI" ∧
      Request.ofInputs? "\u00a0ﬁ " "12" "t" = Request.ofInputs? "FI" "12" "t" ∧
      (Billing.Form.apply {} (.edit .countryCode "\u00a0ﬁ ")).country =
        (Billing.Form.apply {} (.edit .countryCode "FI")).country ∧
      countryOfCode? "\u00a0ﬁ " = some "FI" ∧ countryOfCode? "FI" = some "FI" := by
  obtain ⟨hrequest, hform, -, hown⟩ := spelling_makes_no_difference "\u00a0ﬁ "
  have hcode : upper (trim "\u00a0ﬁ ") = "FI" := by decide +kernel
  rw [hcode] at hrequest hform
  have hfound : countryOfCode? "\u00a0ﬁ " = some "FI" := by decide +kernel
  obtain ⟨-, -, -, hself⟩ := hown "FI" hfound
  exact ⟨hcode, hrequest "12" "t", hform {}, hfound, hself⟩

end DonationSite.Vat
