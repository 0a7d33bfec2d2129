import DonationSite.Proofs.Text.Percent
import DonationSite.Proofs.Text.Pieces
import DonationSite.Vat.Request

/-!
# The form body of a request

A server that reads the body of a request as a form finds two fields, the VAT number and the token,
each exactly as it was put in. Whatever stands in the two texts, it can neither end a field nor
begin another, since the encoding leaves no delimiter in them.

## Key results

- `split_toForm`: the body has two parts, each a key and an encoded text
- `formFields?_toForm`: what a server reads
- `toForm_unambiguous`: all of this, and that two requests never have the same body
-/

namespace DonationSite.Vat

open Text (split splitFirst)
open Text.Percent (encode decode? isEncoded isEncoded_of_mem_encode decode?_encode)

/-! ### Reading a form -/

/-- A field value as a server reads it. Some servers take a plus sign for a space. -/
def readValue? (plusIsSpace : Bool) (written : List Char) : Option String :=
  decode? (String.ofList
    (if plusIsSpace then written.map fun c => if c = '+' then ' ' else c else written))

/-- The key and the value of a part of a form; none if it has no `=` or its value is no text. -/
def readField? (plusIsSpace : Bool) (part : List Char) : Option (String × String) :=
  (splitFirst '=' part).bind fun (key, written) =>
    (readValue? plusIsSpace written).map (String.ofList key, ·)

/-- The fields of a form in order, as a server reads them; none if one is malformed. -/
def formFields? (plusIsSpace : Bool) (body : String) : Option (List (String × String)) :=
  (split '&' body.toList).mapM (readField? plusIsSpace)

/-! ### Encoded texts in a form -/

/-- No delimiter and no plus sign can stand in an encoded text. -/
theorem not_mem_encode {c : Char} (hc : isEncoded c = false) (s : String) :
    c ∉ (encode s).toList := by
  intro hmem
  rw [isEncoded_of_mem_encode hmem] at hc
  cases hc

/-- An encoded text is read back, also by a server that takes a plus sign for a space. -/
theorem readValue?_encode (plusIsSpace : Bool) (s : String) :
    readValue? plusIsSpace (encode s).toList = some s := by
  have hplus : (encode s).toList.map (fun c => if c = '+' then ' ' else c) = (encode s).toList := by
    refine (List.map_congr_left fun c hmem => ?_).trans (List.map_id' _)
    -- A plus sign is always encoded.
    have hne : c ≠ '+' := by
      rintro rfl
      exact not_mem_encode rfl s hmem
    exact if_neg hne
  rw [readValue?, hplus, ite_self, String.ofList_toList, decode?_encode]

/-- A field that was written with a key is read back with it. -/
theorem readField?_encode {key : List Char} (hkey : '=' ∉ key) (plusIsSpace : Bool) (s : String) :
    readField? plusIsSpace (key ++ '=' :: (encode s).toList) = some (String.ofList key, s) := by
  rw [readField?, Text.splitFirst_append_cons hkey, Option.bind_some]
  dsimp only
  rw [readValue?_encode, Option.map_some]

namespace Request

variable (request : Request)

/-- A body is the two fields with a delimiter between them. -/
theorem toList_toForm : request.toForm.toList =
    ("vat".toList ++ '=' :: (encode request.vat).toList) ++
      '&' :: ("csrfmiddlewaretoken".toList ++ '=' :: (encode request.token).toList) := by
  simp only [toForm, Settings.csrfField, String.toList_append, List.append_assoc]
  rfl

/-- The characters of a body. -/
theorem mem_toForm {c : Char} (h : c ∈ request.toForm.toList) :
    isEncoded c = true ∨ c = '&' ∨ c = '=' := by
  have hvat : ∀ c ∈ "vat".toList, isEncoded c = true := List.all_eq_true.1 (by decide)
  have htoken : ∀ c ∈ "csrfmiddlewaretoken".toList, isEncoded c = true :=
    List.all_eq_true.1 (by decide)
  -- Either key is made of letters, so what is left are the two delimiters.
  rw [toList_toForm] at h
  simp only [List.mem_append, List.mem_cons] at h
  rcases h with (h | h | h) | h | h | h | h
  · exact .inl (hvat c h)
  · exact .inr (.inr h)
  · exact .inl (isEncoded_of_mem_encode h)
  · exact .inr (.inl h)
  · exact .inl (htoken c h)
  · exact .inr (.inr h)
  · exact .inl (isEncoded_of_mem_encode h)

/-- A body has two parts. -/
theorem split_toForm : split '&' request.toForm.toList =
    ["vat".toList ++ '=' :: (encode request.vat).toList,
      "csrfmiddlewaretoken".toList ++ '=' :: (encode request.token).toList] := by
  -- Only the `&` between the fields divides the body: neither encoded text holds one.
  have hvat : '&' ∉ "vat".toList ++ '=' :: (encode request.vat).toList := by
    have hencoded := not_mem_encode (c := '&') rfl request.vat
    simp [hencoded]
  have htoken : '&' ∉ "csrfmiddlewaretoken".toList ++ '=' :: (encode request.token).toList := by
    have hencoded := not_mem_encode (c := '&') rfl request.token
    simp [hencoded]
  rw [toList_toForm, Text.split_append_cons hvat, Text.split_of_not_mem htoken]

/-- A server reads the two fields that were written. -/
theorem formFields?_toForm (plusIsSpace : Bool) :
    formFields? plusIsSpace request.toForm =
      some [("vat", request.vat), ("csrfmiddlewaretoken", request.token)] := by
  rw [formFields?, split_toForm, List.mapM_cons, readField?_encode (by decide), List.mapM_cons,
    readField?_encode (by decide)]
  rfl

/-- Two requests with the same body are the same, since a server reads the same fields. -/
theorem toForm_inj {request other : Request} (h : other.toForm = request.toForm) :
    other = request := by
  have hfields := formFields?_toForm other false
  rw [h, formFields?_toForm] at hfields
  simp only [Option.some.injEq, List.cons.injEq, Prod.mk.injEq, true_and, and_true] at hfields
  obtain ⟨hvat, htoken⟩ := hfields
  cases request
  cases other
  cases hvat
  cases htoken
  rfl

end Request

/-- The body of a request is unambiguous. It holds only ASCII letters and digits, the marks of
percent-encoded texts and the delimiters. It has exactly two parts, the first with the key `vat` and
the second with the key `csrfmiddlewaretoken`, and what stands after the first `=` of each is read
back as the text that it was made of, also by a server that takes a plus sign for a space. So that
is all that such a server reads, and two different requests never have the same body. -/
theorem toForm_unambiguous (request : Request) :
    (∀ c ∈ request.toForm.toList,
      c.isAlphanum = true ∨ c ∈ ['-', '_', '.', '~', '%'] ∨ c = '&' ∨ c = '=') ∧
    (∃ first second vat token : List Char,
      split '&' request.toForm.toList = [first, second] ∧
      splitFirst '=' first = some ("vat".toList, vat) ∧
      splitFirst '=' second = some ("csrfmiddlewaretoken".toList, token) ∧
      ∀ plusIsSpace, readValue? plusIsSpace vat = some request.vat ∧
        readValue? plusIsSpace token = some request.token) ∧
    (∀ plusIsSpace, formFields? plusIsSpace request.toForm =
      some [("vat", request.vat), ("csrfmiddlewaretoken", request.token)]) ∧
    ∀ other : Request, other.toForm = request.toForm → other = request := by
  refine ⟨?_, ?_, request.formFields?_toForm, fun other h => Request.toForm_inj h⟩
  · intro c hmem
    rcases request.mem_toForm hmem with hencoded | hdelimiter
    · rw [isEncoded, Bool.or_eq_true, decide_eq_true_eq] at hencoded
      exact hencoded.imp_right .inl
    · exact .inr (.inr hdelimiter)
  · refine ⟨_, _, _, _, request.split_toForm, Text.splitFirst_append_cons (by decide) _,
      Text.splitFirst_append_cons (by decide) _, fun plusIsSpace => ?_⟩
    exact ⟨readValue?_encode plusIsSpace request.vat, readValue?_encode plusIsSpace request.token⟩

/-- A request whose texts hold delimiters, a plus sign, a percent sign and a letter that is not
ASCII. -/
def delimitersTyped : Request := ⟨"CZ1&csrfmiddlewaretoken=x+%", "é"⟩

/-- The typed delimiters begin no field. -/
theorem toForm_unambiguous_delimitersTyped :
    delimitersTyped.toForm =
        "vat=CZ1%26csrfmiddlewaretoken%3Dx%2B%25&csrfmiddlewaretoken=%C3%A9" ∧
      formFields? true delimitersTyped.toForm =
        some [("vat", "CZ1&csrfmiddlewaretoken=x+%"), ("csrfmiddlewaretoken", "é")] ∧
      ∀ other : Request, other.toForm = delimitersTyped.toForm → other = delimitersTyped := by
  obtain ⟨-, -, hfields, hinj⟩ := toForm_unambiguous delimitersTyped
  exact ⟨by decide +kernel, hfields true, hinj⟩

end DonationSite.Vat
