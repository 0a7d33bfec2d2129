import DonationSite.Csrf
import DonationSite.Proofs.Cookie

/-!
# The token of a page

Which text is the token that a page uses: the one in its hidden input, or else the one in its
cookie, or else the empty text.

## Key results

- `isPageToken_iff`: every page has exactly one token, the one that is computed
-/

namespace DonationSite.Csrf

/-- The page has a hidden token input of its own with a text in it. -/
structure InputToken (browser : Browser) (token : String) : Prop where
  hasWindow : browser.hasWindow = true
  hasDocument : browser.hasDocument = true
  input : browser.tokenInput = .input token
  ne_empty : token ≠ ""

/-- The cookies of the page can be read, and the first one with the name of the token cookie stands
for a text. -/
structure CookieToken (browser : Browser) (token : String) : Prop where
  hasWindow : browser.hasWindow = true
  hasDocument : browser.hasDocument = true
  isHtml : browser.isHtml = true
  cookie : ∃ text written, browser.cookies = some text ∧
    Cookie.FirstWritten text "csrftoken" written ∧
    Text.Percent.decode? (String.ofList written) = some token
  ne_empty : token ≠ ""

/-- The token of a page. Its own input comes before the cookie, and the cookie before nothing. -/
inductive IsPageToken (browser : Browser) : String → Prop where
  | input {token : String} : InputToken browser token → IsPageToken browser token
  | cookie {token : String} : (∀ other, ¬InputToken browser other) → CookieToken browser token →
    IsPageToken browser token
  | none : (∀ other, ¬InputToken browser other) → (∀ other, ¬CookieToken browser other) →
    IsPageToken browser ""

variable {browser : Browser} {token : String}

/-- A page has a token in its input exactly if it is a page and one is found there. -/
theorem inputToken_iff : InputToken browser token ↔
    (browser.hasWindow && browser.hasDocument) = true ∧ inputToken? browser = some token := by
  rw [Bool.and_eq_true]
  constructor
  · rintro ⟨hwindow, hdocument, hinput, htoken⟩
    exact ⟨⟨hwindow, hdocument⟩, by simp [inputToken?, hinput, htoken]⟩
  · rintro ⟨⟨hwindow, hdocument⟩, hfound⟩
    -- An input without text counts as none.
    unfold inputToken? at hfound
    split at hfound
    · next value hinput =>
      split at hfound
      · cases hfound
      · next hvalue =>
        cases hfound
        exact ⟨hwindow, hdocument, hinput, by simpa using hvalue⟩
    · cases hfound

/-- The same for the token in its cookie. -/
theorem cookieToken_iff : CookieToken browser token ↔
    (browser.hasWindow && browser.hasDocument) = true ∧ cookieToken? browser = some token := by
  -- No key with an equals sign could be found in a cookie text.
  have hname : '=' ∉ Settings.csrfCookie.toList := by decide
  rw [Bool.and_eq_true, cookieToken?, Option.ite_none_right_eq_some, Option.bind_eq_some_iff]
  constructor
  · rintro ⟨hwindow, hdocument, hhtml, ⟨text, written, hcookies, hfirst, hdecode⟩, htoken⟩
    exact ⟨⟨hwindow, hdocument⟩, hhtml, text, hcookies,
      (Cookie.lookup_eq_some_iff hname).2 ⟨written, hfirst, hdecode, htoken⟩⟩
  · rintro ⟨⟨hwindow, hdocument⟩, hhtml, text, hcookies, hlookup⟩
    obtain ⟨written, hfirst, hdecode, htoken⟩ := (Cookie.lookup_eq_some_iff hname).1 hlookup
    exact ⟨hwindow, hdocument, hhtml, ⟨text, written, hcookies, hfirst, hdecode⟩, htoken⟩

/-! ### One token for every page -/

/-- A token in the input is the one that is used, whatever the cookies are. -/
theorem pageToken_of_input (h : InputToken browser token) : pageToken browser = token := by
  obtain ⟨hpage, hfield⟩ := inputToken_iff.1 h
  rw [pageToken, token?, if_pos hpage, hfield]
  rfl

/-- A page whose input has no token yields none. -/
theorem inputToken?_eq_none (hpage : (browser.hasWindow && browser.hasDocument) = true)
    (h : ∀ other, ¬InputToken browser other) : inputToken? browser = none :=
  Option.eq_none_iff_forall_ne_some.2 fun other hfield => h other (inputToken_iff.2 ⟨hpage, hfield⟩)

/-- Without a token in the input, the one in the cookie is used. -/
theorem pageToken_of_cookie (hnone : ∀ other, ¬InputToken browser other)
    (h : CookieToken browser token) : pageToken browser = token := by
  obtain ⟨hpage, hcookie⟩ := cookieToken_iff.1 h
  rw [pageToken, token?, if_pos hpage, inputToken?_eq_none hpage hnone, hcookie]
  rfl

/-- Without either, the empty text is, and so it is where there is no page at all. -/
theorem pageToken_of_none (hnone : ∀ other, ¬InputToken browser other)
    (hcookie : ∀ other, ¬CookieToken browser other) : pageToken browser = "" := by
  rw [pageToken, token?]
  -- Without a page, nothing is looked for.
  by_cases hpage : (browser.hasWindow && browser.hasDocument) = true
  · have hjar : cookieToken? browser = none :=
      Option.eq_none_iff_forall_ne_some.2 fun other hfound =>
        hcookie other (cookieToken_iff.2 ⟨hpage, hfound⟩)
    rw [if_pos hpage, inputToken?_eq_none hpage hnone, hjar]
    rfl
  · rw [if_neg hpage]
    rfl

/-- Every page has exactly one token. -/
theorem isPageToken_iff : IsPageToken browser token ↔ token = pageToken browser := by
  constructor
  · rintro (h | ⟨hnone, h⟩ | ⟨hnone, hcookie⟩)
    · exact (pageToken_of_input h).symm
    · exact (pageToken_of_cookie hnone h).symm
    · exact (pageToken_of_none hnone hcookie).symm
  -- The three cases leave nothing out, since each is taken only if those before it are not.
  · rintro rfl
    by_cases hinput : ∃ token, InputToken browser token
    · obtain ⟨token, h⟩ := hinput
      rw [pageToken_of_input h]
      exact .input h
    · have hnone : ∀ other, ¬InputToken browser other := not_exists.1 hinput
      by_cases hcookie : ∃ token, CookieToken browser token
      · obtain ⟨token, h⟩ := hcookie
        rw [pageToken_of_cookie hnone h]
        exact .cookie hnone h
      · rw [pageToken_of_none hnone (not_exists.1 hcookie)]
        exact .none hnone (not_exists.1 hcookie)

end DonationSite.Csrf
