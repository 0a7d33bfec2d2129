import DonationSite.Browser
import DonationSite.Cookie
import DonationSite.Settings

/-!
# Request tokens

The backend gives each page a token that requests must carry. The page holds it in a hidden input
or, failing that, in a cookie.
-/

namespace DonationSite.Csrf

/-- The selector of the hidden token input. -/
def selector : String :=
  "input[name=\"" ++ Settings.csrfField ++ "\"]"

/-- The token in the hidden input, unless that is empty. -/
def inputToken? (browser : Browser) : Option String :=
  match browser.tokenInput with
  | .input value => if value.isEmpty then none else some value
  | _ => none

/-- The token in the cookie. -/
def cookieToken? (browser : Browser) : Option String :=
  if browser.isHtml then
    browser.cookies.bind fun text => Cookie.lookup? text Settings.csrfCookie
  else none

/-- The token of a page: that of its hidden input, or else that of its cookie. -/
def token? (browser : Browser) : Option String :=
  if browser.hasWindow && browser.hasDocument then
    (inputToken? browser).or (cookieToken? browser)
  else none

/-- The selectors that are looked up to find the token. -/
def searches (browser : Browser) : List String :=
  if browser.hasWindow && browser.hasDocument then [selector] else []

/-- The token that a page uses; the empty text if it has none. -/
def pageToken (browser : Browser) : String :=
  (token? browser).getD ""

end DonationSite.Csrf
