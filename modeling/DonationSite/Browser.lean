/-!
# The browser around a page

What the site can see of the browser when a page begins: whether there is a window and a document,
the hidden input with the request token, the cookies, and the path of the page.
-/

namespace DonationSite

/-- What looking for the hidden token input of a document gives. -/
inductive TokenInput where
  /-- There is no such element. -/
  | absent
  /-- The search fails. -/
  | searchFails
  /-- The element found is no input. -/
  | otherElement
  /-- The input holds a text. -/
  | input (value : String)
  deriving DecidableEq, Repr

/-- The browser as a page finds it. -/
structure Browser where
  /-- Whether there is a window. -/
  hasWindow : Bool := true
  /-- Whether the window has a document. -/
  hasDocument : Bool := true
  /-- Whether the document is an HTML document, which alone has cookies. -/
  isHtml : Bool := true
  tokenInput : TokenInput := .absent
  /-- The cookies; none if they cannot be read. -/
  cookies : Option String := some ""
  path : String := "/"
  deriving DecidableEq, Repr

end DonationSite
