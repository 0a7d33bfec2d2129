/-!
# HTTP requests and replies

A request as the site sends it, and what can come of it.
-/

namespace DonationSite.Http

/-- A request. -/
structure Request where
  method : String
  url : String
  headers : List (String × String)
  body : String
  deriving DecidableEq, Repr

/-- What comes of a request: it cannot be sent, or a reply arrives, of which the body may be
unreadable. -/
inductive Reply where
  | unsent (reason : String)
  | received (status : Nat) (body : Except String String)

/-- Whether a status reports success. -/
def isSuccess (status : Nat) : Bool :=
  200 ≤ status && status ≤ 299

end DonationSite.Http
