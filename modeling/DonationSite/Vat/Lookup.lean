import DonationSite.Http
import DonationSite.Vat.Answer.Decoder
import DonationSite.Vat.Request

/-!
# The VAT lookup over HTTP

How a request is sent to the backend, and what a reply amounts to: an answer, or an error.
-/

namespace DonationSite.Vat

/-- Why a lookup has no answer. -/
inductive LookupError where
  /-- The request could not be sent, or the reply not be read. -/
  | network (reason : String)
  /-- The backend reported a failure. -/
  | status (code : Nat)
  /-- The reply is not an answer. -/
  | malformed (error : Json.Error)
  deriving DecidableEq

/-- The wording of an error. -/
def LookupError.message : LookupError → String
  | .network reason => "network error: " ++ reason
  | .status code => "lookup returned HTTP " ++ toString code
  | .malformed error => "malformed lookup response: " ++ error.message

/-- The HTTP request for a lookup at the backend with the given address. -/
def Request.toHttp (request : Request) (backend : String) : Http.Request where
  method := "POST"
  url := backend ++ Settings.vatLookupPath
  headers := [
    ("Content-Type", "application/x-www-form-urlencoded"),
    ("X-Requested-With", "XMLHttpRequest")]
  body := request.toForm

/-- Reads an answer from the body of a reply. -/
def answerOfBody (body : String) : Except LookupError Answer :=
  (Answer.decode body).mapError .malformed

/-- What a reply amounts to. The body matters only if the status reports success. -/
def answerOfReply : Http.Reply → Except LookupError Answer
  | .unsent reason => .error (.network reason)
  | .received status body =>
    if Http.isSuccess status then
      match body with
      | .ok text => answerOfBody text
      | .error reason => .error (.network reason)
    else .error (.status status)

end DonationSite.Vat
