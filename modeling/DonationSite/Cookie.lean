import DonationSite.Text.Blank
import DonationSite.Text.Percent
import DonationSite.Text.Pieces

/-!
# Cookies

The cookies of a page come as one text, in which semicolons separate them. Each has a name and a
value, which the first equals sign separates; the value is percent-encoded.
-/

namespace DonationSite

/-- A cookie with its value as written. -/
structure Cookie where
  name : List Char
  value : List Char
  deriving DecidableEq, Repr

namespace Cookie

/-- Reads a segment of a cookie text; one without an equals sign is no cookie. -/
def ofSegment? (segment : List Char) : Option Cookie :=
  (Text.splitFirst '=' (Text.trimChars segment)).map fun (name, value) => ⟨name, value⟩

/-- The cookies of a cookie text, in order. -/
def readAll (text : String) : List Cookie :=
  (Text.split ';' text.toList).filterMap ofSegment?

/-- The value of a cookie, if its bytes are a text. -/
def decode? (cookie : Cookie) : Option String :=
  Text.Percent.decode? (String.ofList cookie.value)

/-- The value of the first cookie with a name; none if that is empty or does not decode. -/
def lookup? (text name : String) : Option String :=
  (((readAll text).find? (·.name = name.toList)).bind decode?).filter (!·.isEmpty)

end Cookie

end DonationSite
