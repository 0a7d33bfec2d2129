import DonationSite.Text.Blank
import DonationSite.Text.Pieces

/-!
# Postcode and city

The last line of an address holds the city and perhaps its postcode, which two spaces or more
separate. Either may come first: the part with more digits is the postcode, the second one if both
have as many.
-/

namespace DonationSite.Vat

/-- A city and perhaps its postcode. -/
structure Locality where
  postcode : Option String
  city : String
  deriving DecidableEq, Repr

namespace Locality

/-- The number of decimal digits among characters. -/
def digitCount (cs : List Char) : Nat :=
  cs.countP Char.isDigit

/-- A line that is all city. -/
def ofCity (line : List Char) : Locality :=
  ⟨none, String.ofList (Text.trimChars line)⟩

/-- The postcode and the city among two parts of a line. -/
def ofParts (left right : List Char) : Locality :=
  if digitCount right < digitCount left then ⟨some (String.ofList left), String.ofList right⟩
  else ⟨some (String.ofList right), String.ofList left⟩

/-- Reads a line. It is all city unless something stands on both sides of its first two spaces in a
row. -/
def ofLine (line : List Char) : Locality :=
  match Text.splitGap line with
  | none => ofCity line
  | some (before, after) =>
    let left := Text.trimChars before
    let right := Text.trimChars after
    if left.isEmpty || right.isEmpty then ofCity line else ofParts left right

/-- Reads a line of text. -/
def parse (line : String) : Locality :=
  ofLine line.toList

end Locality

end DonationSite.Vat
