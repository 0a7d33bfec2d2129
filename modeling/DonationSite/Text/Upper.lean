import DonationSite.Text.Upper.Table

/-!
# Uppercase

The full uppercase mapping of Unicode, the same in every locale. A character may become several,
as `ß` becomes `SS`.
-/

namespace DonationSite.Text

namespace Upper

/-- The uppercase form of a code point in a span: as far from the first target as the code point
is from the first of the span. -/
def Span.upper? (span : Span) (n : Nat) : Option Nat :=
  if span.first ≤ n && n ≤ span.last && (n - span.first) % span.stride == 0 then
    some (span.target + (n - span.first))
  else none

/-- The code points of the uppercase form of a code point. -/
def mapPoint (n : Nat) : List Nat :=
  match specials.lookup n with
  | some points => points
  | none => [(spans.findSome? (·.upper? n)).getD n]

end Upper

/-- The uppercase form of a character. -/
def upperChar (c : Char) : List Char :=
  (Upper.mapPoint c.toNat).map Char.ofNat

/-- A list of characters in uppercase. -/
def upperChars (cs : List Char) : List Char :=
  cs.flatMap upperChar

/-- A text in uppercase. -/
def upper (s : String) : String :=
  String.ofList (upperChars s.toList)

/-- The characters of a text in uppercase are those of its characters in uppercase. -/
@[simp] theorem toList_upper (s : String) : (upper s).toList = upperChars s.toList :=
  String.toList_ofList

end DonationSite.Text
