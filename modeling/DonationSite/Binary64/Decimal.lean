import DonationSite.Binary64.Round

/-!
# Decimal literals

Reading a number from text. A literal has an optional sign, then digits with at most one point
among or around them, then optionally `e` or `E`, an optional sign and digits. The words `inf`,
`infinity` and `nan`, in any ASCII case and with an optional sign, are also read. A literal stands
for the number nearest to its exact value, and for an infinity where that is too large.
-/

namespace DonationSite.Binary64

/-- The number that a list of decimal digits writes. -/
def digitsValue (digits : List Char) : Nat :=
  digits.foldl (fun n c => 10 * n + (c.toNat - 48)) 0

/-- Splits off a sign; true is minus. -/
def readSign : List Char → Bool × List Char
  | '-' :: rest => (true, rest)
  | '+' :: rest => (false, rest)
  | cs => (false, cs)

/-- A decimal literal without sign: its value is `coefficient * 10^exponent`. -/
structure Decimal where
  coefficient : Nat
  exponent : Int
  deriving DecidableEq, Repr

/-- Reads the exponent part, which must be all that is left: nothing, or a mark and digits. -/
def readExponent? : List Char → Option Int
  | [] => some 0
  | mark :: rest =>
    if mark = 'e' || mark = 'E' then
      let (negative, digits) := readSign rest
      if digits.isEmpty || !digits.all Char.isDigit then none
      else
        let value : Int := digitsValue digits
        some (if negative then -value else value)
    else none

/-- Splits off the digits after a point, if a point comes first. -/
def readFraction : List Char → List Char × List Char
  | '.' :: rest => (rest.takeWhile Char.isDigit, rest.dropWhile Char.isDigit)
  | cs => ([], cs)

/-- Reads a decimal literal without sign. -/
def Decimal.parse? (cs : List Char) : Option Decimal :=
  let whole := cs.takeWhile Char.isDigit
  let (fraction, rest) := readFraction (cs.dropWhile Char.isDigit)
  if whole.isEmpty && fraction.isEmpty then none
  else
    (readExponent? rest).map fun exponent =>
      ⟨digitsValue (whole ++ fraction), exponent - fraction.length⟩

/-- The number nearest to `± coefficient * 10^exponent`, an infinity if that is too large. -/
def ofDecimal (negative : Bool) (decimal : Decimal) : Binary64 :=
  match Finite.ofDecimal? negative decimal.coefficient decimal.exponent with
  | some value => .finite value
  | none => .infinite negative

/-- Reads a number from a list of characters. -/
def parseChars? (cs : List Char) : Option Binary64 :=
  let (negative, body) := readSign cs
  let word := String.ofList (body.map Char.toLower)
  if word = "nan" then some .nan
  else if word = "inf" || word = "infinity" then some (.infinite negative)
  else (Decimal.parse? body).map (ofDecimal negative)

/-- Reads a number from a text, all of which must be used. -/
def parse? (s : String) : Option Binary64 :=
  parseChars? s.toList

end DonationSite.Binary64
