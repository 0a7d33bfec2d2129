import DonationSite.Binary64.Shortest

/-!
# Numbers as text

Two ways to write a number with the fewest digits that read back as it. `display` never writes an
exponent and gives whole numbers no point. `displayPointed` always shows a point or an exponent:
it is positional from `10^(-5)` up to `10^16` and scientific beyond.
-/

namespace DonationSite.Binary64

/-- The decimal digits of a natural number. -/
def decimalDigits (n : Nat) : List Char :=
  Nat.toDigits 10 n

/-- Digits with a point before the last `places` of them, and a zero before a leading point. -/
def withPoint (digits : List Char) (places : Nat) : List Char :=
  let padded := List.replicate (places + 1 - digits.length) '0' ++ digits
  padded.take (padded.length - places) ++ '.' :: padded.drop (padded.length - places)

/-- A decimal without exponent; a whole number has no point. -/
def Digits.positional (d : Digits) : List Char :=
  if 0 ≤ d.exponent then
    if d.coefficient = 0 then ['0']
    else decimalDigits d.coefficient ++ List.replicate d.exponent.toNat '0'
  else withPoint (decimalDigits d.coefficient) (-d.exponent).toNat

/-- One digit, a point and the others if there are any, and a signed exponent. -/
def Digits.scientific (d : Digits) : List Char :=
  let digits := decimalDigits d.coefficient
  let power := d.exponent + (digits.length - 1 : Nat)
  let fraction := digits.drop 1
  digits.take 1 ++ (if fraction.isEmpty then [] else '.' :: fraction) ++
    'e' :: (if power < 0 then '-' else '+') :: decimalDigits power.natAbs

/-- A finite number without exponent, a tie of two shortest decimals going up. -/
def Finite.display (x : Finite) : String :=
  String.ofList ((if x.negative then ['-'] else []) ++ (x.shortest .up).positional)

/-- A number without exponent. -/
def display : Binary64 → String
  | .nan => "NaN"
  | .infinite negative => if negative then "-inf" else "inf"
  | .finite x => x.display

/-- A finite number with a point or an exponent, a tie of two shortest decimals going to the even
one. -/
def Finite.displayPointed (x : Finite) : String :=
  let d := x.shortest .even
  let power := d.exponent + ((decimalDigits d.coefficient).length - 1 : Nat)
  let body :=
    if -5 ≤ power && power ≤ 15 then
      if 0 ≤ d.exponent then d.positional ++ ['.', '0'] else d.positional
    else d.scientific
  String.ofList ((if x.negative then ['-'] else []) ++ body)

end DonationSite.Binary64
