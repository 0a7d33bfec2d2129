import DonationSite.Binary64.Basic

/-!
# Shortest decimals

The decimal with the fewest digits among those that read back as a given number. The numbers that
read back as `x` fill an interval around it, whose ends belong to it exactly when the significand
is even. Below a power of two the interval is half as wide as above it.

The grids `10^k` are tried from coarse to fine, and on each the two points around `x`. The first
grid with a point in the interval gives the answer; of two points the nearer wins, and of two
equally near ones `Tie` decides. On the grid `10^(-1074)` every number is a point itself.
-/

namespace DonationSite.Binary64

/-- Which of two equally near decimals is taken. -/
inductive Tie where
  /-- The larger one. -/
  | up
  /-- The one with the even coefficient. -/
  | even
  deriving DecidableEq, Repr

/-- The decimal `coefficient * 10^exponent`. -/
structure Digits where
  coefficient : Nat
  exponent : Int
  deriving DecidableEq, Repr

namespace Finite

/-- The lower end of the interval that reads back as `x`, in quarters of a quantum. -/
def lowerEnd (x : Finite) : Nat :=
  if x.significand = 1 <<< 52 && 0 < x.exponent then (4 * x.significand - 1) <<< x.exponent
  else (4 * x.significand - 2) <<< x.exponent

/-- The upper end of the interval that reads back as `x`, in quarters of a quantum. -/
def upperEnd (x : Finite) : Nat :=
  (4 * x.significand + 2) <<< x.exponent

/-- Whether `num / den` quarters of a quantum read back as the absolute value of `x`. -/
def covers (x : Finite) (num den : Nat) : Bool :=
  if x.significand % 2 = 0 then x.lowerEnd * den ≤ num && num ≤ x.upperEnd * den
  else x.lowerEnd * den < num && num < x.upperEnd * den

/-- The multiple of `10^exponent` next to the absolute value of `x` that reads back as it. -/
def onGrid? (tie : Tie) (x : Finite) (exponent : Int) : Option Digits :=
  let step := tenPower exponent.toNat <<< 1076
  let den := tenPower (-exponent).toNat
  let value := 4 * x.magnitude * den
  let low := value / step
  let pick (coefficient : Nat) : Option Digits := some ⟨coefficient, exponent⟩
  match x.covers (low * step) den, x.covers ((low + 1) * step) den with
  | false, false => none
  | true, false => pick low
  | false, true => pick (low + 1)
  | true, true =>
    let rest := value - low * step
    if 2 * rest < step then pick low
    else if step < 2 * rest then pick (low + 1)
    else match tie with
      | .up => pick (low + 1)
      | .even => pick (low + low % 2)

/-- The first grid with a point that reads back as `x`, going down from `10^(index - 1074)`. -/
def searchGrids (tie : Tie) (x : Finite) : Nat → Digits
  | 0 => ⟨x.magnitude * Nat.pow 5 1074, -1074⟩
  | index + 1 =>
    match x.onGrid? tie (index + 1 - 1074 : Int) with
    | some digits => digits
    | none => searchGrids tie x index

/-- The shortest decimal that reads back as the absolute value of `x`. No power of ten above the
first one tried is as small as `x`. -/
def shortest (tie : Tie) (x : Finite) : Digits :=
  if x.significand = 0 then ⟨0, 0⟩
  else searchGrids tie x (Nat.log2 (x.upperEnd >>> 1076) + 1 + 1074)

end Finite

end DonationSite.Binary64
