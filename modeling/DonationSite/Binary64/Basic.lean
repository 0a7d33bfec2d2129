/-!
# Binary floating-point numbers of 64 bits

A finite number is a sign, a significand below `2^53` and an exponent; its value is
`± significand * 2^(exponent - 1074)`. All finite numbers are whole multiples of the quantum
`2^(-1074)`, so they are compared as integers (`Finite.quanta`). Minus zero is a number of its own
that compares equal to zero.

The significand is at least `2^52` unless the exponent is zero, which makes the form unique
(`Finite.normalized`) and lets the interchange bits be a sum (`Finite.bits`).
-/

namespace DonationSite

namespace Binary64

/-- The power of ten with a natural exponent. -/
def tenPower (exponent : Nat) : Nat :=
  Nat.pow 10 exponent

/-- Powers of ten are above zero. -/
theorem tenPower_pos (exponent : Nat) : 0 < tenPower exponent :=
  Nat.pow_pos (by decide)

/-- A finite number: `± significand * 2^(exponent - 1074)`. -/
structure Finite where
  negative : Bool
  significand : Nat
  exponent : Nat
  significand_lt : significand < 1 <<< 53
  exponent_le : exponent ≤ 2045
  normalized : exponent = 0 ∨ 1 <<< 52 ≤ significand
  deriving DecidableEq, Repr

namespace Finite

/-- Zero with a plus or a minus sign. -/
def zero (negative : Bool) : Finite where
  negative := negative
  significand := 0
  exponent := 0
  significand_lt := by decide
  exponent_le := by decide
  normalized := .inl rfl

instance : Inhabited Finite := ⟨zero false⟩

/-- The absolute value in quanta of `2^(-1074)`. -/
def magnitude (x : Finite) : Nat :=
  x.significand <<< x.exponent

/-- The value in quanta of `2^(-1074)`. -/
def quanta (x : Finite) : Int :=
  if x.negative then -(x.magnitude : Int) else x.magnitude

/-- Plus zero and minus zero have the same value. -/
@[simp] theorem quanta_zero (negative : Bool) : (zero negative).quanta = 0 := by
  cases negative <;> rfl

instance : LT Finite := ⟨fun x y => x.quanta < y.quanta⟩
instance : LE Finite := ⟨fun x y => x.quanta ≤ y.quanta⟩
instance (x y : Finite) : Decidable (x < y) := inferInstanceAs (Decidable (x.quanta < y.quanta))
instance (x y : Finite) : Decidable (x ≤ y) := inferInstanceAs (Decidable (x.quanta ≤ y.quanta))

/-- Whether the value is less than zero; minus zero is not. -/
def isBelowZero (x : Finite) : Bool :=
  x.negative && x.significand != 0

/-- The number with the opposite sign. -/
def negate (x : Finite) : Finite :=
  { x with negative := !x.negative }

/-- The interchange format as a number below `2^64`: sign, exponent field, fraction field. The
exponent field of a number with the hidden bit is one more than `exponent`, which that bit adds. -/
def bits (x : Finite) : Nat :=
  (if x.negative then 1 <<< 63 else 0) + x.exponent <<< 52 + x.significand

end Finite

end Binary64

/-- A binary floating-point number of 64 bits. The payload of a NaN is not kept. -/
inductive Binary64 where
  | nan
  | infinite (negative : Bool)
  | finite (value : Binary64.Finite)
  deriving DecidableEq, Repr

instance : Inhabited Binary64 := ⟨.finite default⟩

end DonationSite
