import DonationSite.Binary64.Decimal
import DonationSite.Binary64.Display
import DonationSite.Text.Blank

/-!
# Amounts of money

An amount is a finite number that is not below zero; minus zero is one and equals zero. Amounts
are what visitors want to give and what the reward tiers ask for.
-/

namespace DonationSite.Donation

open Binary64 (Finite)

/-- A finite number that is not below zero. -/
structure Amount where
  value : Finite
  notBelowZero : value.isBelowZero = false
  deriving DecidableEq

namespace Amount

/-- Nothing. -/
def zero : Amount := ⟨.zero false, rfl⟩

instance : Inhabited Amount := ⟨zero⟩

instance : LT Amount := ⟨fun a b => a.value < b.value⟩
instance : LE Amount := ⟨fun a b => a.value ≤ b.value⟩
instance (a b : Amount) : Decidable (a < b) := inferInstanceAs (Decidable (a.value < b.value))
instance (a b : Amount) : Decidable (a ≤ b) := inferInstanceAs (Decidable (a.value ≤ b.value))

/-- Amounts are compared by their exact values. -/
theorem lt_iff_quanta {a b : Amount} : a < b ↔ a.value.quanta < b.value.quanta := Iff.rfl

/-- The same for amounts that may be equal. -/
theorem le_iff_quanta {a b : Amount} : a ≤ b ↔ a.value.quanta ≤ b.value.quanta := Iff.rfl

/-- An amount is not above itself. -/
theorem le_refl (a : Amount) : a ≤ a := Int.le_refl _

/-- An amount below another one is not above it. -/
theorem le_of_lt {a b : Amount} (h : a < b) : a ≤ b := Int.le_of_lt h

/-- Amounts are ordered by a preorder only, since minus zero and zero are different amounts of one
value. -/
theorem le_trans {a b c : Amount} (hab : a ≤ b) (hbc : b ≤ c) : a ≤ c := Int.le_trans hab hbc

/-- Any two amounts can be compared, since no amount is a NaN. -/
theorem not_lt {a b : Amount} : ¬a < b ↔ b ≤ a := Int.not_lt

/-- The same with the two signs of comparison swapped. -/
theorem not_le {a b : Amount} : ¬a ≤ b ↔ b < a := Int.not_le

/-- A number as an amount, if it is one. -/
def ofBinary64? : Binary64 → Option Amount
  | .finite value => if h : value.isBelowZero = false then some ⟨value, h⟩ else none
  | _ => none

/-- The amount that a visitor typed. Anything that is not a finite number of at least zero counts
as zero. -/
def parse (text : String) : Amount :=
  ((Binary64.parse? (Text.trim text)).bind ofBinary64?).getD zero

/-- A whole amount. -/
def ofUInt32 (n : UInt32) : Amount where
  value := .ofNat n.toNat (Nat.lt_trans n.toNat_lt (by decide))
  notBelowZero := by unfold Finite.ofNat; split <;> rfl

/-- The amount as text: the fewest digits that read back, without exponent. -/
def display (a : Amount) : String :=
  a.value.display

end Amount

end DonationSite.Donation
