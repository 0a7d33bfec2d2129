import Mathlib.Data.Rat.Defs
import Mathlib.Algebra.Order.Field.Basic
import Mathlib.Algebra.Order.Field.Rat
import Mathlib.Tactic.Linarith
import Mathlib.Tactic.Positivity
import DonationSite.Binary64.Basic

/-!
# Values of finite numbers

The exact value of a finite number, and which number is nearest to a value: none is nearer, and if
another is as near, the significand is even. Between two numbers with even significands there is
another, so the nearest number is unique up to the sign of zero, and it grows with the value.

## Key results

- `exists_between`: a number between two with even significands
- `IsNearest.ge_of_ge`: a nearest number stays above every number that the value reaches
- `IsNearest.unique`: the nearest number is unique up to its sign
- `IsNearest.mono`: a larger value has a larger nearest number
- `Finite.isNearest_of_magnitude`: for a value above zero, only numbers above zero are compared
-/

namespace DonationSite.Binary64

/-- The least number above zero. -/
def quantum : ℚ :=
  1 / 2 ^ 1074

/-- Counting in quanta keeps the order of values. -/
theorem quantum_pos : 0 < quantum := by
  unfold quantum
  positivity

/-- Powers of two from the quantum on. -/
theorem two_pow_mul_quantum (n : Nat) : 2 ^ (1074 + n) * quantum = 2 ^ n := by
  rw [quantum, pow_add, mul_one_div, mul_div_cancel_left₀ _ (pow_ne_zero _ two_ne_zero)]

/-- The next power of two after the largest number with an exponent. -/
theorem next_eq (top : Nat) : 2 ^ 52 * 2 ^ (top + 1) = 2 ^ 53 * 2 ^ top := by
  rw [← Nat.pow_add, ← Nat.pow_add]
  congr 1
  omega

/-- With a significand below `2^53`, a magnitude is a multiple of a power of two or has fewer than
53 bits before it. -/
theorem multiple_or_below {significand : Nat} (hlt : significand < 2 ^ 53) (exponent e : Nat) :
    significand * 2 ^ exponent = significand * 2 ^ (exponent - e) * 2 ^ e ∨
      e ≠ 0 ∧ significand * 2 ^ exponent < 2 ^ 52 * 2 ^ e := by
  rcases Nat.lt_or_ge exponent e with hexp | hexp
  -- The exponent is smaller, so even the largest significand stays below 53 bits there.
  · right
    have hbelow : significand * 2 ^ exponent < 2 ^ 53 * 2 ^ exponent :=
      Nat.mul_lt_mul_of_pos_right hlt (Nat.two_pow_pos exponent)
    have hpow : 2 ^ 53 * 2 ^ exponent ≤ 2 ^ 52 * 2 ^ e := by
      rw [← Nat.pow_add, ← Nat.pow_add]
      exact Nat.pow_le_pow_right (by decide) (by omega)
    exact ⟨by omega, Nat.lt_of_lt_of_le hbelow hpow⟩
  · left
    rw [Nat.mul_assoc, ← Nat.pow_add, Nat.sub_add_cancel hexp]

namespace Finite

/-- The exact value. -/
def toRat (x : Finite) : ℚ :=
  x.quanta * quantum

/-- Values are in the order of the quanta. -/
theorem toRat_le_toRat {x y : Finite} : x.toRat ≤ y.toRat ↔ x.quanta ≤ y.quanta := by
  rw [toRat, toRat, mul_le_mul_iff_left₀ quantum_pos, Int.cast_le]

/-- The same for the strict order. -/
theorem toRat_lt_toRat {x y : Finite} : x.toRat < y.toRat ↔ x.quanta < y.quanta := by
  rw [toRat, toRat, mul_lt_mul_iff_left₀ quantum_pos, Int.cast_lt]

/-- Both zeros have the value zero. -/
@[simp] theorem toRat_zero (negative : Bool) : (zero negative).toRat = 0 := by
  rw [toRat, quanta_zero, Int.cast_zero, zero_mul]

/-- Neither zero is below zero, so a minus sign alone does not make an amount unacceptable. -/
theorem isBelowZero_zero (negative : Bool) : (zero negative).isBelowZero = false := by
  cases negative <;> rfl

/-- The magnitude as a product, which arithmetic is done with. -/
theorem magnitude_eq (x : Finite) : x.magnitude = x.significand * 2 ^ x.exponent :=
  Nat.shiftLeft_eq _ _

/-- Without its sign a number is its magnitude. -/
theorem natAbs_quanta (x : Finite) : x.quanta.natAbs = x.magnitude := by
  rw [quanta]
  split <;> simp

/-- A number without minus sign has its magnitude as its value. -/
theorem toRat_of_not_negative {x : Finite} (h : x.negative = false) :
    x.toRat = x.magnitude * quantum := by
  rw [toRat, quanta, if_neg (by rw [h]; decide)]
  push_cast
  rfl

/-- Up to the sign a number is its magnitude. -/
theorem toRat_eq_or_neg (x : Finite) :
    x.toRat = x.magnitude * quantum ∨ x.toRat = -(x.magnitude * quantum) := by
  cases hsign : x.negative with
  | false => exact .inl (toRat_of_not_negative hsign)
  | true =>
    right
    rw [toRat, quanta, if_pos hsign]
    push_cast
    rw [neg_mul]

/-- A number is told by its sign and its magnitude. -/
theorem eq_of_magnitude {x y : Finite} (hsign : x.negative = y.negative)
    (hmagnitude : x.magnitude = y.magnitude) : x = y := by
  -- A larger exponent needs a significand with 53 bits, and then the magnitude is larger.
  have hlt {x y : Finite} (hexponent : x.exponent < y.exponent) : x.magnitude < y.magnitude := by
    have hnormal : 2 ^ 52 ≤ y.significand := y.normalized.resolve_left (by omega)
    rw [magnitude_eq, magnitude_eq]
    calc x.significand * 2 ^ x.exponent
      _ < 2 ^ 53 * 2 ^ x.exponent :=
        Nat.mul_lt_mul_of_pos_right x.significand_lt (Nat.two_pow_pos _)
      _ = 2 ^ 52 * 2 ^ (x.exponent + 1) := (next_eq _).symm
      _ ≤ y.significand * 2 ^ y.exponent :=
        Nat.mul_le_mul hnormal (Nat.pow_le_pow_right (by decide) hexponent)
  have hexponent : x.exponent = y.exponent := by
    rcases Nat.lt_trichotomy x.exponent y.exponent with h | h | h
    · exact absurd hmagnitude (Nat.ne_of_lt (hlt h))
    · exact h
    · exact absurd hmagnitude (Nat.ne_of_gt (hlt h))
  rw [magnitude_eq, magnitude_eq, hexponent] at hmagnitude
  have hsignificand := Nat.eq_of_mul_eq_mul_right (Nat.two_pow_pos _) hmagnitude
  cases x
  cases y
  cases hsign
  cases hexponent
  cases hsignificand
  rfl

/-! ### Neighbours -/

/-- The number above a number with an even significand, disregarding its sign. -/
def next (x : Finite) (heven : x.significand % 2 = 0) : Finite where
  negative := false
  significand := x.significand + 1
  exponent := x.exponent
  significand_lt := by
    have hlt : x.significand < 2 ^ 53 := x.significand_lt
    show x.significand + 1 < 2 ^ 53
    omega
  exponent_le := x.exponent_le
  normalized := x.normalized.imp_right Nat.le_succ_of_le

/-- Between two numbers with even significands there is another. -/
theorem exists_between {x y : Finite} (hx : 0 ≤ x.quanta) (hxy : x.quanta < y.quanta)
    (hxeven : x.significand % 2 = 0) (hyeven : y.significand % 2 = 0) :
    ∃ z : Finite, x.quanta < z.quanta ∧ z.quanta < y.quanta := by
  have hxabs := x.natAbs_quanta
  have hyabs := y.natAbs_quanta
  have hlt : x.magnitude < y.magnitude := by omega
  -- The number above is one unit of the last place larger.
  have hnext : (x.next hxeven).quanta = ((x.significand + 1) * 2 ^ x.exponent : Nat) := by
    show ((x.next hxeven).magnitude : Int) = _
    rw [magnitude_eq]
    rfl
  have hpos := Nat.two_pow_pos x.exponent
  have hsucc : (x.significand + 1) * 2 ^ x.exponent = x.magnitude + 2 ^ x.exponent := by
    rw [Nat.succ_mul, magnitude_eq]
  refine ⟨x.next hxeven, by omega, ?_⟩
  suffices h : x.magnitude + 2 ^ x.exponent < y.magnitude by omega
  rw [magnitude_eq, magnitude_eq] at hlt
  rw [← hsucc, magnitude_eq]
  rcases multiple_or_below y.significand_lt y.exponent x.exponent with hmultiple | ⟨hne, hbelow⟩
  · -- Both are multiples of one power of two, and the next multiple after `x` is odd.
    have heven : y.significand * 2 ^ (y.exponent - x.exponent) % 2 = 0 := by
      rw [Nat.mul_mod, hyeven, Nat.zero_mul, Nat.zero_mod]
    rw [hmultiple] at hlt ⊢
    have hle := Nat.lt_of_mul_lt_mul_right hlt
    exact Nat.mul_lt_mul_of_pos_right (by omega) hpos
  · -- A number with a smaller exponent is below all that have 53 bits.
    have hnormal : 2 ^ 52 ≤ x.significand := x.normalized.resolve_left hne
    have habove : 2 ^ 52 * 2 ^ x.exponent ≤ x.significand * 2 ^ x.exponent :=
      Nat.mul_le_mul_right _ hnormal
    omega

end Finite

/-! ### Nearest numbers -/

/-- No number is nearer to a value, and if another is as near, the significand is even. -/
structure IsNearest (q : ℚ) (x : Finite) : Prop where
  le (z : Finite) : |x.toRat - q| ≤ |z.toRat - q|
  even (z : Finite) : |z.toRat - q| = |x.toRat - q| → z.toRat ≠ x.toRat → x.significand % 2 = 0

namespace IsNearest

variable {q r : ℚ} {x y z : Finite}

/-- A nearest number stays above every number that the value reaches. -/
theorem ge_of_ge (h : IsNearest q x) (hz : z.toRat ≤ q) : z.toRat ≤ x.toRat := by
  by_contra hlt
  have hlt := not_le.1 hlt
  -- Both lie below the value, so the larger one would be nearer.
  have hnear := h.le z
  rw [abs_of_nonpos (by linarith), abs_of_nonpos (by linarith)] at hnear
  linarith

/-- A value that is not below zero has no nearest number below zero. -/
theorem nonneg (h : IsNearest q x) (hq : 0 ≤ q) : 0 ≤ x.toRat := by
  have hzero : (Finite.zero false).toRat ≤ q := by rwa [Finite.toRat_zero]
  have hge := h.ge_of_ge hzero
  rwa [Finite.toRat_zero] at hge

/-- Two numbers that are nearest to one value have the same value. -/
theorem le_of_nearest (hx : IsNearest q x) (hy : IsNearest q y) (hnonneg : 0 ≤ q) :
    y.toRat ≤ x.toRat := by
  by_contra hlt
  have hlt := not_le.1 hlt
  have hxy : |x.toRat - q| = |y.toRat - q| := le_antisymm (hx.le y) (hy.le x)
  -- Both are as near as the other, so both significands are even.
  have hxeven := hx.even y hxy.symm (ne_of_gt hlt)
  have hyeven := hy.even x hxy (ne_of_lt hlt)
  have hzero : (Finite.zero false).quanta ≤ x.quanta := by
    rw [← Finite.toRat_le_toRat, Finite.toRat_zero]
    exact hx.nonneg hnonneg
  rw [Finite.quanta_zero] at hzero
  obtain ⟨z, hxz, hzy⟩ :=
    Finite.exists_between hzero (Finite.toRat_lt_toRat.1 hlt) hxeven hyeven
  rw [← Finite.toRat_lt_toRat] at hxz hzy
  -- The value is in the middle of the two, and the number between them is nearer.
  have hbelow : x.toRat ≤ q := by
    by_contra hgt
    rw [abs_of_pos (by linarith), abs_of_pos (by linarith)] at hxy
    linarith
  have habove : q ≤ y.toRat := by
    by_contra hgt
    rw [abs_of_neg (by linarith), abs_of_neg (by linarith)] at hxy
    linarith
  have hnear := hx.le z
  have hmiddle : |z.toRat - q| < |x.toRat - q| := by
    rw [abs_of_nonneg (by linarith : (0 : ℚ) ≤ y.toRat - q)] at hxy
    rw [abs_lt]
    constructor
    · have hself := neg_abs_le (x.toRat - q)
      linarith
    · linarith
  linarith

/-- Of the numbers with one sign only one is nearest to a value. -/
theorem unique (hx : IsNearest q x) (hy : IsNearest q y) (hq : 0 ≤ q)
    (hsign : x.negative = y.negative) : x = y := by
  have hle := Finite.toRat_le_toRat.1 (hy.le_of_nearest hx hq)
  have hge := Finite.toRat_le_toRat.1 (hx.le_of_nearest hy hq)
  refine Finite.eq_of_magnitude hsign ?_
  rw [← x.natAbs_quanta, ← y.natAbs_quanta, Int.le_antisymm hle hge]

/-- A value with a nearest number above another one is above their middle. -/
theorem middle_le (h : IsNearest q x) (hlt : z.toRat < x.toRat) :
    z.toRat + x.toRat ≤ 2 * q := by
  by_contra hbelow
  have hbelow := not_le.1 hbelow
  have hnear := h.le z
  rw [abs_of_pos (by linarith : 0 < x.toRat - q)] at hnear
  rcases abs_choice (z.toRat - q) with hz | hz <;> rw [hz] at hnear <;> linarith

/-- A value with a nearest number below another one is below their middle. -/
theorem le_middle (h : IsNearest q x) (hlt : x.toRat < z.toRat) :
    2 * q ≤ x.toRat + z.toRat := by
  by_contra habove
  have habove := not_le.1 habove
  have hnear := h.le z
  rw [abs_of_neg (by linarith : x.toRat - q < 0)] at hnear
  rcases abs_choice (z.toRat - q) with hz | hz <;> rw [hz] at hnear <;> linarith

/-- A larger value has a larger nearest number. -/
theorem mono (hx : IsNearest q x) (hy : IsNearest r y) (hq : 0 ≤ q) (hqr : q ≤ r) :
    x.toRat ≤ y.toRat := by
  rcases hqr.lt_or_eq with hqr | rfl
  · by_contra hlt
    have hlt := not_le.1 hlt
    -- The smaller value would be above the middle of the two numbers, and the larger one below.
    have hleft := hx.middle_le hlt
    have hright := hy.le_middle hlt
    linarith
  · exact hy.le_of_nearest hx hq

end IsNearest

namespace Finite

variable {q : ℚ} {x : Finite}

/-- A number is nearest to its own value. -/
theorem isNearest_toRat (x : Finite) : IsNearest x.toRat x where
  le z := by
    rw [sub_self, abs_zero]
    exact abs_nonneg _
  even z heq hne := by
    rw [sub_self, abs_zero, abs_eq_zero, sub_eq_zero] at heq
    exact absurd heq hne

/-! ### Values that are not below zero -/

/-- Of a number and its opposite the one above zero is nearer to a value above zero. -/
theorem abs_magnitude_sub_le (z : Finite) (hq : 0 ≤ q) :
    |z.magnitude * quantum - q| ≤ |z.toRat - q| := by
  have hmagnitude : (0 : ℚ) ≤ z.magnitude * quantum :=
    mul_nonneg z.magnitude.cast_nonneg quantum_pos.le
  rcases z.toRat_eq_or_neg with h | h <;> rw [h]
  rw [abs_sub_comm (-_), sub_neg_eq_add, abs_of_nonneg (add_nonneg hq hmagnitude), abs_le]
  constructor <;> linarith

/-- It suffices to compare with the numbers above zero. -/
theorem isNearest_of_magnitude (hq : 0 ≤ q) (hx : x.toRat = x.magnitude * quantum)
    (hle : ∀ z : Finite, |x.toRat - q| ≤ |z.magnitude * quantum - q|)
    (heven : ∀ z : Finite, |z.magnitude * quantum - q| = |x.toRat - q| →
      z.magnitude ≠ x.magnitude → x.significand % 2 = 0) : IsNearest q x where
  le z := (hle z).trans (z.abs_magnitude_sub_le hq)
  even z heq hne := by
    have hsame : |z.magnitude * quantum - q| = |x.toRat - q| :=
      le_antisymm (heq ▸ z.abs_magnitude_sub_le hq) (hle z)
    refine heven z hsame fun hmagnitude => ?_
    -- Only the opposite number is left, and it is as near to zero alone.
    have hopposite : z.toRat = -x.toRat := by
      rw [hx, ← hmagnitude]
      exact z.toRat_eq_or_neg.resolve_left (by rwa [hmagnitude, ← hx])
    rw [hopposite] at heq hne
    have hzero := hle (zero false)
    rw [show (zero false).magnitude = 0 from rfl, Nat.cast_zero, zero_mul] at hzero
    -- The value is half way between a number and its opposite only if it is zero.
    rcases abs_eq_abs.1 heq with h | h
    · exact hne (by linarith)
    · have hqzero : q = 0 := by linarith
      rw [hqzero, sub_self, abs_zero, sub_zero] at hzero
      have hxzero := abs_nonpos_iff.1 hzero
      exact hne (by rw [hxzero, neg_zero])

/-- Zero is nearest to everything up to half a quantum. -/
theorem isNearest_zero (hq : 0 ≤ q) (hle : 2 * q ≤ quantum) : IsNearest q (zero false) := by
  refine isNearest_of_magnitude hq (toRat_of_not_negative rfl) (fun z => ?_) (fun _ _ _ => rfl)
  rw [toRat_zero, zero_sub, abs_neg, abs_of_nonneg hq]
  rcases Nat.eq_zero_or_pos z.magnitude with hzero | hpos
  · rw [hzero, Nat.cast_zero, zero_mul, zero_sub, abs_neg, abs_of_nonneg hq]
  · -- Every other magnitude is at least a quantum.
    have hquantum : 1 * quantum ≤ z.magnitude * quantum :=
      mul_le_mul_of_nonneg_right (Nat.one_le_cast.2 hpos) quantum_pos.le
    rw [abs_of_nonneg] <;> linarith

end Finite

end DonationSite.Binary64
