import Mathlib.Tactic.Ring
import DonationSite.Binary64.Shortest
import DonationSite.Proofs.Binary64.Decimal

/-!
# Shortest decimals read back

The interval of a number ends before the middle between it and any other number, so the number is
nearest to every value in the interval. The search for the shortest decimal gives one that is in
the interval.

## Key results

- `ReadsBack.isNearest`: a number is nearest to the values in its interval
- `ReadsBack.lt_overflowBound`: none of these is too large to be read
- `readsBack_shortest`: the shortest decimal is in the interval
-/

namespace DonationSite.Binary64

/-- The exact value. -/
def Digits.toRat (d : Digits) : ℚ :=
  d.coefficient * 10 ^ d.exponent

namespace Finite

variable {x z : Finite} {q : ℚ}

/-! ### Middles of neighbours -/

/-- Below a multiple of a power of two with at least 53 bits, numbers are that power apart. -/
theorem add_step_le {k e : Nat} (hk : e = 0 ∨ 2 ^ 52 < k) (hlt : z.magnitude < k * 2 ^ e) :
    z.magnitude + 2 ^ e ≤ k * 2 ^ e := by
  rw [magnitude_eq] at hlt ⊢
  -- Either the other number is a whole number of steps too, or it has no more than 53 bits below
  -- them.
  rcases multiple_or_below z.significand_lt z.exponent e with hmultiple | ⟨hne, hbelow⟩
  · rw [hmultiple] at hlt ⊢
    rw [← Nat.succ_mul]
    exact Nat.mul_le_mul_right _ (Nat.lt_of_mul_lt_mul_right hlt)
  · have hlarge : (2 ^ 52 + 1) * 2 ^ e ≤ k * 2 ^ e :=
      Nat.mul_le_mul_right _ (hk.resolve_left hne)
    rw [Nat.succ_mul] at hlarge
    omega

/-- Above a number the next ones are at least one unit of its last place away. -/
theorem step_add_le (hlt : x.magnitude < z.magnitude) :
    x.magnitude + 2 ^ x.exponent ≤ z.magnitude := by
  rw [magnitude_eq, magnitude_eq] at hlt ⊢
  rcases multiple_or_below z.significand_lt z.exponent x.exponent with hmultiple | ⟨hne, hbelow⟩
  · rw [hmultiple] at hlt ⊢
    rw [← Nat.succ_mul]
    exact Nat.mul_le_mul_right _ (Nat.lt_of_mul_lt_mul_right hlt)
  · have hnormal : 2 ^ 52 * 2 ^ x.exponent ≤ x.significand * 2 ^ x.exponent :=
      Nat.mul_le_mul_right _ (x.normalized.resolve_left hne)
    omega

/-- The interval begins above the middle between the number and any smaller one. In quarters of a
quantum, the middle is twice the sum of the two magnitudes. -/
theorem middle_le_lowerEnd (hlt : z.magnitude < x.magnitude) :
    2 * z.magnitude + 2 * x.magnitude ≤ x.lowerEnd := by
  have hx := x.magnitude_eq
  -- Nothing is below zero.
  have hpos : 0 < x.significand := by
    refine Nat.pos_of_ne_zero fun hzero => ?_
    rw [hx, hzero, Nat.zero_mul] at hlt
    exact Nat.not_lt_zero _ hlt
  unfold lowerEnd
  split
  · next hpower =>
    -- Below a power of two the numbers are half as far apart.
    simp only [Bool.and_eq_true, decide_eq_true_eq] at hpower
    obtain ⟨hsignificand, hexponent⟩ := hpower
    obtain ⟨e, he⟩ := Nat.exists_eq_add_of_lt hexponent
    rw [Nat.zero_add] at he
    have hhalf : x.magnitude = 2 ^ 53 * 2 ^ e := by
      rw [hx, hsignificand, he, Nat.one_shiftLeft, next_eq]
    have hstep : z.magnitude + 2 ^ e ≤ 2 ^ 53 * 2 ^ e :=
      add_step_le (.inr (by decide)) (hhalf ▸ hlt)
    have hend : (4 * x.significand - 1) * 2 ^ x.exponent + 2 ^ x.exponent = 4 * x.magnitude := by
      rw [← Nat.succ_mul, Nat.succ_eq_add_one, Nat.sub_add_cancel (by omega), Nat.mul_assoc, hx]
    rw [he, Nat.pow_succ] at hend
    rw [Nat.shiftLeft_eq, he, Nat.pow_succ]
    omega
  · next hpower =>
    -- Above the least significand the numbers below are as far apart as those above.
    have hbits : x.exponent = 0 ∨ 2 ^ 52 < x.significand := by
      rcases x.normalized with hzero | hnormal
      · exact .inl hzero
      · simp only [Bool.and_eq_true, decide_eq_true_eq] at hpower
        rw [Nat.one_shiftLeft] at hnormal hpower
        omega
    have hstep : z.magnitude + 2 ^ x.exponent ≤ x.significand * 2 ^ x.exponent :=
      add_step_le hbits (hx ▸ hlt)
    have hend : (4 * x.significand - 2) * 2 ^ x.exponent + 2 * 2 ^ x.exponent =
        4 * x.magnitude := by
      rw [← Nat.add_mul, Nat.sub_add_cancel (by omega), Nat.mul_assoc, hx]
    rw [Nat.shiftLeft_eq]
    omega

/-- The upper end is half a unit of the last place above the number, in quarters of a quantum. -/
theorem upperEnd_eq (x : Finite) : x.upperEnd = 4 * x.magnitude + 2 * 2 ^ x.exponent := by
  rw [upperEnd, Nat.shiftLeft_eq, Nat.add_mul, Nat.mul_assoc, magnitude_eq]

/-- The interval ends below the middle between the number and any larger one. -/
theorem upperEnd_le_middle (hlt : x.magnitude < z.magnitude) :
    x.upperEnd ≤ 2 * x.magnitude + 2 * z.magnitude := by
  have hstep := step_add_le hlt
  rw [upperEnd_eq]
  omega

/-- The number itself is inside its interval. -/
theorem lowerEnd_lt (hne : x.significand ≠ 0) : x.lowerEnd < 4 * x.magnitude := by
  have hpos := Nat.two_pow_pos x.exponent
  rw [magnitude_eq, ← Nat.mul_assoc]
  unfold lowerEnd
  split <;> rw [Nat.shiftLeft_eq] <;> exact Nat.mul_lt_mul_of_pos_right (by omega) hpos

/-! ### Values in the interval -/

/-- A value lies in the interval of a number, whose ends belong to it exactly if the significand is
even. -/
structure ReadsBack (x : Finite) (q : ℚ) : Prop where
  lower : x.lowerEnd * (quantum / 4) ≤ q
  upper : q ≤ x.upperEnd * (quantum / 4)
  strict : x.significand % 2 = 1 → x.lowerEnd * (quantum / 4) < q ∧ q < x.upperEnd * (quantum / 4)

/-- A value from the middle of two others on is nearer to the larger one, and as near to the smaller
one only in the middle. -/
theorem abs_sub_le_of_middle_le {a b q : ℚ} (hab : a < b) (hq : a + b ≤ 2 * q) :
    |b - q| ≤ |a - q| ∧ (|a - q| = |b - q| → a + b = 2 * q) := by
  rw [abs_of_neg (by linarith : a - q < 0)]
  rcases abs_choice (b - q) with h | h <;> rw [h]
  · exact ⟨by linarith, fun heq => by linarith⟩
  · exact ⟨by linarith, fun heq => by linarith⟩

/-- A value up to the middle of two others is nearer to the smaller one. -/
theorem abs_sub_le_of_le_middle {a b q : ℚ} (hab : b < a) (hq : 2 * q ≤ a + b) :
    |b - q| ≤ |a - q| ∧ (|a - q| = |b - q| → a + b = 2 * q) := by
  have hmirror := abs_sub_le_of_middle_le (neg_lt_neg hab) (q := -q) (by linarith)
  rw [neg_sub_neg, neg_sub_neg, abs_sub_comm q, abs_sub_comm q] at hmirror
  exact hmirror.imp_right fun htie heq => by linarith [htie heq]

namespace ReadsBack

variable (h : ReadsBack x q)
include h

/-- No interval reaches below zero. -/
theorem nonneg : 0 ≤ q := by
  have hquantum := quantum_pos
  exact (mul_nonneg (Nat.cast_nonneg _) (by positivity)).trans h.lower

/-- No other magnitude is nearer to a value in the interval, and if another is as near, the
significand is even: the value is the middle of the two, which is an end of the interval. -/
theorem nearer (hne : z.magnitude ≠ x.magnitude) :
    |x.magnitude * quantum - q| ≤ |z.magnitude * quantum - q| ∧
      (|z.magnitude * quantum - q| = |x.magnitude * quantum - q| → x.significand % 2 = 0) := by
  have hquantum := quantum_pos
  rcases Nat.lt_or_gt_of_ne hne with hlt | hgt
  -- Towards a smaller number the interval begins above the middle, or in it.
  · have hmiddle : ((2 * z.magnitude + 2 * x.magnitude : Nat) : ℚ) ≤ x.lowerEnd :=
      Nat.cast_le.2 (middle_le_lowerEnd hlt)
    have hend := mul_le_mul_of_nonneg_right hmiddle (by positivity : 0 ≤ quantum / 4)
    push_cast at hend
    have hlower := h.lower
    obtain ⟨hle, htie⟩ := abs_sub_le_of_middle_le (q := q)
      (mul_lt_mul_of_pos_right (Nat.cast_lt.2 hlt) hquantum) (by linarith)
    refine ⟨hle, fun heq => ?_⟩
    by_contra hodd
    have hstrict := h.strict (by omega)
    linarith [htie heq]
  -- Towards a larger one it ends below the middle, or in it.
  · have hmiddle : (x.upperEnd : ℚ) ≤ (2 * x.magnitude + 2 * z.magnitude : Nat) :=
      Nat.cast_le.2 (upperEnd_le_middle hgt)
    have hend := mul_le_mul_of_nonneg_right hmiddle (by positivity : 0 ≤ quantum / 4)
    push_cast at hend
    have hupper := h.upper
    obtain ⟨hle, htie⟩ := abs_sub_le_of_le_middle (q := q)
      (mul_lt_mul_of_pos_right (Nat.cast_lt.2 hgt) hquantum) (by linarith)
    refine ⟨hle, fun heq => ?_⟩
    by_contra hodd
    have hstrict := h.strict (by omega)
    linarith [htie heq]

/-- A number is nearest to the values in its interval. -/
theorem isNearest (hsign : x.negative = false) : IsNearest q x := by
  have hx := toRat_of_not_negative hsign
  refine isNearest_of_magnitude h.nonneg hx (fun z => ?_) (fun z heq hne => ?_)
  · rw [hx]
    by_cases hsame : z.magnitude = x.magnitude
    · rw [hsame]
    · exact (h.nearer hsame).1
  · rw [hx] at heq
    exact (h.nearer hne).2 heq

/-- Values in the interval of a number are not too large. The upper end of the last interval is the
overflow bound, and does not belong to it. -/
theorem lt_overflowBound : q < overflowBound := by
  have hquantum : 0 < quantum / 4 := div_pos quantum_pos four_pos
  have hupper : x.upperEnd = (4 * x.significand + 2) * 2 ^ x.exponent := Nat.shiftLeft_eq _ _
  have hsignificand : x.significand < 2 ^ 53 := x.significand_lt
  -- The largest significand is odd, so the end of its interval does not count.
  have hlast : 4 * x.significand + 2 < 2 ^ 55 - 2 ∨
      4 * x.significand + 2 = 2 ^ 55 - 2 ∧ x.significand % 2 = 1 := by omega
  have hpower : 2 ^ x.exponent ≤ 2 ^ 2045 := pow_le_pow_right₀ one_le_two x.exponent_le
  have hbound : (((2 ^ 55 - 2) * 2 ^ 2045 : Nat) : ℚ) * (quantum / 4) = overflowBound := by
    have hlast : (2 : ℚ) ^ 2045 * quantum = 2 ^ 971 := two_pow_mul_quantum 971
    rw [Nat.cast_mul, Nat.cast_pow, Nat.cast_ofNat, mul_div_assoc', mul_assoc, hlast, overflowBound,
      pow_succ _ 970, div_eq_iff (by norm_num)]
    generalize (2 : ℚ) ^ 970 = power
    push_cast
    ring
  rw [← hbound]
  rcases hlast with hless | ⟨heq, hodd⟩
  · have hlt := Nat.mul_lt_mul_of_lt_of_le hless hpower (pow_pos two_pos _)
    rw [← hupper] at hlt
    exact h.upper.trans_lt (mul_lt_mul_of_pos_right (Nat.cast_lt.2 hlt) hquantum)
  · have hle := Nat.mul_le_mul heq.le hpower
    rw [← hupper] at hle
    exact (h.strict hodd).2.trans_le (mul_le_mul_of_nonneg_right (Nat.cast_le.2 hle) hquantum.le)

end ReadsBack

/-! ### The search -/

/-- The number itself is in its interval. -/
theorem readsBack_self (hne : x.significand ≠ 0) : ReadsBack x (x.magnitude * quantum) := by
  have hquantum : 0 < quantum / 4 := div_pos quantum_pos four_pos
  have hself : (x.magnitude : ℚ) * quantum = (4 * x.magnitude : Nat) * (quantum / 4) := by
    push_cast
    ring
  have hupper : 4 * x.magnitude < x.upperEnd := by
    rw [upperEnd_eq]
    exact Nat.lt_add_of_pos_right (Nat.mul_pos two_pos (Nat.two_pow_pos _))
  have hlower := mul_lt_mul_of_pos_right (Nat.cast_lt (α := ℚ).2 (lowerEnd_lt hne)) hquantum
  have hupper := mul_lt_mul_of_pos_right (Nat.cast_lt (α := ℚ).2 hupper) hquantum
  rw [hself]
  exact ⟨hlower.le, hupper.le, fun _ => ⟨hlower, hupper⟩⟩

/-- What a number covers is in its interval. -/
theorem readsBack_of_covers {num den : Nat} (hden : 0 < den) (h : x.covers num den = true) :
    ReadsBack x (num / den * (quantum / 4)) := by
  have hquantum : 0 < quantum / 4 := div_pos quantum_pos four_pos
  have hpos : (0 : ℚ) < den := Nat.cast_pos.2 hden
  have hlower (k : Nat) : k * (quantum / 4) ≤ num / den * (quantum / 4) ↔ k * den ≤ num := by
    rw [mul_le_mul_iff_left₀ hquantum, le_div_iff₀ hpos, ← Nat.cast_mul, Nat.cast_le]
  have hupper (k : Nat) : num / den * (quantum / 4) ≤ k * (quantum / 4) ↔ num ≤ k * den := by
    rw [mul_le_mul_iff_left₀ hquantum, div_le_iff₀ hpos, ← Nat.cast_mul, Nat.cast_le]
  unfold covers at h
  split at h <;> rw [Bool.and_eq_true, decide_eq_true_eq, decide_eq_true_eq] at h
  -- The ends count for an even significand, so the comparison is the same as in the definition.
  · next heven => exact ⟨(hlower _).2 h.1, (hupper _).2 h.2, fun hodd => by omega⟩
  · refine ⟨(hlower _).2 h.1.le, (hupper _).2 h.2.le, fun _ => ⟨?_, ?_⟩⟩
    · rw [← not_le, hupper]
      exact Nat.not_le.2 h.1
    · rw [← not_le, hlower]
      exact Nat.not_le.2 h.2

/-- A point of a grid in quarters of a quantum. -/
theorem gridPoint_mul_quantum (coefficient : Nat) (exponent : Int) :
    ((coefficient * (tenPower exponent.toNat <<< 1076) : Nat) : ℚ) /
      tenPower (-exponent).toNat * (quantum / 4) = coefficient * 10 ^ exponent := by
  have hquarters (k : Nat) : coefficient * (tenPower exponent.toNat <<< (k + 2)) =
      4 * ((coefficient * tenPower exponent.toNat) <<< k) := by
    rw [Nat.shiftLeft_eq, Nat.shiftLeft_eq, Nat.pow_add]
    ring
  rw [hquarters 1074, ← quotient_mul_quantum, Nat.cast_mul]
  push_cast
  ring

/-- What is found on a grid is a point of it that the number covers. -/
theorem covers_of_onGrid {tie : Tie} {exponent : Int} {d : Digits}
    (h : x.onGrid? tie exponent = some d) :
    d.exponent = exponent ∧ x.covers (d.coefficient * (tenPower exponent.toNat <<< 1076))
      (tenPower (-exponent).toNat) = true := by
  unfold onGrid? at h
  dsimp only at h
  generalize
    4 * x.magnitude * tenPower (-exponent).toNat / tenPower exponent.toNat <<< 1076 = low at h
  split at h
  · cases h
  · next hlow _ =>
    cases h
    exact ⟨rfl, hlow⟩
  · next hhigh =>
    cases h
    exact ⟨rfl, hhigh⟩
  · next hlow hhigh =>
    -- Of the two points around the number either one will do.
    suffices hd : d = ⟨low, exponent⟩ ∨ d = ⟨low + 1, exponent⟩ by
      rcases hd with rfl | rfl
      · exact ⟨rfl, hlow⟩
      · exact ⟨rfl, hhigh⟩
    split at h
    · exact .inl (Option.some.inj h).symm
    · split at h
      · exact .inr (Option.some.inj h).symm
      · cases tie with
        | up => exact .inr (Option.some.inj h).symm
        | even =>
          have hd := (Option.some.inj h).symm
          rcases Nat.mod_two_eq_zero_or_one low with heven | hodd
          · rw [heven] at hd
            exact .inl hd
          · rw [hodd] at hd
            exact .inr hd

/-- What is found on a grid reads back. -/
theorem readsBack_of_onGrid {tie : Tie} {exponent : Int} {d : Digits}
    (h : x.onGrid? tie exponent = some d) : ReadsBack x d.toRat := by
  obtain ⟨hexponent, hcovers⟩ := covers_of_onGrid h
  have hback := readsBack_of_covers (tenPower_pos _) hcovers
  rwa [gridPoint_mul_quantum, ← hexponent] at hback

/-- On the last grid the number is a point itself. -/
theorem toRat_lastGrid (m : Nat) : Digits.toRat ⟨m * Nat.pow 5 1074, -1074⟩ = m * quantum := by
  have hexponent : (-1074 : Int) = -((1074 : Nat) : Int) := rfl
  rw [hexponent, quantum]
  -- Nothing depends on how many powers there are.
  generalize 1074 = n
  rw [Digits.toRat, Nat.cast_mul, Nat.pow_eq, Nat.cast_pow, Nat.cast_ofNat, zpow_neg, zpow_natCast,
    show (10 : ℚ) = 5 * 2 by norm_num, mul_pow]
  field_simp

/-- So does what is found by the search, which tries coarser grids first. -/
theorem readsBack_searchGrids (tie : Tie) (hne : x.significand ≠ 0) (index : Nat) :
    ReadsBack x (x.searchGrids tie index).toRat := by
  induction index with
  | zero =>
    -- On the finest grid the number itself is a point.
    rw [searchGrids, toRat_lastGrid]
    exact readsBack_self hne
  | succ index ih =>
    rw [searchGrids]
    split
    · next d hd => exact readsBack_of_onGrid hd
    · exact ih

/-- The shortest decimal of a number reads back as it. -/
theorem readsBack_shortest (tie : Tie) (hne : x.significand ≠ 0) :
    ReadsBack x (x.shortest tie).toRat := by
  rw [shortest, if_neg hne]
  exact readsBack_searchGrids tie hne _

end Finite

end DonationSite.Binary64
