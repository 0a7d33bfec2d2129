import DonationSite.Proofs.Binary64.Literal
import DonationSite.Proofs.Donation.Amount

/-!
# Typed amounts

The amount that a visitor types as a decimal literal is a number nearest to its exact value, however
it is spelled and whatever blanks are around it. A literal below zero counts as zero.

## Key results

- `Amount.isNearest_parse`: the typed amount is nearest to the value of the literal
- `Amount.parse_mono`: a literal with a larger value is a larger amount
-/

namespace DonationSite.Donation.Amount

open Binary64 (Finite IsNearest LiteralText overflowBound signed)

/-- Amounts are compared by their exact values. -/
theorem le_iff_toRat {a b : Amount} : a ≤ b ↔ a.value.toRat ≤ b.value.toRat :=
  Finite.toRat_le_toRat.symm

/-- A number below zero counts as zero, and every other one as itself. -/
theorem value_ofFinite (x : Finite) :
    ((ofBinary64? (.finite x)).getD zero).value = if x.isBelowZero then .zero false else x := by
  cases hx : x.isBelowZero with
  | false =>
    rw [ofBinary64?, dif_pos hx]
    rfl
  | true =>
    rw [ofBinary64?, dif_neg (by rw [hx]; decide)]
    rfl

/-- A decimal with a minus sign counts as zero. -/
theorem toRat_ofDecimal_true (d : Binary64.Decimal) :
    ((ofBinary64? (Binary64.ofDecimal true d)).getD zero).value.toRat = 0 := by
  unfold Binary64.ofDecimal
  split
  · next x hx =>
    rw [value_ofFinite]
    -- Minus zero is an amount, any other number with a minus sign is not.
    split
    · exact Finite.toRat_zero false
    · next hnotBelow =>
      rw [Finite.toRat, quanta_of_negative (Finite.negative_of_ofDecimal hx)
        (Bool.eq_false_iff.2 hnotBelow), Int.cast_zero, zero_mul]
  · exact Finite.toRat_zero false

/-- A decimal without a minus sign counts as a number nearest to it. -/
theorem isNearest_ofDecimal_false {d : Binary64.Decimal} (hlt : d.toRat < overflowBound) :
    IsNearest d.toRat ((ofBinary64? (Binary64.ofDecimal false d)).getD zero).value := by
  obtain ⟨x, hx, hnear⟩ := Finite.exists_ofDecimal hlt
  have hnotBelow : x.isBelowZero = false := by
    rw [Finite.isBelowZero, Finite.negative_of_ofDecimal hx, Bool.false_and]
  rw [Binary64.ofDecimal, hx, value_ofFinite, hnotBelow]
  exact hnear

/-- An amount typed as a decimal literal is a number nearest to its value, and zero if that is below
zero. -/
theorem isNearest_parse {s : String} {q : ℚ} (h : LiteralText (Text.trim s).toList q)
    (hlt : q < overflowBound) : IsNearest (max q 0) (parse s).value := by
  obtain ⟨negative, d, hparse, rfl⟩ := h.exists_parse
  rw [parse, Binary64.parse?, hparse, Option.bind_some]
  cases negative with
  | false =>
    rw [show signed false d.toRat = d.toRat from rfl] at hlt ⊢
    rw [max_eq_left d.toRat_nonneg]
    exact isNearest_ofDecimal_false hlt
  | true =>
    -- A literal with a minus sign is not above zero.
    rw [show signed true d.toRat = -d.toRat from rfl,
      max_eq_right (neg_nonpos.2 d.toRat_nonneg), ← toRat_ofDecimal_true d]
    exact Finite.isNearest_toRat _

variable {s t : String} {x y : ℚ}

/-- A literal with a larger value is a larger amount. -/
theorem parse_mono (hs : LiteralText (Text.trim s).toList x)
    (ht : LiteralText (Text.trim t).toList y) (hxy : x ≤ y) (hlt : y < overflowBound) :
    parse s ≤ parse t := by
  have hnears := isNearest_parse hs (hxy.trans_lt hlt)
  have hneart := isNearest_parse ht hlt
  exact le_iff_toRat.2 (hnears.mono hneart (le_max_right x 0) (max_le_max_right 0 hxy))

/-- A literal whose value reaches an amount is at least that amount. -/
theorem le_parse (hs : LiteralText (Text.trim s).toList x) (hlt : x < overflowBound) {a : Amount}
    (ha : a.value.toRat ≤ x) : a ≤ parse s :=
  le_iff_toRat.2 ((isNearest_parse hs hlt).ge_of_ge (ha.trans (le_max_left x 0)))

end DonationSite.Donation.Amount
