import DonationSite.Proofs.Binary64.Accepted
import DonationSite.Proofs.Donation.TypedAmount
import DonationSite.Proofs.Text.Blank

/-!
# Every text is worth an exact amount

What any text is worth as an amount, said without a reader: a decimal literal that is not below zero
is worth the number nearest to its exact value, with the sign that it was given, and everything else
is worth nothing. Blank characters around a text make no difference.

## Key results

- `Amount.value_eq_iff`: the number that a literal is worth
- `Amount.parse_eq_zero`: texts that are no literals, and literals that are too large
- `Amount.parse_isWorth`: what any text is worth
-/

namespace DonationSite.Donation.Amount

open Binary64 (Finite IsNearest LiteralText overflowBound signed)

variable {s : String} {q : ℚ}

/-- A literal that is neither below zero nor too large is worth the one number that is nearest to
its value and has its sign. -/
theorem value_eq_iff (h : LiteralText (Text.trim s).toList q) (hq : 0 ≤ q)
    (hlt : q < overflowBound) (y : Finite) :
    y = (parse s).value ↔
      IsNearest q y ∧ (y.negative = true ↔ (Text.trim s).toList.head? = some '-') := by
  obtain ⟨x, hx, hnear, hnotBelow⟩ := h.exists_nearest hq hlt
  have hsign := Binary64.negative_of_parseChars? hx
  have hvalue : (parse s).value = x := by
    rw [parse, Binary64.parse?, hx, Option.bind_some, value_ofFinite, hnotBelow,
      if_neg Bool.false_ne_true]
  -- Its number is the one that was read.
  rw [hvalue]
  constructor
  · rintro rfl
    exact ⟨hnear, hsign⟩
  · intro hy
    obtain ⟨hynear, hysign⟩ := hy
    exact hynear.unique hnear hq (Bool.eq_iff_iff.2 (hysign.trans hsign.symm))

/-- A literal below zero is worth nothing. -/
theorem quanta_parse_of_neg (h : LiteralText (Text.trim s).toList q) (hq : q < 0) :
    (parse s).value.quanta = 0 := by
  have hnear := isNearest_parse h (hq.trans Binary64.overflowBound_pos)
  -- The amount is nearest to zero, and so is zero, so that they have the same value.
  rw [max_eq_right hq.le, ← Finite.toRat_zero false] at hnear
  have hle := Finite.toRat_le_toRat.1 (hnear.le_of_nearest (Finite.isNearest_toRat _) (by simp))
  have hge := Finite.toRat_le_toRat.1 ((Finite.isNearest_toRat _).le_of_nearest hnear (by simp))
  rw [Finite.quanta_zero] at hle hge
  exact Int.le_antisymm hge hle

/-- A text that is no literal is worth nothing, and neither is a literal that is too large. -/
theorem parse_eq_zero (h : ∀ q, LiteralText (Text.trim s).toList q → overflowBound ≤ q) :
    parse s = zero := by
  have hnone : (Binary64.parse? (Text.trim s)).bind ofBinary64? = none := by
    rw [Option.bind_eq_none_iff]
    intro number hnumber
    cases number with
    | nan => rfl
    | infinite negative => rfl
    | finite x =>
      -- The number would have been read of a literal that is too large to be read.
      exfalso
      obtain ⟨d, hliteral, hd⟩ := Binary64.exists_literalText hnumber
      have hlarge := h _ hliteral
      have hbound : overflowBound ≤ d.toRat := by
        refine hlarge.trans ?_
        -- The bound is above zero, so a large literal has no minus sign.
        unfold signed
        split
        · exact (neg_nonpos.2 d.toRat_nonneg).trans d.toRat_nonneg
        · exact le_rfl
      rw [Finite.ofDecimal_eq_none _ hbound] at hd
      cases hd
  rw [parse, hnone]
  rfl

/-- What a text without blank characters around it is worth. -/
structure IsWorth (text : List Char) (x : Finite) : Prop where
  /-- A literal that is neither below zero nor too large is worth the one number that is nearest to
  its value, ties going to the even significand, and that is negative exactly after a minus sign;
  then it is minus zero. -/
  nearest (q : ℚ) : LiteralText text q → 0 ≤ q → q < overflowBound →
    ∀ y, y = x ↔ IsNearest q y ∧ (y.negative = true ↔ text.head? = some '-')
  /-- A literal below zero is worth zero, of either sign. -/
  below_zero (q : ℚ) : LiteralText text q → q < 0 → x.quanta = 0
  /-- A literal that is too large is worth zero, and so is what is no literal. -/
  otherwise : (∀ q, LiteralText text q → overflowBound ≤ q) → x = .zero false

/-- Every text is worth an exact amount, which is at least zero, and blank characters around it make
no difference. -/
theorem parse_isWorth (s : String) :
    IsWorth (Text.trim s).toList (parse s).value ∧ 0 ≤ (parse s).value.toRat ∧
      ∀ before after : String, Text.isBlankText before = true → Text.isBlankText after = true →
        parse (before ++ s ++ after) = parse s := by
  refine ⟨⟨fun q h hq hlt => value_eq_iff h hq hlt, fun q h hq => quanta_parse_of_neg h hq,
    fun h => by rw [parse_eq_zero h]; rfl⟩, ?_, ?_⟩
  · rw [Finite.toRat]
    exact mul_nonneg (Int.cast_nonneg (quanta_nonneg _)) Binary64.quantum_pos.le
  · intro before after hbefore hafter
    rw [parse, parse, Text.trim_append hbefore hafter]

/-- Minus zero among blank characters, a value half way between two numbers, a tiny value below
zero, and a word. -/
theorem parse_isWorth_hardTexts :
    (LiteralText (Text.trim "\u3000-.0E+5\t").toList 0 ∧ (0 : ℚ) < overflowBound ∧
      (parse "\u3000-.0E+5\t").value = .zero true) ∧
    (LiteralText (Text.trim "9007199254740993.").toList 9007199254740993 ∧
      (9007199254740993 : ℚ) < overflowBound ∧
      IsNearest 9007199254740993 (parse "9007199254740993.").value ∧
      (parse "9007199254740993.").value.significand = 2 ^ 52) ∧
    (LiteralText (Text.trim "-1e-400").toList (-10 ^ (-400 : Int)) ∧
      (parse "-1e-400").value.quanta = 0) ∧
    ((∀ q, LiteralText (Text.trim "NaN").toList q → overflowBound ≤ q) ∧
      (parse "NaN").value = .zero false) := by
  -- That these are literals is found by reading them, which can be computed.
  have hzero : LiteralText (Text.trim "\u3000-.0E+5\t").toList 0 := by
    have hliteral : LiteralText (Text.trim "\u3000-.0E+5\t").toList
        (signed true (Binary64.Decimal.toRat ⟨0, 4⟩)) :=
      Binary64.literalText_of_parse (by decide)
    simpa [signed, Binary64.Decimal.toRat] using hliteral
  have hmiddle : LiteralText (Text.trim "9007199254740993.").toList 9007199254740993 := by
    have hliteral : LiteralText (Text.trim "9007199254740993.").toList
        (signed false (Binary64.Decimal.toRat ⟨9007199254740993, 0⟩)) :=
      Binary64.literalText_of_parse (by decide)
    simpa [signed, Binary64.Decimal.toRat] using hliteral
  have htiny : LiteralText (Text.trim "-1e-400").toList (-10 ^ (-400 : Int)) := by
    have hliteral : LiteralText (Text.trim "-1e-400").toList
        (signed true (Binary64.Decimal.toRat ⟨1, -400⟩)) :=
      Binary64.literalText_of_parse (by decide)
    simpa only [signed, if_true, Binary64.Decimal.toRat, Nat.cast_one, one_mul] using hliteral
  have hword : ∀ q, LiteralText (Text.trim "NaN").toList q → overflowBound ≤ q := by
    intro q hq
    obtain ⟨negative, d, hparse, -⟩ := hq.exists_parse
    have hnan : Binary64.parseChars? (Text.trim "NaN").toList = some .nan := by decide
    rw [hnan, Binary64.ofDecimal] at hparse
    split at hparse <;> cases hparse
  -- The value is small against the bound, of which only one factor is needed.
  have hbound : (9007199254740993 : ℚ) < overflowBound := by
    have hpower : (1 : ℚ) ≤ 2 ^ 970 := one_le_pow₀ one_le_two
    unfold overflowBound
    generalize (2 : ℚ) ^ 970 = power at hpower
    linarith
  have hpos := Binary64.overflowBound_pos
  refine ⟨⟨hzero, hpos, ?_⟩, ⟨hmiddle, hbound, ?_, by decide +kernel⟩, ⟨htiny, ?_⟩, hword, ?_⟩
  · have hnearest := (parse_isWorth "\u3000-.0E+5\t").1.nearest 0 hzero le_rfl hpos
    refine ((hnearest (.zero true)).2 ⟨?_, by decide⟩).symm
    rw [← Finite.toRat_zero true]
    exact Finite.isNearest_toRat _
  · have hnearest := (parse_isWorth "9007199254740993.").1.nearest _ hmiddle (by norm_num) hbound
    exact ((hnearest _).1 rfl).1
  · exact (parse_isWorth "-1e-400").1.below_zero _ htiny (neg_neg_of_pos (by positivity))
  · exact (parse_isWorth "NaN").1.otherwise hword

end DonationSite.Donation.Amount
