import DonationSite.Binary64.Display
import DonationSite.Proofs.Binary64.Literal
import DonationSite.Proofs.Binary64.ReadBack
import DonationSite.Proofs.Text.Blank

/-!
# Numbers are written as literals

A number without exponent is written as a decimal literal for its shortest decimal, with a minus
sign exactly if the number has one. There is nothing blank in a literal.

## Key results

- `mantissaText_positional`: digits with a point stand for their decimal
- `Finite.literalText_display`: a displayed number is a literal
- `LiteralText.isBlank_eq_false`: a literal has no blank characters
-/

namespace DonationSite.Binary64

/-! ### Digits -/

/-- A whole number is written with digits only. -/
theorem allDigits_decimalDigits (n : Nat) : AllDigits (decimalDigits n) :=
  fun _ hmem => Nat.isDigit_of_mem_toDigits (by decide) (by decide) hmem

/-- Its digits stand for the number. -/
theorem digitsValue_decimalDigits (n : Nat) : digitsValue (decimalDigits n) = n := by
  have hvalue : Nat.ofDigitChars 10 (Nat.toDigits 10 n) 0 = n := Nat.ofDigitChars_ten_toDigits
  rwa [Nat.ofDigitChars_eq_foldl] at hvalue

/-- Digits after digits are digits. -/
theorem AllDigits.append {first second : List Char} (hfirst : AllDigits first)
    (hsecond : AllDigits second) : AllDigits (first ++ second) :=
  fun c hmem => (List.mem_append.1 hmem).elim (hfirst c) (hsecond c)

/-- Zeros are digits. -/
theorem allDigits_zeros (n : Nat) : AllDigits (List.replicate n '0') := by
  intro c hmem
  rw [List.eq_of_mem_replicate hmem]
  rfl

/-- Zeros in front add nothing to a number. -/
theorem digitsValue_zeros (n : Nat) : digitsValue (List.replicate n '0') = 0 := by
  have hvalue : Nat.ofDigitChars 10 (List.replicate n '0') 0 = 10 ^ n * 0 :=
    Nat.ofDigitChars_replicate_zero
  rwa [Nat.ofDigitChars_eq_foldl, Nat.mul_zero] at hvalue

/-! ### Positional numbers -/

/-- Digits with a point before the last of them. -/
theorem mantissaText_withPoint {digits : List Char} (hdigits : AllDigits digits) (places : Nat) :
    MantissaText (withPoint digits places)
      (Decimal.toRat ⟨digitsValue digits, 0 - places⟩) := by
  unfold withPoint
  dsimp only
  -- With zeros in front there is a digit before the point, whatever the number of places is.
  have hpadded := (allDigits_zeros (places + 1 - digits.length)).append hdigits
  have hvalue : digitsValue (List.replicate (places + 1 - digits.length) '0' ++ digits) =
      digitsValue digits := by
    rw [digitsValue_append, digitsValue_zeros, Nat.zero_mul, Nat.zero_add]
  have hlength : places + 1 ≤
      (List.replicate (places + 1 - digits.length) '0' ++ digits).length := by
    rw [List.length_append, List.length_replicate]
    omega
  generalize List.replicate (places + 1 - digits.length) '0' ++ digits = padded at *
  -- The point cuts the padded digits in two.
  have hcut := List.take_append_drop (padded.length - places) padded
  have hplaces : (padded.drop (padded.length - places)).length = places := by
    rw [List.length_drop]
    omega
  have hwhole : (padded.take (padded.length - places)).length ≠ 0 := by
    rw [List.length_take]
    omega
  generalize padded.take (padded.length - places) = whole at *
  generalize padded.drop (padded.length - places) = fraction at *
  subst hcut
  have hrat := toRat_digits whole fraction 0
  rw [zpow_zero, mul_one, hvalue, hplaces] at hrat
  rw [hrat, ← hplaces]
  exact .pointed (fun c hmem => hpadded c (List.mem_append_left _ hmem))
    (fun c hmem => hpadded c (List.mem_append_right _ hmem))
    fun hempty => hwhole (by rw [hempty.1, List.length_nil])

/-- A number without exponent stands for its decimal. -/
theorem mantissaText_positional (d : Digits) : MantissaText d.positional d.toRat := by
  rw [Digits.positional, Digits.toRat]
  split
  · next hexponent =>
    -- Without places the digits are followed by zeros, except for zero itself.
    split
    · next hzero =>
      rw [hzero, Nat.cast_zero, zero_mul]
      have hwhole : MantissaText ['0'] (digitsValue ['0']) := .whole (by decide) (by decide)
      simpa [digitsValue] using hwhole
    · have hvalue : digitsValue (decimalDigits d.coefficient ++
          List.replicate d.exponent.toNat '0') = d.coefficient * 10 ^ d.exponent.toNat := by
        rw [digitsValue_append, digitsValue_decimalDigits, digitsValue_zeros, List.length_replicate,
          Nat.add_zero]
      have hpower : (10 : ℚ) ^ d.exponent = 10 ^ d.exponent.toNat := by
        rw [← zpow_natCast, Int.toNat_of_nonneg hexponent]
      have hdigits := (allDigits_decimalDigits d.coefficient).append
        (allDigits_zeros d.exponent.toNat)
      have hwhole := MantissaText.whole hdigits
        (List.append_ne_nil_of_left_ne_nil Nat.toDigits_ne_nil _)
      rw [hvalue] at hwhole
      rw [hpower]
      exact_mod_cast hwhole
  · next hexponent =>
    have hpoint := mantissaText_withPoint (allDigits_decimalDigits d.coefficient)
      (-d.exponent).toNat
    have hplaces : (0 - ((-d.exponent).toNat : Int)) = d.exponent := by omega
    rwa [Decimal.toRat, digitsValue_decimalDigits, hplaces] at hpoint

/-! ### Displayed numbers -/

/-- A displayed number is a literal for its shortest decimal. -/
theorem Finite.literalText_display (x : Finite) :
    LiteralText x.display.toList (signed x.negative (x.shortest .up).toRat) := by
  have hsign : SignText (if x.negative then ['-'] else []) x.negative := by
    cases x.negative
    · exact .none
    · exact .minus
  have hliteral := LiteralText.mk hsign (mantissaText_positional (x.shortest .up)) .none
  rw [List.append_nil, zpow_zero, mul_one] at hliteral
  rwa [Finite.display, String.toList_ofList]

/-- A displayed number starts with a minus sign exactly if it has one. -/
theorem Finite.negative_iff_head_display (x : Finite) :
    x.negative = true ↔ x.display.toList.head? = some '-' := by
  obtain ⟨c, tail, hpositional, hstart⟩ := (mantissaText_positional (x.shortest .up)).startsNumber
  rw [Finite.display, String.toList_ofList, hpositional]
  cases x.negative with
  | true => simp
  | false =>
    -- A digit or a point comes first where there is no sign.
    have hne : c ≠ '-' := by
      rintro rfl
      exact absurd hstart (by decide)
    simpa using hne

/-! ### Blank characters -/

/-- The class of blank characters has no digit. -/
theorem isBlank_of_isDigit {c : Char} (h : c.isDigit = true) : Text.isBlank c = false := by
  rw [Char.isDigit, Bool.and_eq_true, decide_eq_true_eq, decide_eq_true_eq, ge_iff_le,
    UInt32.le_iff_toNat_le, UInt32.le_iff_toNat_le] at h
  -- The digits lie between the ranges of blank characters.
  have hlow : 48 ≤ c.toNat := h.1
  have hhigh : c.toNat ≤ 57 := h.2
  simp only [Text.isBlank, Bool.or_eq_false_iff, Bool.and_eq_false_iff, decide_eq_false_iff_not,
    beq_eq_false_iff_ne]
  omega

/-- There is nothing blank in a sign. -/
theorem SignText.isBlank_eq_false {cs : List Char} {negative : Bool} (h : SignText cs negative) :
    ∀ c ∈ cs, Text.isBlank c = false := by
  intro c hmem
  cases h with
  | none => cases hmem
  | plus | minus =>
    rw [List.mem_singleton.1 hmem]
    rfl

/-- There is nothing blank in digits and their point. -/
theorem MantissaText.isBlank_eq_false {cs : List Char} {m : ℚ} (h : MantissaText cs m) :
    ∀ c ∈ cs, Text.isBlank c = false := by
  intro c hmem
  cases h with
  | whole hdigits => exact isBlank_of_isDigit (hdigits c hmem)
  | pointed hwhole hfraction =>
    rcases List.mem_append.1 hmem with hmem | hmem
    · exact isBlank_of_isDigit (hwhole c hmem)
    · rcases List.mem_cons.1 hmem with rfl | hmem
      · decide
      · exact isBlank_of_isDigit (hfraction c hmem)

/-- There is nothing blank in an exponent. -/
theorem ExponentText.isBlank_eq_false {cs : List Char} {e : Int} (h : ExponentText cs e) :
    ∀ c ∈ cs, Text.isBlank c = false := by
  intro c hmem
  cases h with
  | none => exact absurd hmem List.not_mem_nil
  | marked hmark hsign hdigits =>
    rcases List.mem_append.1 hmem with hmem | hmem
    · rcases List.mem_cons.1 hmem with rfl | hmem
      · rcases hmark with rfl | rfl <;> decide
      · exact hsign.isBlank_eq_false c hmem
    · exact isBlank_of_isDigit (hdigits c hmem)

/-- There is nothing blank in a literal. -/
theorem LiteralText.isBlank_eq_false {cs : List Char} {q : ℚ} (h : LiteralText cs q) :
    ∀ c ∈ cs, Text.isBlank c = false := by
  intro c hmem
  cases h with
  | mk hsign hm he =>
    rcases List.mem_append.1 hmem with hmem | hmem
    · exact hsign.isBlank_eq_false c hmem
    · exact (List.mem_append.1 hmem).elim (hm.isBlank_eq_false c) (he.isBlank_eq_false c)

end DonationSite.Binary64
