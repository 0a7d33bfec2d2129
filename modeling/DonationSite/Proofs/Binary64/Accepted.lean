import Mathlib.Data.List.TakeWhile
import DonationSite.Proofs.Binary64.Literal

/-!
# Only literals are read as finite numbers

The reader takes nothing for a finite number but a decimal literal that is not too large: what each
of its parts takes away belongs to the grammar, so the whole text does.

## Key results

- `Decimal.exists_text`: a decimal is read only of a literal without sign
- `exists_literalText`: a finite number is read only of a literal
- `negative_of_parseChars?`: its sign is the sign of the literal, also if it is zero
-/

namespace DonationSite.Binary64

variable {cs rest : List Char}

/-! ### Parts of a literal -/

/-- What is taken for a sign at the front of a text is one, and the rest of the text follows it. -/
theorem exists_signText (cs : List Char) :
    ∃ sign, SignText sign (readSign cs).1 ∧ cs = sign ++ (readSign cs).2 := by
  unfold readSign
  split
  · exact ⟨['-'], .minus, rfl⟩
  · exact ⟨['+'], .plus, rfl⟩
  · exact ⟨[], .none, rfl⟩

/-- A sign is minus exactly if the text starts with a minus sign. -/
theorem readSign_minus_iff : (readSign cs).1 = true ↔ cs.head? = some '-' := by
  unfold readSign
  split
  · simp
  · simp
  · next hminus _ =>
    cases cs with
    | nil => simp
    | cons c cs => simpa using fun hc => hminus cs (by rw [hc])

/-- What is taken for digits is nothing else. -/
theorem allDigits_takeWhile (cs : List Char) : AllDigits (cs.takeWhile Char.isDigit) :=
  fun _ hmem => List.mem_takeWhile_imp hmem

/-- What is read as an exponent is one. -/
theorem exponentText_of_readExponent {e : Int} (h : readExponent? cs = some e) :
    ExponentText cs e := by
  cases cs with
  | nil =>
    cases h
    exact .none
  | cons mark rest =>
    obtain ⟨sign, hsign, hrest⟩ := exists_signText rest
    rw [readExponent?] at h
    generalize readSign rest = split at *
    -- A mark comes first, and after its sign nothing but digits, of which there is one.
    obtain ⟨hmark, h⟩ := Option.ite_none_right_eq_some.1 h
    obtain ⟨hdigits, h⟩ := Option.ite_none_left_eq_some.1 h
    cases h
    rw [Bool.or_eq_true, not_or, Bool.not_eq_true, List.isEmpty_eq_false_iff, Bool.not_eq_true,
      Bool.not_eq_false', List.all_eq_true] at hdigits
    rw [hrest]
    exact .marked (by simpa using hmark) hsign hdigits.2 hdigits.1

/-- A fraction is digits after a point, or nothing where no point comes first. -/
theorem of_readFraction (cs : List Char) :
    AllDigits (readFraction cs).1 ∧
      (cs = '.' :: ((readFraction cs).1 ++ (readFraction cs).2) ∨
        (readFraction cs).1 = [] ∧ cs = (readFraction cs).2) := by
  unfold readFraction
  split
  · next rest => exact ⟨allDigits_takeWhile rest, .inl (by rw [List.takeWhile_append_dropWhile])⟩
  · exact ⟨fun _ hmem => absurd hmem List.not_mem_nil, .inr ⟨rfl, rfl⟩⟩

/-! ### Literals -/

/-- What is read as a decimal is a literal without sign, and the decimal has its value. -/
theorem Decimal.exists_text {d : Decimal} (h : Decimal.parse? cs = some d) :
    ∃ mantissa exponent m e, MantissaText mantissa m ∧ ExponentText exponent e ∧
      cs = mantissa ++ exponent ∧ d.toRat = m * 10 ^ e := by
  rw [Decimal.parse?] at h
  have hwhole := allDigits_takeWhile cs
  have hcut := List.takeWhile_append_dropWhile (p := Char.isDigit) (l := cs)
  obtain ⟨hfraction, hrest⟩ := of_readFraction (cs.dropWhile Char.isDigit)
  -- From here on only the parts matter, not how they were cut off.
  generalize cs.takeWhile Char.isDigit = whole at *
  generalize readFraction (cs.dropWhile Char.isDigit) = split at *
  obtain ⟨fraction, exponent⟩ := split
  obtain ⟨hne, h⟩ := Option.ite_none_left_eq_some.1 h
  obtain ⟨e, he, hd⟩ := Option.map_eq_some_iff.1 h
  rw [Bool.and_eq_true, List.isEmpty_iff, List.isEmpty_iff] at hne
  rw [← hd, toRat_digits]
  rcases hrest with hrest | ⟨hnone, hrest⟩
  · refine ⟨_, exponent, _, e, .pointed hwhole hfraction hne, exponentText_of_readExponent he, ?_,
      rfl⟩
    rw [← hcut, hrest]
    simp
  · -- Without a fraction there are digits before.
    dsimp only at hnone hrest
    refine ⟨whole, exponent, _, e, .whole hwhole fun hempty => hne ⟨hempty, hnone⟩,
      exponentText_of_readExponent he, ?_, ?_⟩
    · rw [← hcut, hrest]
    · rw [hnone]
      simp [digitsValue]

/-- A text with a decimal after its sign is a literal with the value of the decimal. -/
theorem literalText_of_parse {d : Decimal} (h : Decimal.parse? (readSign cs).2 = some d) :
    LiteralText cs (signed (readSign cs).1 d.toRat) := by
  obtain ⟨sign, hsign, hcs⟩ := exists_signText cs
  obtain ⟨mantissa, exponent, m, e, hm, he, hbody, hvalue⟩ := Decimal.exists_text h
  rw [hbody] at hcs
  rw [hvalue]
  -- The sign and the value still speak of the text as a whole.
  generalize (readSign cs).1 = negative at *
  rw [hcs]
  exact .mk hsign hm he

/-- What is read as a finite number is a literal, and the number is what its decimal is rounded
to. -/
theorem exists_literalText {x : Finite} (h : parseChars? cs = some (.finite x)) :
    ∃ d : Decimal, LiteralText cs (signed (readSign cs).1 d.toRat) ∧
      Finite.ofDecimal? (readSign cs).1 d.coefficient d.exponent = some x := by
  rw [parseChars?] at h
  dsimp only at h
  -- The words are not finite numbers.
  split at h
  · cases h
  · split at h
    · cases h
    -- A decimal that is too large is read as infinite, which is not finite.
    · obtain ⟨d, hd, hx⟩ := Option.map_eq_some_iff.1 h
      refine ⟨d, literalText_of_parse hd, ?_⟩
      unfold ofDecimal at hx
      split at hx
      · next value hvalue =>
        cases hx
        exact hvalue
      · cases hx

/-- The sign of a number is that of its literal, also if the number is zero. -/
theorem negative_of_parseChars? {x : Finite} (h : parseChars? cs = some (.finite x)) :
    x.negative = true ↔ cs.head? = some '-' := by
  obtain ⟨d, -, hd⟩ := exists_literalText h
  rw [Finite.negative_of_ofDecimal hd, readSign_minus_iff]

end DonationSite.Binary64
