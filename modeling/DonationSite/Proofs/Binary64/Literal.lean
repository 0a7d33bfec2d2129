import Mathlib.Tactic.Ring
import DonationSite.Proofs.Binary64.Decimal

/-!
# The grammar of decimal literals

Decimal literals as lists of characters with their exact values, stated without a reader: an
optional sign, digits with at most one point among or around them, and optionally a mark with
another sign and digits for the exponent. Every literal is read as the decimal that it stands for,
however it is spelled.

## Key results

- `MantissaText.exists_parse`: a literal without sign is read as a decimal with its value
- `LiteralText.exists_parse`: a literal is read as a decimal with its exact value
- `LiteralText.exists_nearest`: unless it is below zero or too large, as a number nearest to it
-/

namespace DonationSite.Binary64

/-! ### The grammar -/

/-- Nothing but decimal digits. -/
def AllDigits (cs : List Char) : Prop :=
  ∀ c ∈ cs, c.isDigit = true

instance (cs : List Char) : Decidable (AllDigits cs) :=
  decidable_of_iff (cs.all Char.isDigit = true) List.all_eq_true

/-- A sign, or none; true is minus. -/
inductive SignText : List Char → Bool → Prop where
  | none : SignText [] false
  | plus : SignText ['+'] false
  | minus : SignText ['-'] true

/-- Digits with at most one point and at least one digit, and the value that they write. -/
inductive MantissaText : List Char → ℚ → Prop where
  | whole {whole : List Char} : AllDigits whole → whole ≠ [] →
    MantissaText whole (digitsValue whole)
  | pointed {whole fraction : List Char} : AllDigits whole → AllDigits fraction →
    ¬(whole = [] ∧ fraction = []) →
    MantissaText (whole ++ '.' :: fraction)
      (digitsValue whole + digitsValue fraction / 10 ^ fraction.length)

/-- An exponent, or none. -/
inductive ExponentText : List Char → Int → Prop where
  | none : ExponentText [] 0
  | marked {mark : Char} {sign digits : List Char} {negative : Bool} : mark = 'e' ∨ mark = 'E' →
    SignText sign negative → AllDigits digits → digits ≠ [] →
    ExponentText (mark :: sign ++ digits)
      (if negative then -(digitsValue digits : Int) else digitsValue digits)

/-- A value with a sign; true is minus. -/
def signed (negative : Bool) (q : ℚ) : ℚ :=
  if negative then -q else q

/-- A decimal literal and its exact value. -/
inductive LiteralText : List Char → ℚ → Prop where
  | mk {sign mantissa exponent : List Char} {negative : Bool} {m : ℚ} {e : Int} :
    SignText sign negative → MantissaText mantissa m → ExponentText exponent e →
    LiteralText (sign ++ (mantissa ++ exponent)) (signed negative (m * 10 ^ e))

/-! ### Digits -/

/-- Reading digits after a number appends them to it. -/
theorem foldl_digits (digits : List Char) (n : Nat) :
    digits.foldl (fun n c => 10 * n + (c.toNat - 48)) n =
      n * 10 ^ digits.length + digitsValue digits := by
  unfold digitsValue
  -- The number read so far is moved up by every digit.
  induction digits generalizing n with
  | nil => simp
  | cons c digits ih =>
    rw [List.foldl_cons, List.foldl_cons, ih, ih (10 * 0 + _), List.length_cons, Nat.pow_succ']
    ring

/-- Two runs of digits write the first number moved up, plus the second. -/
theorem digitsValue_append (whole fraction : List Char) :
    digitsValue (whole ++ fraction) =
      digitsValue whole * 10 ^ fraction.length + digitsValue fraction := by
  rw [digitsValue, List.foldl_append, foldl_digits]
  rfl

/-- Where the digits of a literal end. -/
def StopsDigits (rest : List Char) : Prop :=
  ∀ c ∈ rest.head?, c.isDigit = false

/-- Digits are taken to where they stop. -/
theorem AllDigits.takeWhile_append {digits rest : List Char} (h : AllDigits digits)
    (hrest : StopsDigits rest) : (digits ++ rest).takeWhile Char.isDigit = digits := by
  rw [List.takeWhile_append_of_pos h]
  cases rest with
  | nil => rw [List.takeWhile_nil, List.append_nil]
  | cons c rest =>
    rw [List.takeWhile_cons_of_neg (Bool.eq_false_iff.1 (hrest c rfl)), List.append_nil]

/-- What stops them is left. -/
theorem AllDigits.dropWhile_append {digits rest : List Char} (h : AllDigits digits)
    (hrest : StopsDigits rest) : (digits ++ rest).dropWhile Char.isDigit = rest := by
  rw [List.dropWhile_append_of_pos h]
  cases rest with
  | nil => rfl
  | cons c rest => exact List.dropWhile_cons_of_neg (Bool.eq_false_iff.1 (hrest c rfl))

/-! ### Signs -/

/-- What can stand after a sign: a digit or a point comes first. -/
def StartsNumber (rest : List Char) : Prop :=
  ∃ c tail, rest = c :: tail ∧ (c.isDigit = true ∨ c = '.')

/-- Digits can stand after a sign. -/
theorem AllDigits.startsNumber {digits : List Char} (h : AllDigits digits) (hne : digits ≠ []) :
    StartsNumber digits := by
  obtain ⟨c, cs, rfl⟩ := List.exists_cons_of_ne_nil hne
  exact ⟨c, cs, rfl, .inl (h c List.mem_cons_self)⟩

/-- So can what begins with something that can. -/
theorem StartsNumber.append {cs : List Char} (h : StartsNumber cs) (rest : List Char) :
    StartsNumber (cs ++ rest) := by
  obtain ⟨c, tail, rfl, hstart⟩ := h
  exact ⟨c, tail ++ rest, rfl, hstart⟩

/-- A sign is split off what follows it. -/
theorem SignText.readSign_append {sign rest : List Char} {negative : Bool}
    (h : SignText sign negative) (hrest : StartsNumber rest) :
    readSign (sign ++ rest) = (negative, rest) := by
  cases h with
  | plus => rfl
  | minus => rfl
  | none =>
    obtain ⟨c, tail, rfl, hstart⟩ := hrest
    rw [List.nil_append]
    unfold readSign
    -- A digit or a point is no sign.
    split
    · next heq =>
      cases heq
      exact absurd hstart (by decide)
    · next heq =>
      cases heq
      exact absurd hstart (by decide)
    · rfl

/-! ### Exponents -/

/-- Digits before an exponent end at its mark. -/
theorem ExponentText.stopsDigits {exponent : List Char} {e : Int} (h : ExponentText exponent e) :
    StopsDigits exponent := by
  intro c hc
  cases h with
  | none => exact absurd hc (by simp)
  | marked hmark =>
    cases hc
    rcases hmark with rfl | rfl <;> rfl

/-- An exponent is no fraction, so nothing is taken of it. -/
theorem ExponentText.readFraction_eq {exponent : List Char} {e : Int}
    (h : ExponentText exponent e) : readFraction exponent = ([], exponent) := by
  cases h with
  | none => rfl
  | marked hmark => rcases hmark with rfl | rfl <;> rfl

/-- An exponent is read for its value. -/
theorem ExponentText.readExponent? {exponent : List Char} {e : Int}
    (h : ExponentText exponent e) : readExponent? exponent = some e := by
  cases h with
  | none => rfl
  | @marked mark sign digits negative hmark hsign hdigits hne =>
    have hnotempty : ¬(digits.isEmpty || !digits.all Char.isDigit) = true := by
      rw [List.isEmpty_eq_false_iff.2 hne, List.all_eq_true.2 hdigits]
      decide
    rw [List.cons_append, Binary64.readExponent?, if_pos (by simpa using hmark),
      hsign.readSign_append (hdigits.startsNumber hne)]
    exact if_neg hnotempty

/-! ### Literals -/

/-- What stands after the sign of a literal starts like a number, with a digit or with its point. -/
theorem MantissaText.startsNumber {mantissa : List Char} {m : ℚ} (h : MantissaText mantissa m) :
    StartsNumber mantissa := by
  cases h with
  | whole hdigits hne => exact hdigits.startsNumber hne
  | @pointed whole fraction hdigits =>
    cases whole with
    | nil => exact ⟨'.', fraction, rfl, .inr rfl⟩
    | cons c whole => exact (hdigits.startsNumber (List.cons_ne_nil c whole)).append _

/-- The value of digits with a point before the last of them. -/
theorem toRat_digits (whole fraction : List Char) (e : Int) :
    Decimal.toRat ⟨digitsValue (whole ++ fraction), e - fraction.length⟩ =
      (digitsValue whole + digitsValue fraction / 10 ^ fraction.length) * 10 ^ e := by
  rw [Decimal.toRat, digitsValue_append, zpow_sub₀ (by norm_num), zpow_natCast]
  push_cast
  field_simp

/-- What is read of a text that is cut at a point. -/
theorem Decimal.parse?_of_cut {cs whole fraction rest : List Char} {e : Int}
    (hwhole : cs.takeWhile Char.isDigit = whole)
    (hfraction : readFraction (cs.dropWhile Char.isDigit) = (fraction, rest))
    (hne : ¬(whole = [] ∧ fraction = [])) (he : readExponent? rest = some e) :
    Decimal.parse? cs = some ⟨digitsValue (whole ++ fraction), e - fraction.length⟩ := by
  -- A point needs a digit on one side of it.
  have hnotempty : ¬(whole.isEmpty && fraction.isEmpty) = true := by
    rwa [Bool.and_eq_true, List.isEmpty_iff, List.isEmpty_iff]
  rw [Decimal.parse?, hwhole, hfraction]
  show (if (whole.isEmpty && fraction.isEmpty) = true then none else _) = _
  rw [if_neg hnotempty, he]
  rfl

/-- A literal without sign is read as a decimal with its value. -/
theorem MantissaText.exists_parse {mantissa exponent : List Char} {m : ℚ} {e : Int}
    (hm : MantissaText mantissa m) (he : ExponentText exponent e) :
    ∃ d, Decimal.parse? (mantissa ++ exponent) = some d ∧ d.toRat = m * 10 ^ e := by
  cases hm with
  | whole hdigits hne =>
    have hfraction : readFraction ((mantissa ++ exponent).dropWhile Char.isDigit) =
        ([], exponent) := by
      rw [hdigits.dropWhile_append he.stopsDigits, he.readFraction_eq]
    refine ⟨_, Decimal.parse?_of_cut (hdigits.takeWhile_append he.stopsDigits) hfraction
      (fun h => hne h.1) he.readExponent?, ?_⟩
    rw [toRat_digits]
    simp [digitsValue]
  | @pointed whole fraction hwhole hfraction hne =>
    -- The digits before the point end at it, and those after it where the exponent begins.
    have hpoint : StopsDigits ('.' :: (fraction ++ exponent)) := by
      intro c hc
      cases hc
      rfl
    have hcut : readFraction ((whole ++ '.' :: (fraction ++ exponent)).dropWhile Char.isDigit) =
        (fraction, exponent) := by
      rw [hwhole.dropWhile_append hpoint, readFraction, hfraction.takeWhile_append he.stopsDigits,
        hfraction.dropWhile_append he.stopsDigits]
    rw [List.append_assoc, List.cons_append]
    exact ⟨_, Decimal.parse?_of_cut (hwhole.takeWhile_append hpoint) hcut hne he.readExponent?,
      toRat_digits whole fraction e⟩

/-- Lower case keeps digits. -/
theorem toLower_of_isDigit {c : Char} (h : c.isDigit = true) : c.toLower = c := by
  rw [Char.isDigit, Bool.and_eq_true, decide_eq_true_eq, decide_eq_true_eq] at h
  -- Upper-case letters come after the digits.
  have hlower : ¬(c.val ≥ 'A'.val ∧ c.val ≤ 'Z'.val) := fun hupper =>
    absurd (UInt32.le_trans hupper.1 h.2) (by decide)
  exact dif_neg hlower

/-- What starts like a number is no word, in any case. -/
theorem StartsNumber.ofList_toLower_ne {cs : List Char} (h : StartsNumber cs) {word : String}
    (hword : ¬StartsNumber word.toList) : String.ofList (cs.map Char.toLower) ≠ word := by
  obtain ⟨c, tail, rfl, hstart⟩ := h
  have hsame : c.toLower = c := by
    rcases hstart with hdigit | rfl
    · exact toLower_of_isDigit hdigit
    · rfl
  rintro rfl
  rw [String.toList_ofList, List.map_cons, hsame] at hword
  exact hword ⟨c, _, rfl, hstart⟩

/-- The words that stand for other values start with a letter, so unlike numbers. -/
theorem not_startsNumber_cons {c : Char} (hc : c.isDigit = false ∧ c ≠ '.') (tail : List Char) :
    ¬StartsNumber (c :: tail) := by
  intro h
  obtain ⟨d, rest, heq, hstart⟩ := h
  cases heq
  rcases hstart with hdigit | hpoint
  · rw [hc.1] at hdigit
    exact absurd hdigit (by decide)
  · exact hc.2 hpoint

/-- What starts like a number is read as a decimal. -/
theorem parseChars?_of_startsNumber {sign body : List Char} {negative : Bool}
    (hsign : SignText sign negative) (hbody : StartsNumber body) :
    parseChars? (sign ++ body) = (Decimal.parse? body).map (ofDecimal negative) := by
  -- So the text is none of the three words, in any case.
  have hnan : String.ofList (body.map Char.toLower) ≠ "nan" :=
    hbody.ofList_toLower_ne (not_startsNumber_cons (by decide) _)
  have hinf : String.ofList (body.map Char.toLower) ≠ "inf" :=
    hbody.ofList_toLower_ne (not_startsNumber_cons (by decide) _)
  have hinfinity : String.ofList (body.map Char.toLower) ≠ "infinity" :=
    hbody.ofList_toLower_ne (not_startsNumber_cons (by decide) _)
  rw [parseChars?, hsign.readSign_append hbody]
  simp [hnan, hinf, hinfinity]

/-- A literal is read as a decimal with its exact value. -/
theorem LiteralText.exists_parse {cs : List Char} {q : ℚ} (h : LiteralText cs q) :
    ∃ negative d, parseChars? cs = some (ofDecimal negative d) ∧ q = signed negative d.toRat := by
  cases h with
  | @mk sign mantissa exponent negative m e hsign hm he =>
    obtain ⟨d, hd, hvalue⟩ := hm.exists_parse he
    refine ⟨negative, d, ?_, by rw [hvalue]⟩
    rw [parseChars?_of_startsNumber hsign (hm.startsNumber.append exponent), hd]
    rfl

/-- A literal that is neither below zero nor too large is read as a number nearest to its value. -/
theorem LiteralText.exists_nearest {cs : List Char} {q : ℚ} (h : LiteralText cs q) (hq : 0 ≤ q)
    (hlt : q < overflowBound) :
    ∃ x : Finite, parseChars? cs = some (.finite x) ∧ IsNearest q x ∧ x.isBelowZero = false := by
  obtain ⟨negative, d, hparse, rfl⟩ := h.exists_parse
  rw [hparse, ofDecimal]
  cases negative with
  | false =>
    obtain ⟨x, hx, hnear⟩ := Finite.exists_ofDecimal hlt
    rw [hx]
    refine ⟨x, rfl, hnear, ?_⟩
    rw [Finite.isBelowZero, Finite.negative_of_ofDecimal hx, Bool.false_and]
  | true =>
    -- Only a zero is not below zero after a minus sign, and it is read as minus zero.
    have hzero : d.toRat = 0 := le_antisymm (neg_nonneg.1 hq) d.toRat_nonneg
    have hcoefficient : d.coefficient = 0 := by
      rcases mul_eq_zero.1 hzero with h | h
      · exact Nat.cast_eq_zero.1 h
      · exact absurd h (zpow_ne_zero _ (by norm_num))
    refine ⟨.zero true, ?_, ?_, rfl⟩
    · rw [Finite.ofDecimal?, if_pos hcoefficient]
    · rw [signed, if_pos rfl, hzero, neg_zero, ← Finite.toRat_zero true]
      exact Finite.isNearest_toRat _

end DonationSite.Binary64
