import Mathlib.Data.List.TakeWhile
import DonationSite.Json.Scan
import DonationSite.Proofs.Json.Grammar

/-!
# What is accepted as blanks, words and strings

A reader that succeeds has taken a part of the grammar from the front of what was left, and whatever
part of the grammar stands there, it takes. For blanks, words and strings what follows does not
matter, so each reader has one lemma that says both.

## Key results

- `skipSpace_append`, `exists_spaces`: exactly the blanks at the front are dropped
- `readLetters_eq_ok_iff`: a word
- `readString_eq_ok_iff`, `skipString_eq_ok_iff`: a string that is read, and one that is passed over
-/

namespace DonationSite.Json

/-- A reader followed by another succeeds if both do. -/
theorem bind_eq_ok_iff {α β : Type} {reading : Except Failure α} {next : α → Except Failure β}
    {b : β} : (reading >>= next) = .ok b ↔ ∃ a, reading = .ok a ∧ next a = .ok b := by
  constructor
  · intro h
    match reading, h with
    | .ok a, h => exact ⟨a, rfl, h⟩
  · intro hexists
    obtain ⟨a, rfl, hnext⟩ := hexists
    exact hnext

/-- A failure is no success. -/
theorem failBefore_ne_ok {α : Type} {problem : Problem} {left : List Char} {a : α} :
    failBefore problem left ≠ .ok a := nofun

/-- The same for a failure that points behind a byte. -/
theorem failAfter_ne_ok {α : Type} {problem : Problem} {left : List Char} {a : α} :
    failAfter problem left ≠ .ok a := nofun

/-! ### Blanks -/

/-- The test for blanks and the blanks of the grammar are the same. -/
theorem isSpace_iff {c : Char} : isSpace c = true ↔ c ∈ [' ', '\t', '\n', '\r'] := by
  simp [isSpace, or_assoc]

/-- There need not be a blank. -/
theorem spaces_nil : Spaces [] := fun _ h => absurd h List.not_mem_nil

/-- Blanks after blanks are blanks. -/
theorem Spaces.append {cs ds : List Char} (h : Spaces cs) (h' : Spaces ds) : Spaces (cs ++ ds) :=
  fun c hmem => (List.mem_append.1 hmem).elim (h c) (h' c)

/-- Blanks at the front are dropped. -/
theorem skipSpace_append {spaces : List Char} (h : Spaces spaces) (cs : List Char) :
    skipSpace (spaces ++ cs) = skipSpace cs :=
  List.dropWhile_append_of_pos fun c hmem => isSpace_iff.2 (h c hmem)

/-- Nothing is dropped before a character that is no blank. -/
theorem skipSpace_cons {c : Char} (h : isSpace c = false) (cs : List Char) :
    skipSpace (c :: cs) = c :: cs := by
  rw [skipSpace, List.dropWhile_cons, h]
  rfl

/-- Nothing but blanks at the front is dropped. -/
theorem exists_spaces (cs : List Char) : ∃ spaces, Spaces spaces ∧ cs = spaces ++ skipSpace cs := by
  refine ⟨cs.takeWhile isSpace, fun c hmem => ?_, List.takeWhile_append_dropWhile.symm⟩
  exact isSpace_iff.1 (List.mem_takeWhile_imp hmem)

/-- Everything is dropped exactly if there is nothing but blanks. -/
theorem skipSpace_eq_nil_iff {cs : List Char} : skipSpace cs = [] ↔ Spaces cs :=
  List.dropWhile_eq_nil_iff.trans (forall₂_congr fun _ _ => isSpace_iff)

/-! ### Words -/

/-- Letters are read exactly if they come first. -/
theorem readLetters_eq_ok_iff {letters left rest : List Char} :
    readLetters letters left = .ok ((), rest) ↔ left = letters ++ rest := by
  fun_induction readLetters letters left with
  | case1 left => simp
  | case2 => simp [failBefore_ne_ok]
  | case3 letter letters rest' ih => simp [ih]
  | case4 letter letters c rest' hne => simp [failAfter_ne_ok, hne]

/-! ### Hexadecimal codes -/

/-- A digit of either case has the value that it is written for. -/
theorem hexValue?_digitChar : ∀ n < 16,
    hexValue? (Nat.digitChar n) = some n ∧ hexValue? (Nat.digitChar n).toUpper = some n := by
  decide

/-- From its place in one of the three ranges a character is the digit for its value. -/
theorem hexDigit_ofNat : ∀ n < 16, (n < 10 → HexDigit (Char.ofNat (0x30 + n)) n) ∧
    (10 ≤ n → HexDigit (Char.ofNat (0x57 + n)) n ∧ HexDigit (Char.ofNat (0x37 + n)) n) := by
  decide

/-- A character has a value as a digit exactly if it is written for this value. -/
theorem hexValue?_eq_some_iff {c : Char} {n : Nat} : hexValue? c = some n ↔ HexDigit c n := by
  constructor
  · intro h
    -- The character is determined by its place in one of three ranges.
    have hc (base : Nat) (hbase : c.toNat = base + n) : c = Char.ofNat (base + n) := by
      rw [← hbase, Char.ofNat_toNat]
    have hle (a b : Char) : a ≤ b ↔ a.toNat ≤ b.toNat := Iff.rfl
    rw [hexValue?] at h
    split at h
    · next hdigit =>
      obtain ⟨hlow, hhigh⟩ := Char.isDigit_iff_toNat.1 hdigit
      have hlow : 0x30 ≤ c.toNat := hlow
      have hhigh : c.toNat ≤ 0x39 := hhigh
      have hn := Option.some.inj h
      rw [hc 0x30 (by omega)]
      exact (hexDigit_ofNat n (by omega)).1 (by omega)
    · split at h
      · next hlower =>
        simp only [Bool.and_eq_true, decide_eq_true_eq, hle] at hlower
        have hlow : 0x61 ≤ c.toNat := hlower.1
        have hhigh : c.toNat ≤ 0x66 := hlower.2
        have hn := Option.some.inj h
        rw [hc 0x57 (by omega)]
        exact ((hexDigit_ofNat n (by omega)).2 (by omega)).1
      · split at h
        · next hupper =>
          simp only [Bool.and_eq_true, decide_eq_true_eq, hle] at hupper
          have hlow : 0x41 ≤ c.toNat := hupper.1
          have hhigh : c.toNat ≤ 0x46 := hupper.2
          have hn := Option.some.inj h
          rw [hc 0x37 (by omega)]
          exact ((hexDigit_ofNat n (by omega)).2 (by omega)).2
        · cases h
  · intro h
    obtain ⟨hlt, rfl | rfl⟩ := h
    · exact (hexValue?_digitChar n hlt).1
    · exact (hexValue?_digitChar n hlt).2

/-- A hexadecimal digit is less than sixteen. -/
theorem HexDigit.lt {c : Char} {n : Nat} (h : HexDigit c n) : n < 16 := h.1

/-- Four digits write a code of sixteen bits. -/
theorem Hex4.lt {cs : List Char} {n : Nat} (h : Hex4 cs n) : n < 0x10000 := by
  obtain ⟨ha, hb, hc, hd⟩ := h
  have := ha.lt
  have := hb.lt
  have := hc.lt
  have := hd.lt
  omega

/-- Where there is no code, none is read. -/
theorem readHex4_bad_ne_ok {left : List Char} {a : Nat × List Char} :
    readHex4.bad left ≠ .ok a := by
  rw [readHex4.bad]
  split
  · exact failBefore_ne_ok
  · nofun

/-- A code is read exactly if four digits come first that write it. -/
theorem readHex4_eq_ok_iff {left rest : List Char} {n : Nat} :
    readHex4 left = .ok (n, rest) ↔ ∃ digits, Hex4 digits n ∧ left = digits ++ rest := by
  constructor
  · intro h
    unfold readHex4 at h
    split at h
    · next a b c d rest' =>
      split at h
      · next ha hb hc hd =>
        cases h
        exact ⟨[a, b, c, d], ⟨hexValue?_eq_some_iff.1 ha, hexValue?_eq_some_iff.1 hb,
          hexValue?_eq_some_iff.1 hc, hexValue?_eq_some_iff.1 hd⟩, rfl⟩
      · exact absurd h readHex4_bad_ne_ok
    · exact absurd h readHex4_bad_ne_ok
  · intro hexists
    obtain ⟨_, ⟨ha, hb, hc, hd⟩, rfl⟩ := hexists
    simp only [List.cons_append, List.nil_append, readHex4, hexValue?_eq_some_iff.2 ha,
      hexValue?_eq_some_iff.2 hb, hexValue?_eq_some_iff.2 hc, hexValue?_eq_some_iff.2 hd]

/-! ### Escapes -/

/-- The letters of escapes are those of the grammar. -/
theorem letterEscape?_eq_some_iff {letter c : Char} :
    letterEscape? letter = some c ↔ (letter, c) ∈ escapeLetters := by
  unfold letterEscape?
  split <;> simp_all [escapeLetters, eq_comm]

/-- No letter escape is taken for an escape by code. -/
theorem letterEscape?_u : letterEscape? 'u' = none := rfl

/-- The character for a valid code has this code. -/
theorem toNat_ofNat {n : Nat} (h : n.isValidChar) : (Char.ofNat n).toNat = n := by
  rw [Char.ofNat, dif_pos h]
  rfl

/-- The code of a character is never a surrogate. -/
theorem not_surrogate (c : Char) :
    isLowSurrogate c.toNat = false ∧ isHighSurrogate c.toNat = false := by
  have hvalid : c.toNat < 0xD800 ∨ 0xDFFF < c.toNat ∧ c.toNat < 0x110000 := c.valid
  simp only [isLowSurrogate, isHighSurrogate, Bool.and_eq_false_iff, decide_eq_false_iff_not]
  omega

/-- The range of second halves. -/
theorem isLowSurrogate_iff {n : Nat} : isLowSurrogate n = true ↔ 0xDC00 ≤ n ∧ n ≤ 0xDFFF := by
  simp [isLowSurrogate]

/-- The range of first halves. -/
theorem isHighSurrogate_iff {n : Nat} : isHighSurrogate n = true ↔ 0xD800 ≤ n ∧ n ≤ 0xDBFF := by
  simp [isHighSurrogate]

/-- Two halves make a character. -/
theorem isValidChar_pairPoint {high low : Nat} (hhigh : isHighSurrogate high = true)
    (hlow : isLowSurrogate low = true) : (pairPoint high low).isValidChar := by
  have := isHighSurrogate_iff.1 hhigh
  have := isLowSurrogate_iff.1 hlow
  unfold Nat.isValidChar pairPoint
  omega

/-- Where another escape by code comes first, its code is read and has to be a second half. -/
theorem readSecondHalf_cons (high : Nat) (rest : List Char) :
    readSecondHalf high ('\\' :: 'u' :: rest) = (do
      let (low, left) ← readHex4 rest
      if isLowSurrogate low then .ok (Char.ofNat (pairPoint high low), left)
      else failBefore .loneSurrogate left) := by
  rw [readSecondHalf]

/-- A second half is read exactly if an escape by code comes first whose code is one. The two halves
make the character. -/
theorem readSecondHalf_eq_ok_iff {high : Nat} (hhigh : isHighSurrogate high = true)
    {left rest : List Char} {c : Char} :
    readSecondHalf high left = .ok (c, rest) ↔ ∃ digits low, Hex4 digits low ∧
      isLowSurrogate low = true ∧ c.toNat = pairPoint high low ∧
      left = '\\' :: 'u' :: (digits ++ rest) := by
  constructor
  · intro h
    unfold readSecondHalf at h
    split at h
    · next left' =>
      obtain ⟨⟨low, after⟩, hhex, hnext⟩ := bind_eq_ok_iff.1 h
      obtain ⟨digits, hdigits, rfl⟩ := readHex4_eq_ok_iff.1 hhex
      dsimp only at hnext
      split at hnext
      · next hlow =>
        obtain ⟨rfl, rfl⟩ := Prod.mk.inj (Except.ok.inj hnext)
        exact ⟨digits, low, hdigits, hlow, toNat_ofNat (isValidChar_pairPoint hhigh hlow), rfl⟩
      · exact absurd hnext failBefore_ne_ok
    -- In all other branches there is no escape by code, or none at all.
    · exact absurd h failBefore_ne_ok
    · exact absurd h failAfter_ne_ok
    · exact absurd h failBefore_ne_ok
    · exact absurd h failAfter_ne_ok
  · intro hexists
    obtain ⟨digits, low, hdigits, hlow, hc, rfl⟩ := hexists
    rw [readSecondHalf_cons]
    refine bind_eq_ok_iff.2 ⟨(low, rest), readHex4_eq_ok_iff.2 ⟨digits, hdigits, rfl⟩, ?_⟩
    dsimp only
    rw [if_pos hlow, ← hc, Char.ofNat_toNat]

/-- An escape by code is one code, or two for a pair of surrogates. -/
theorem readCodeEscape_eq_ok_iff {left rest : List Char} {c : Char} :
    readCodeEscape left = .ok (c, rest) ↔
      ∃ written, Written ('\\' :: 'u' :: written) c ∧ left = written ++ rest := by
  constructor
  · intro h
    obtain ⟨⟨code, after⟩, hhex, hnext⟩ := bind_eq_ok_iff.1 h
    obtain ⟨digits, hdigits, rfl⟩ := readHex4_eq_ok_iff.1 hhex
    dsimp only at hnext
    split at hnext
    -- A second half without a first one before it stands for nothing.
    · exact absurd hnext failBefore_ne_ok
    -- A first half needs a second one, in an escape of its own.
    · next hnotLow =>
      split at hnext
      · next hhigh =>
        obtain ⟨second, low, hsecond, hlow, hc, rfl⟩ := (readSecondHalf_eq_ok_iff hhigh).1 hnext
        obtain ⟨hle, hge⟩ := isHighSurrogate_iff.1 hhigh
        obtain ⟨hle', hge'⟩ := isLowSurrogate_iff.1 hlow
        exact ⟨_, .pair hdigits hsecond hle hge hle' hge' hc, by simp⟩
      · next hnotHigh =>
        cases hnext
        -- Four digits without a surrogate are the code of a character.
        have hvalid : code.isValidChar := by
          have := hdigits.lt
          rw [isLowSurrogate_iff] at hnotLow
          rw [isHighSurrogate_iff] at hnotHigh
          rcases Nat.lt_or_ge code 0xD800 with hlt | hge
          · exact .inl hlt
          · exact .inr ⟨by omega, by omega⟩
        exact ⟨digits, .code (by rwa [toNat_ofNat hvalid]), rfl⟩
  · intro hexists
    obtain ⟨written, hwritten, rfl⟩ := hexists
    generalize hfull : '\\' :: 'u' :: written = full at hwritten
    cases hwritten with
    | plain => simp at hfull
    | letter hletter =>
      -- Written by a letter, the escape would have the letter u, which stands for nothing.
      simp only [List.cons.injEq] at hfull
      obtain ⟨-, rfl, -⟩ := hfull
      rw [← letterEscape?_eq_some_iff, letterEscape?_u] at hletter
      cases hletter
    | code hdigits =>
      simp only [List.cons.injEq, true_and] at hfull
      subst hfull
      -- The code of a character needs no second one, since it is no surrogate.
      obtain ⟨hnotLow, hnotHigh⟩ := not_surrogate c
      refine bind_eq_ok_iff.2 ⟨(c.toNat, rest), readHex4_eq_ok_iff.2 ⟨_, hdigits, rfl⟩, ?_⟩
      simp [hnotLow, hnotHigh]
    | pair hfirst hsecond hle hge hle' hge' hc =>
      simp only [List.cons_append, List.cons.injEq, true_and] at hfull
      subst hfull
      refine bind_eq_ok_iff.2 ⟨(_, _), readHex4_eq_ok_iff.2 ⟨_, hfirst, List.append_assoc ..⟩, ?_⟩
      have hhigh := isHighSurrogate_iff.2 ⟨hle, hge⟩
      have hlow := isLowSurrogate_iff.2 ⟨hle', hge'⟩
      dsimp only
      -- A code in the range of first halves is not in that of second halves.
      rw [if_neg (by rw [isLowSurrogate_iff]; omega), if_pos hhigh]
      exact (readSecondHalf_eq_ok_iff hhigh).2 ⟨_, _, hsecond, hlow, hc, by simp⟩

/-- An escape that is read stands for one character. -/
theorem readEscape_eq_ok_iff {left rest : List Char} {c : Char} :
    readEscape left = .ok (c, rest) ↔
      ∃ written, Written ('\\' :: written) c ∧ left = written ++ rest := by
  constructor
  · intro h
    unfold readEscape at h
    split at h
    · exact absurd h failBefore_ne_ok
    · obtain ⟨written, hwritten, rfl⟩ := readCodeEscape_eq_ok_iff.1 h
      exact ⟨'u' :: written, hwritten, rfl⟩
    · next letter _ _ =>
      split at h
      · next hletter =>
        cases h
        exact ⟨[letter], .letter (letterEscape?_eq_some_iff.1 hletter), rfl⟩
      · exact absurd h failAfter_ne_ok
  · intro hexists
    obtain ⟨written, hwritten, rfl⟩ := hexists
    cases hwritten with
    -- A character that stands for itself is no backslash.
    | plain hplain => exact absurd rfl hplain.2.2
    | letter hletter =>
      have hmeant := letterEscape?_eq_some_iff.2 hletter
      simp only [List.cons_append, List.nil_append]
      unfold readEscape
      split
      · next heq => cases heq
      · next heq =>
        cases heq
        cases hmeant
      · next heq =>
        cases heq
        rw [hmeant]
    -- The other two ways are escapes by code.
    | code hdigits => exact readCodeEscape_eq_ok_iff.2 ⟨_, .code hdigits, rfl⟩
    | pair hfirst hsecond hle hge hle' hge' hc =>
      exact readCodeEscape_eq_ok_iff.2 ⟨_, .pair hfirst hsecond hle hge hle' hge' hc, rfl⟩

/-- An escape that is passed over has the form of one. -/
theorem skipEscape_eq_ok_iff {left rest : List Char} :
    skipEscape left = .ok ((), rest) ↔
      ∃ written, LooselyWritten ('\\' :: written) ∧ left = written ++ rest := by
  constructor
  · intro h
    unfold skipEscape at h
    split at h
    · exact absurd h failBefore_ne_ok
    -- For passing over it, one code is enough, whatever it is.
    · obtain ⟨⟨code, after⟩, hhex, hnext⟩ := bind_eq_ok_iff.1 h
      obtain ⟨digits, hdigits, rfl⟩ := readHex4_eq_ok_iff.1 hhex
      cases hnext
      exact ⟨'u' :: digits, .code hdigits, rfl⟩
    · next letter _ _ =>
      split at h
      · next hletter =>
        cases h
        obtain ⟨c, hc⟩ := Option.isSome_iff_exists.1 hletter
        exact ⟨[letter], .letter (letterEscape?_eq_some_iff.1 hc), rfl⟩
      · exact absurd h failAfter_ne_ok
  · intro hexists
    obtain ⟨written, hwritten, rfl⟩ := hexists
    cases hwritten with
    | plain hplain => exact absurd rfl hplain.2.2
    | letter hletter =>
      have hmeant := letterEscape?_eq_some_iff.2 hletter
      simp only [List.cons_append, List.nil_append]
      unfold skipEscape
      split
      · next heq => cases heq
      · next heq =>
        cases heq
        cases hmeant
      · next heq =>
        cases heq
        rw [hmeant]
        rfl
    | code hdigits =>
      exact bind_eq_ok_iff.2 ⟨(_, rest), readHex4_eq_ok_iff.2 ⟨_, hdigits, rfl⟩, rfl⟩

/-! ### Strings -/

/-- The characters that may stand in a string as they are. -/
theorem isControl_eq_false_iff {c : Char} : isControl c = false ↔ 0x20 ≤ c.toNat := by
  rw [isControl, decide_eq_false_iff_not, Nat.not_lt]

/-- One written character is read for what it stands for. -/
theorem readStringFrom_written {written : List Char} {c : Char} (h : Written written c)
    (done left : List Char) :
    readStringFrom done (written ++ left) = readStringFrom (c :: done) left := by
  have hescape {after : List Char} (hafter : Written ('\\' :: after) c) :
      readStringFrom done ('\\' :: (after ++ left)) = readStringFrom (c :: done) left := by
    have hread : readEscape (after ++ left) = .ok (c, left) :=
      readEscape_eq_ok_iff.2 ⟨after, hafter, rfl⟩
    rw [readStringFrom]
    split
    · next heq => cases hread.symm.trans heq
    · next heq =>
      cases hread.symm.trans heq
      rfl
  cases h with
  | plain hplain =>
    obtain ⟨hcontrol, hquote, hslash⟩ := hplain
    rw [List.singleton_append, readStringFrom, isControl_eq_false_iff.2 hcontrol]
    · rfl
    · exact hquote
    · exact hslash
  | letter hletter => exact hescape (.letter hletter)
  | code hdigits => exact hescape (.code hdigits)
  | pair hfirst hsecond hle hge hle' hge' hc =>
    exact hescape (.pair hfirst hsecond hle hge hle' hge' hc)

/-- Reading the rest of a string succeeds exactly if written characters come first, up to a quote.
Their characters are appended to what was read before. -/
theorem readStringFrom_eq_ok_iff {done left rest : List Char} {text : String} :
    readStringFrom done left = .ok (text, rest) ↔ ∃ parts cs, List.Forall₂ Written parts cs ∧
      text = String.ofList (done.reverse ++ cs) ∧ left = parts.flatten ++ '"' :: rest := by
  constructor
  · intro h
    fun_induction readStringFrom done left with
    | case1 => exact absurd h failBefore_ne_ok
    | case2 done rest' =>
      cases h
      exact ⟨[], [], .nil, by simp, rfl⟩
    | case3 => cases h
    -- An escape was read, and the rest of the string after it.
    | case4 done left c after hread ih =>
      obtain ⟨written, hwritten, rfl⟩ := readEscape_eq_ok_iff.1 hread
      obtain ⟨parts, cs, hparts, rfl, rfl⟩ := ih h
      exact ⟨_ :: parts, c :: cs, .cons hwritten hparts, by simp, by simp⟩
    | case5 => exact absurd h failAfter_ne_ok
    -- A character that stands for itself.
    | case6 done c left hquote hslash hcontrol ih =>
      obtain ⟨parts, cs, hparts, rfl, rfl⟩ := ih h
      have hplain : IsPlain c :=
        ⟨isControl_eq_false_iff.1 (Bool.eq_false_iff.2 hcontrol), hquote, hslash⟩
      exact ⟨[c] :: parts, c :: cs, .cons (.plain hplain) hparts, by simp, by simp⟩
  · intro hexists
    obtain ⟨parts, cs, hparts, rfl, rfl⟩ := hexists
    -- The characters that were read go to `done` one by one.
    induction hparts generalizing done with
    | nil => simp [readStringFrom]
    | cons hwritten _ ih =>
      rw [List.flatten_cons, List.append_assoc, readStringFrom_written hwritten, ih]
      simp

/-- What is read as a string is one, with its text. -/
theorem readString_eq_ok_iff {left rest : List Char} {text : String} :
    readString left = .ok (text, rest) ↔ ∃ cs, StringText cs text ∧ '"' :: left = cs ++ rest := by
  rw [readString, readStringFrom_eq_ok_iff]
  constructor
  · intro hexists
    obtain ⟨parts, cs, hparts, rfl, rfl⟩ := hexists
    exact ⟨_, ⟨parts, by simpa using hparts, rfl⟩, by simp⟩
  · intro hexists
    obtain ⟨_, ⟨parts, hparts, rfl⟩, hleft⟩ := hexists
    exact ⟨parts, text.toList, hparts, by simp, by simpa using hleft⟩

/-- A string starts with a quote; its rest is read whatever follows. -/
theorem StringText.exists_tail {cs : List Char} {text : String} (h : StringText cs text) :
    ∃ tail, cs = '"' :: tail ∧ ∀ rest, readString (tail ++ rest) = .ok (text, rest) := by
  obtain ⟨parts, hparts, rfl⟩ := h
  exact ⟨_, rfl, fun rest => readString_eq_ok_iff.2 ⟨_, ⟨parts, hparts, rfl⟩, rfl⟩⟩

/-- One written character is passed over. -/
theorem skipString_written {written : List Char} (h : LooselyWritten written) (left : List Char) :
    skipString (written ++ left) = skipString left := by
  have hescape {after : List Char} (hafter : LooselyWritten ('\\' :: after)) :
      skipString ('\\' :: (after ++ left)) = skipString left := by
    have hskip : skipEscape (after ++ left) = .ok ((), left) :=
      skipEscape_eq_ok_iff.2 ⟨after, hafter, rfl⟩
    rw [skipString]
    split
    · next heq => cases hskip.symm.trans heq
    · next heq =>
      cases hskip.symm.trans heq
      rfl
  cases h with
  | plain hplain =>
    obtain ⟨hcontrol, hquote, hslash⟩ := hplain
    rw [List.singleton_append, skipString, isControl_eq_false_iff.2 hcontrol]
    · rfl
    · exact hquote
    · exact hslash
  | letter hletter => exact hescape (.letter hletter)
  | code hdigits => exact hescape (.code hdigits)

/-- What is passed over as a string has the form of one. -/
theorem skipString_eq_ok_iff {left rest : List Char} :
    skipString left = .ok ((), rest) ↔ ∃ cs, LooseStringText cs ∧ '"' :: left = cs ++ rest := by
  constructor
  · intro h
    suffices hparts : ∃ parts : List (List Char), (∀ part ∈ parts, LooselyWritten part) ∧
        left = parts.flatten ++ '"' :: rest by
      obtain ⟨parts, hparts, rfl⟩ := hparts
      exact ⟨_, ⟨parts, hparts, rfl⟩, by simp⟩
    fun_induction skipString left with
    | case1 => exact absurd h failBefore_ne_ok
    | case2 rest' =>
      cases h
      exact ⟨[], by simp, rfl⟩
    | case3 => cases h
    | case4 left _ after hskip ih =>
      obtain ⟨written, hwritten, rfl⟩ := skipEscape_eq_ok_iff.1 hskip
      obtain ⟨parts, hparts, rfl⟩ := ih h
      exact ⟨_ :: parts, List.forall_mem_cons.2 ⟨hwritten, hparts⟩, by simp⟩
    | case5 => exact absurd h failBefore_ne_ok
    | case6 c left hquote hslash hcontrol ih =>
      obtain ⟨parts, hparts, rfl⟩ := ih h
      have hplain : IsPlain c :=
        ⟨isControl_eq_false_iff.1 (Bool.eq_false_iff.2 hcontrol), hquote, hslash⟩
      exact ⟨[c] :: parts, List.forall_mem_cons.2 ⟨.plain hplain, hparts⟩, by simp⟩
  · intro hexists
    obtain ⟨_, ⟨parts, hparts, rfl⟩, hleft⟩ := hexists
    -- Only the parts matter from here on, so the induction is over them.
    obtain rfl : left = parts.flatten ++ '"' :: rest := by simpa using hleft
    clear hleft
    induction parts with
    | nil => simp [skipString]
    | cons part parts ih =>
      obtain ⟨hpart, hparts⟩ := List.forall_mem_cons.1 hparts
      rw [List.flatten_cons, List.append_assoc, skipString_written hpart, ih hparts]

/-- A string that is passed over starts with a quote too; its rest is passed over whatever
follows. -/
theorem LooseStringText.exists_tail {cs : List Char} (h : LooseStringText cs) :
    ∃ tail, cs = '"' :: tail ∧ ∀ rest, skipString (tail ++ rest) = .ok ((), rest) := by
  obtain ⟨parts, hparts, rfl⟩ := h
  exact ⟨_, rfl, fun rest => skipString_eq_ok_iff.2 ⟨_, ⟨parts, hparts, rfl⟩, rfl⟩⟩

end DonationSite.Json
