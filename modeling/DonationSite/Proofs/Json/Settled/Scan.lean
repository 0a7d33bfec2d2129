import DonationSite.Proofs.Json.Scan
import DonationSite.Proofs.Json.Settled.Basic

/-!
# Words and strings are settled where they end

A word fails at its first wrong letter. A string ends with its quote, and an escape after its letter
or its digits; four bytes that are no code are read before they are refused.

## Key results

- `readLetters_settles`, `readString_settles`, `skipString_settles`
-/

namespace DonationSite.Json

/-- A word is settled at its last letter, or at the first that is wrong. -/
theorem readLetters_settles (letters : List Char) (ascii : ∀ c ∈ letters, c.toNat < 128) :
    Settles (readLetters letters) := by
  induction letters with
  | nil => exact .ok ()
  | cons letter letters ih =>
    obtain ⟨hletter, hletters⟩ := List.forall_mem_cons.1 ascii
    apply Settles.of_marks (· = letter) (g := failAfter .noWord)
    case ascii => exact fun _ hc => hc ▸ hletter
    case nil => exact .failBefore_nil _
    case mark =>
      rintro m left left' c rfl h
      rw [readLetters, readLetters, if_pos rfl, if_pos rfl]
      exact (ih hletters h).cons c
    case rest => exact .failAfter rfl
    case other =>
      intro c left hc
      exact if_neg hc

/-! ### Codes -/

/-- The hexadecimal digits are ASCII in either case. -/
theorem ascii_digitChar : ∀ n < 16,
    (Nat.digitChar n).toNat < 128 ∧ (Nat.digitChar n).toUpper.toNat < 128 := by
  decide

/-- A code of four digits is four bytes. -/
theorem byteLength_hex4 {digits : List Char} {n : Nat} (h : Hex4 digits n) :
    byteLength digits = 4 := by
  have hsize {c : Char} {n : Nat} (h : HexDigit c n) : c.utf8Size = 1 := by
    obtain ⟨hlt, rfl | rfl⟩ := h
    · exact utf8Size_eq_one (ascii_digitChar n hlt).1
    · exact utf8Size_eq_one (ascii_digitChar n hlt).2
  obtain ⟨ha, hb, hc, hd⟩ := h
  simp only [byteLength_cons, byteLength_nil, hsize ha, hsize hb, hsize hc, hsize hd]

/-- What is no code is refused after four bytes, or at the end of the text if it has fewer. -/
theorem readHex4_eq_error {left : List Char} {failure : Failure}
    (h : readHex4 left = .error failure) :
    byteLength left < 4 ∧ failure = ⟨.unfinishedString, 0⟩ ∨
      4 ≤ byteLength left ∧ failure = ⟨.invalidEscape, byteLength left - 4⟩ := by
  -- However the digits fail, the failure is the same.
  have hbad : readHex4.bad left = .error failure := by
    unfold readHex4 at h
    split at h
    · split at h
      · cases h
      · exact h
    · exact h
  unfold readHex4.bad at hbad
  split at hbad
  · next hlt =>
    cases hbad
    exact .inl ⟨hlt, rfl⟩
  · next hge =>
    cases hbad
    exact .inr ⟨Nat.le_of_not_lt hge, rfl⟩

/-- Reading a code takes four bytes. -/
theorem byteLength_of_readHex4 {left after : List Char} {code : Nat}
    (h : readHex4 left = .ok (code, after)) : byteLength left = 4 + byteLength after := by
  obtain ⟨digits, hdigits, rfl⟩ := readHex4_eq_ok_iff.1 h
  rw [byteLength_append, byteLength_hex4 hdigits]

/-- A code within the bytes that agree is there on the other side too. -/
theorem readHex4_eq_ok_of_agree {n code : Nat} {cs ds left : List Char} (h : Agree n cs ds)
    (hread : readHex4 cs = .ok (code, left)) (hn : 4 ≤ n) :
    ∃ m left', n = 4 + m ∧ readHex4 ds = .ok (code, left') ∧ Agree m left left' := by
  obtain ⟨digits, hdigits, rfl⟩ := readHex4_eq_ok_iff.1 hread
  have hlength := byteLength_hex4 hdigits
  obtain ⟨m, left', hm, rfl, hagree⟩ := h.exists_of_append (by rwa [hlength])
  rw [hlength] at hm
  exact ⟨m, left', hm, readHex4_eq_ok_iff.2 ⟨digits, hdigits, rfl⟩, hagree⟩

/-- Reading a code is settled, also where four bytes are none. -/
theorem readHex4_settles : Settles readHex4 := by
  intro n cs ds h
  match hread : readHex4 cs with
  | .ok (code, left) =>
    have hlength := byteLength_of_readHex4 hread
    refine ⟨by rw [hlength]; exact Nat.le_add_left _ _, nofun, fun hlt => ?_⟩
    have hlt : byteLength cs < byteLength left + n := hlt
    -- The code ends within the bytes that agree.
    obtain ⟨m, left', hm, hread', hagree⟩ := readHex4_eq_ok_of_agree h hread (by omega)
    rw [hread']
    exact .ok code hm hlength (byteLength_of_readHex4 hread') hagree
  | .error failure =>
    have hle := h.le_byteLength
    have hle' := h.symm.le_byteLength
    obtain ⟨hshort, rfl⟩ | ⟨hlong, rfl⟩ := readHex4_eq_error hread
    · refine ⟨Nat.zero_le _, ?_, fun hlt => ?_⟩
      · rintro _ ⟨⟩ -
        rfl
      -- A failure at the end of the text is behind everything that agrees.
      · have hlt : byteLength cs < 0 + n := hlt
        omega
    · refine ⟨Nat.sub_le _ _, ?_, fun hlt => ?_⟩
      · rintro _ ⟨⟩ ⟨⟩
      · have hlt : byteLength cs < byteLength cs - 4 + n := hlt
        -- Were there a code on the other side, it would be here too.
        match hread' : readHex4 ds with
        | .ok (code, left') =>
          obtain ⟨_, _, -, hok, -⟩ := readHex4_eq_ok_of_agree h.symm hread' (by omega)
          cases hread.symm.trans hok
        | .error failure =>
          obtain ⟨hshort, rfl⟩ | ⟨hlong', rfl⟩ := readHex4_eq_error hread'
          · omega
          · exact .error .invalidEscape (k := 4) (by omega) (by omega)

/-! ### Escapes -/

/-- Without a second escape, the place is behind the byte that follows the backslash. -/
theorem readSecondHalf_settles (high : Nat) : Settles (readSecondHalf high) := by
  -- After the backslash there must be a `u`, then a code that is a second half.
  have hescape : Settles fun left => readSecondHalf high ('\\' :: left) := by
    apply Settles.of_marks (· = 'u') (g := failAfter .halfPair) (by simp)
    case nil => exact .failBefore_nil _
    case mark =>
      rintro m left left' _ rfl h
      refine .cons 'u' ((readHex4_settles h).bind fun _ h => ?_)
      dsimp only
      split
      · exact .ok _ h
      · exact .failBefore rfl h
    case rest => exact .failAfter rfl
    case other =>
      intro c left hc
      simp [readSecondHalf, hc]
  apply Settles.of_marks (· = '\\') (g := failAfter .halfPair) (by simp)
  case nil => exact .failBefore_nil _
  case mark =>
    rintro m left left' _ rfl h
    exact (hescape h).cons '\\'
  case rest => exact .failAfter rfl
  case other =>
    intro c left hc
    simp [readSecondHalf, hc]

/-- An escape by code is settled, be it for one code or for a pair of them. -/
theorem readCodeEscape_settles : Settles readCodeEscape := by
  intro n cs ds h
  refine (readHex4_settles h).bind fun _ h => ?_
  dsimp only
  split
  · exact .failBefore rfl h
  · split
    · exact readSecondHalf_settles _ h
    · exact .ok _ h

/-- The characters that an escape may start with are ASCII. -/
theorem ascii_of_escape (c : Char) (h : c = 'u' ∨ (letterEscape? c).isSome = true) :
    c.toNat < 128 := by
  obtain rfl | hletter := h
  · decide
  · unfold letterEscape? at hletter
    split at hletter <;> first | decide | cases hletter

/-- Reading an escape is settled at its letter or at its last digit. -/
theorem readEscape_settles : Settles readEscape := by
  apply Settles.of_marks _ (g := failAfter .invalidEscape) ascii_of_escape
  case nil => exact .failBefore_nil _
  case mark =>
    intro m left left' c hc h
    by_cases hu : c = 'u'
    · subst hu
      exact (readCodeEscape_settles h).cons 'u'
    -- An escape by a letter ends with it.
    · obtain ⟨meant, hmeant⟩ := Option.isSome_iff_exists.1 (hc.resolve_left hu)
      simp only [readEscape, hmeant]
      exact (Settled.ok meant h).cons c
  case rest => exact .failAfter rfl
  case other =>
    intro c left hc
    obtain ⟨hu, hletter⟩ := not_or.1 hc
    simp [readEscape, Option.not_isSome_iff_eq_none.1 hletter]

/-- Passing over an escape is settled at its letter or at its last digit. -/
theorem skipEscape_settles : Settles skipEscape := by
  apply Settles.of_marks _ (g := failAfter .invalidEscape) ascii_of_escape
  case nil => exact .failBefore_nil _
  case mark =>
    intro m left left' c hc h
    by_cases hu : c = 'u'
    · subst hu
      exact (Settles.map readHex4_settles (fun _ => ()) h).cons 'u'
    · simp only [skipEscape, hc.resolve_left hu, if_true]
      exact (Settled.ok () h).cons c
  case rest => exact .failAfter rfl
  case other =>
    intro c left hc
    obtain ⟨hu, hletter⟩ := not_or.1 hc
    simp [skipEscape, hletter]

/-! ### Strings -/

/-- The characters that do not stand in a string for themselves are ASCII. -/
theorem ascii_of_not_plain (c : Char) (h : ¬ IsPlain c) : c.toNat < 128 := by
  refine Nat.lt_of_not_le fun hle => h ⟨by omega, ?_, ?_⟩
  · rintro rfl
    exact absurd hle (by decide)
  · rintro rfl
    exact absurd hle (by decide)

/-- In a string an escape is read, then the rest of the string. -/
theorem readStringFrom_escape (done left : List Char) :
    readStringFrom done ('\\' :: left) =
      readEscape left >>= fun (c, after) => readStringFrom (c :: done) after := by
  rw [readStringFrom]
  split
  · next heq => rw [heq]; rfl
  · next heq => rw [heq]; rfl

/-- In a string an escape is passed over, then the rest of the string. -/
theorem skipString_escape (left : List Char) :
    skipString ('\\' :: left) = skipEscape left >>= fun (_, after) => skipString after := by
  rw [skipString]
  split
  · next heq => rw [heq]; rfl
  · next heq => rw [heq]; rfl

/-- A character that is not plain, and neither the quote nor the backslash, is a control
character. -/
theorem isControl_of_not_plain {c : Char} (h : ¬ IsPlain c) (hquote : c ≠ '"') (hslash : c ≠ '\\') :
    isControl c = true := by
  rw [← Bool.not_eq_false, isControl_eq_false_iff]
  exact fun hle => h ⟨hle, hquote, hslash⟩

/-- Reading a string is settled at its quote, whatever was read before. -/
theorem readStringFrom_settles (done : List Char) : Settles (readStringFrom done) := by
  intro n cs ds h
  -- An escape may take several characters, so the induction is on the length.
  induction hlength : cs.length using Nat.strongRecOn generalizing n done cs ds with
  | _ length ih =>
    subst hlength
    apply h.settled (f := readStringFrom done) _ ascii_of_not_plain
    case nil =>
      rw [readStringFrom]
      exact .failBefore_nil _
    case mark =>
      intro m left left' c hc hlt h
      by_cases hquote : c = '"'
      · subst hquote
        rw [readStringFrom, readStringFrom]
        exact (Settled.ok _ h).cons '"'
      · by_cases hslash : c = '\\'
        · subst hslash
          rw [readStringFrom_escape, readStringFrom_escape]
          refine ((readEscape_settles h).bind fun hread h => ?_).cons '\\'
          have := readEscape_reads _ _ _ hread
          -- What is left after an escape is shorter, which the induction needs.
          exact ih _ (by omega) _ h rfl
        · have hcontrol := isControl_of_not_plain hc hquote hslash
          rw [readStringFrom, readStringFrom, if_pos hcontrol, if_pos hcontrol]
          · exact .failAfter rfl (.cons c h)
          all_goals assumption
    case other =>
      -- Plain characters may differ where the agreement ends inside of them, so the lemma for any
      -- first character is used.
      intro m left left' c d hc hd hlt h
      have hplain {c : Char} (hc : ¬ ¬ IsPlain c) (left : List Char) :
          readStringFrom done (c :: left) = readStringFrom (c :: done) left :=
        readStringFrom_written (.plain (Classical.not_not.1 hc)) done left
      rw [hplain hc, hplain hd]
      exact h.settled_over (f := fun c => readStringFrom (c :: done)) fun h => ih _ hlt _ h rfl

/-- Reading a string is settled at its quote. -/
theorem readString_settles : Settles readString := readStringFrom_settles []

/-- Passing over a string is settled at its quote. -/
theorem skipString_settles : Settles skipString := by
  intro n cs ds h
  -- As for reading, the induction is on the length.
  induction hlength : cs.length using Nat.strongRecOn generalizing n cs ds with
  | _ length ih =>
    subst hlength
    apply h.settled (f := skipString) _ ascii_of_not_plain
    case nil =>
      rw [skipString]
      exact .failBefore_nil _
    case mark =>
      intro m left left' c hc hlt h
      by_cases hquote : c = '"'
      · subst hquote
        rw [skipString, skipString]
        exact (Settled.ok () h).cons '"'
      · by_cases hslash : c = '\\'
        · subst hslash
          rw [skipString_escape, skipString_escape]
          refine ((skipEscape_settles h).bind fun hread h => ?_).cons '\\'
          have := skipEscape_reads _ _ _ hread
          exact ih _ (by omega) h rfl
        · have hcontrol := isControl_of_not_plain hc hquote hslash
          rw [skipString, skipString, if_pos hcontrol, if_pos hcontrol]
          · exact .failBefore rfl (.cons c h)
          all_goals assumption
    case other =>
      intro m left left' c d hc hd hlt h
      have hplain {c : Char} (hc : ¬ ¬ IsPlain c) (left : List Char) :
          skipString (c :: left) = skipString left :=
        skipString_written (.plain (Classical.not_not.1 hc)) left
      rw [hplain hc, hplain hd]
      exact h.settled_over (f := fun _ => skipString) fun h => ih _ hlt h rfl

end DonationSite.Json
