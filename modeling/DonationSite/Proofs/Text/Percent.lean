import DonationSite.Text.Percent

/-!
# Percent encoding and back

A percent-encoded text holds no characters but ASCII letters and digits and `-`, `_`, `.`, `~`, `%`,
and decoding it gives the text back. It has no plus sign, so that it makes no difference whether a
plus sign is read as a space before decoding.

## Key results

- `isEncoded_of_mem_encode`: the characters of a percent-encoded text
- `decode?_encode`: decoding undoes encoding
-/

namespace DonationSite.Text.Percent

/-! ### Texts and their UTF-8 forms -/

/-- The bytes of a text are those of its characters one after the other. -/
theorem bytesOf_ofList (cs : List Char) :
    bytesOf (String.ofList cs) = cs.flatMap String.utf8EncodeChar := by
  show (cs.flatMap String.utf8EncodeChar).toByteArray.data.toList = _
  simp

/-- A text is read back from its bytes. -/
theorem ofBytes?_bytesOf (s : String) : ofBytes? (bytesOf s) = some s := by
  have hbytes : (⟨(bytesOf s).toArray⟩ : ByteArray) = s.toByteArray := by
    simp [bytesOf, String.toUTF8]
  rw [ofBytes?, hbytes, String.fromUTF8?, dif_pos s.isValidUTF8]
  rfl

/-- The UTF-8 form of an ASCII character is its code point. -/
theorem utf8EncodeChar_ascii {c : Char} (h : c.toNat < 128) :
    String.utf8EncodeChar c = [UInt8.ofNat c.toNat] := by
  have hle : c.val.toNat ≤ 127 := Nat.le_of_lt_succ h
  rw [String.utf8EncodeChar]
  exact if_pos hle

/-! ### One byte -/

/-- Whether a character can stand in a percent-encoded text. -/
def isEncoded (c : Char) : Bool :=
  c.isAlphanum || c ∈ ['-', '_', '.', '~', '%']

/-- A byte taken as a code point keeps its value. -/
theorem toNat_ofByte (b : UInt8) : (Char.ofNat b.toNat).toNat = b.toNat := by
  have hvalid : b.toNat.isValidChar := .inl (Nat.lt_trans b.toNat_lt (by decide))
  rw [Char.ofNat, dif_pos hvalid]
  rfl

/-- A byte that is written as it stands is an ASCII letter or digit or one of four marks. -/
theorem isKept_iff (b : UInt8) : isKept b = true ↔
    (48 ≤ b.toNat ∧ b.toNat ≤ 57) ∨ (65 ≤ b.toNat ∧ b.toNat ≤ 90) ∨
      (97 ≤ b.toNat ∧ b.toNat ≤ 122) ∨ b.toNat = 45 ∨ b.toNat = 95 ∨ b.toNat = 46 ∨
      b.toNat = 126 := by
  simp only [isKept, Bool.or_eq_true, Bool.and_eq_true, decide_eq_true_eq, beq_iff_eq,
    UInt8.le_iff_toNat_le, ← UInt8.toNat_inj, or_assoc]
  rfl

/-- The ASCII letters and digits by their code points. -/
theorem isAlphanum_iff (c : Char) : c.isAlphanum = true ↔
    (48 ≤ c.toNat ∧ c.toNat ≤ 57) ∨ (65 ≤ c.toNat ∧ c.toNat ≤ 90) ∨
      (97 ≤ c.toNat ∧ c.toNat ≤ 122) := by
  have hcode : c.isAlphanum = (decide ('A'.val ≤ c.val ∧ c.val ≤ 'Z'.val) ||
      (decide ('a'.val ≤ c.val) && decide (c.val ≤ 'z'.val)) ||
      (decide ('0'.val ≤ c.val) && decide (c.val ≤ '9'.val))) := rfl
  rw [hcode, or_comm]
  simp only [Bool.or_eq_true, Bool.and_eq_true, decide_eq_true_eq, UInt32.le_iff_toNat_le]
  rfl

/-- A byte that is written as it stands is written as a character that encoded texts may hold. -/
theorem isEncoded_keptChar {b : UInt8} (h : isKept b = true) :
    isEncoded (Char.ofNat b.toNat) = true := by
  rw [isEncoded, Bool.or_eq_true, isAlphanum_iff, toNat_ofByte]
  rcases (isKept_iff b).1 h with hdigit | hupper | hlower | hmark
  · exact .inl (.inl hdigit)
  · exact .inl (.inr (.inl hupper))
  · exact .inl (.inr (.inr hlower))
  · right
    rcases hmark with hmark | hmark | hmark | hmark <;> rw [hmark] <;> rfl

/-- A digit is ASCII, can stand in an encoded text and has the value that it was made of. -/
theorem hexDigit_spec : ∀ n < 16, (hexDigit n).toNat < 128 ∧ isEncoded (hexDigit n) = true ∧
    hexValue? (UInt8.ofNat (hexDigit n).toNat) = some (UInt8.ofNat n) := by
  decide

/-- An encoded byte is the UTF-8 form of what it is written as. -/
theorem flatMap_encodeByte (b : UInt8) : (encodeByte b).flatMap String.utf8EncodeChar =
    if isKept b then [b]
    else [0x25, UInt8.ofNat (hexDigit (b.toNat / 16)).toNat,
      UInt8.ofNat (hexDigit (b.toNat % 16)).toNat] := by
  have hlt := b.toNat_lt
  by_cases hkept : isKept b = true
  -- A byte that is kept is ASCII, so its character is the same byte again.
  · have hascii : (Char.ofNat b.toNat).toNat < 128 := by
      rw [toNat_ofByte]
      have := (isKept_iff b).1 hkept
      omega
    rw [encodeByte, if_pos hkept, if_pos hkept, List.flatMap_cons, utf8EncodeChar_ascii hascii,
      toNat_ofByte]
    simp
  · have hhigh := (hexDigit_spec (b.toNat / 16) (by omega)).1
    have hlow := (hexDigit_spec (b.toNat % 16) (by omega)).1
    rw [encodeByte, if_neg hkept, if_neg hkept]
    simp only [List.flatMap_cons, utf8EncodeChar_ascii hhigh, utf8EncodeChar_ascii hlow]
    rfl

/-- A byte that is not a percent sign stands for itself. -/
theorem decodeBytes_cons_of_ne {b : UInt8} (hb : b ≠ 0x25) (rest : List UInt8) :
    decodeBytes (b :: rest) = b :: decodeBytes rest := by
  rw [decodeBytes]
  intro _ _ _ heq
  exact absurd heq hb

/-- Whatever follows it, an encoded byte is decoded to that byte. -/
theorem decodeBytes_encodeByte (b : UInt8) (rest : List UInt8) :
    decodeBytes ((encodeByte b).flatMap String.utf8EncodeChar ++ rest) = b :: decodeBytes rest := by
  have hlt := b.toNat_lt
  rw [flatMap_encodeByte]
  by_cases hkept : isKept b = true
  -- The percent sign is no byte that is kept, so decoding does not take it for an escape.
  · rw [if_pos hkept]
    refine decodeBytes_cons_of_ne ?_ rest
    rintro rfl
    exact absurd hkept (by decide)
  · have hhigh := (hexDigit_spec (b.toNat / 16) (by omega)).2.2
    have hlow := (hexDigit_spec (b.toNat % 16) (by omega)).2.2
    -- The two digits put together are the byte.
    have hvalue : (16 * UInt8.ofNat (b.toNat / 16) + UInt8.ofNat (b.toNat % 16)) = b := by
      rw [← UInt8.toNat_inj]
      simp
      omega
    rw [if_neg hkept]
    show decodeBytes (0x25 :: _ :: _ :: rest) = _
    rw [decodeBytes, hhigh, hlow]
    dsimp only
    rw [hvalue]

/-! ### Texts -/

/-- The characters of an encoded text are ASCII letters and digits and five marks. -/
theorem isEncoded_of_mem_encode {s : String} {c : Char} (h : c ∈ (encode s).toList) :
    isEncoded c = true := by
  rw [encode, String.toList_ofList] at h
  obtain ⟨b, -, hc⟩ := List.mem_flatMap.1 h
  have hlt := b.toNat_lt
  rw [encodeByte] at hc
  -- Either the byte itself is written, or a percent sign and two digits.
  split at hc
  · next hkept =>
    rw [List.mem_singleton.1 hc]
    exact isEncoded_keptChar hkept
  · have hhigh := (hexDigit_spec (b.toNat / 16) (by omega)).2.1
    have hlow := (hexDigit_spec (b.toNat % 16) (by omega)).2.1
    simp only [List.mem_cons, List.not_mem_nil, or_false] at hc
    rcases hc with rfl | rfl | rfl
    · rfl
    · exact hhigh
    · exact hlow

/-- Decoding the bytes of an encoded text gives back the bytes it was made of. -/
theorem decodeBytes_encode (bytes : List UInt8) :
    decodeBytes ((bytes.flatMap encodeByte).flatMap String.utf8EncodeChar) = bytes := by
  induction bytes with
  | nil => rfl
  | cons b bytes ih =>
    rw [List.flatMap_cons, List.flatMap_append, decodeBytes_encodeByte, ih]

/-- Decoding undoes encoding. -/
theorem decode?_encode (s : String) : decode? (encode s) = some s := by
  rw [decode?, encode, bytesOf_ofList, decodeBytes_encode, ofBytes?_bytesOf]

end DonationSite.Text.Percent
