import DonationSite.Json.Failure
import DonationSite.Proofs.Text.Percent

/-!
# Texts that agree on their first bytes

Two texts agree on a number of bytes if these are made of the same characters, apart from the last
one: where the number of bytes ends inside of a character, the characters that stand there may
differ, but neither is ASCII.

## Key results

- `Agree.of_take_eq`: texts with the same bytes at the front agree on them
- `Agree.exists_of_append`: what stands at the front of one text stands at the front of the other
-/

namespace DonationSite.Json

/-! ### The bytes of a text -/

/-- The empty text has no bytes. -/
theorem byteLength_nil : byteLength [] = 0 := rfl

/-- The bytes of a text are those of its first character and those of the rest. -/
theorem byteLength_cons (c : Char) (cs : List Char) :
    byteLength (c :: cs) = c.utf8Size + byteLength cs := by
  -- The fold is turned into a sum once it starts anywhere.
  have hfold (cs : List Char) (n : Nat) :
      cs.foldl (fun n c => n + c.utf8Size) n = n + byteLength cs := by
    induction cs generalizing n with
    | nil => rfl
    | cons c cs ih =>
      rw [byteLength, List.foldl_cons, List.foldl_cons, ih, ih (0 + c.utf8Size)]
      omega
  rw [byteLength, List.foldl_cons, hfold]
  omega

/-- Of two texts one after the other the bytes add up. -/
theorem byteLength_append (cs ds : List Char) :
    byteLength (cs ++ ds) = byteLength cs + byteLength ds := by
  induction cs with
  | nil => simp [byteLength_nil]
  | cons c cs ih =>
    rw [List.cons_append, byteLength_cons, byteLength_cons, ih]
    omega

/-- The UTF-8 form of a text is as long as its number of bytes. -/
theorem length_flatMap_utf8EncodeChar (cs : List Char) :
    (cs.flatMap String.utf8EncodeChar).length = byteLength cs := by
  induction cs with
  | nil => rfl
  | cons c cs ih =>
    rw [List.flatMap_cons, List.length_append, ih, byteLength_cons, String.length_utf8EncodeChar]

/-- An ASCII character is one byte. -/
theorem utf8Size_eq_one {c : Char} (h : c.toNat < 128) : c.utf8Size = 1 :=
  Char.utf8Size_eq_one_iff.2 (UInt32.le_iff_toNat_le.2 (Nat.le_of_lt_succ h))

/-- A character of more than one byte is not ASCII. -/
theorem not_ascii_of_lt_utf8Size {c : Char} (h : 1 < c.utf8Size) : 128 ≤ c.toNat := by
  rcases Nat.lt_or_ge c.toNat 128 with hlt | hge
  · have := utf8Size_eq_one hlt
    omega
  · exact hge

/-- The bytes of a character tell where it ends. -/
theorem eq_of_utf8EncodeChar_prefix {c d : Char} {bytes : List UInt8}
    (h : String.utf8EncodeChar c <+: String.utf8EncodeChar d ++ bytes) : c = d := by
  obtain ⟨rest, hrest⟩ := h
  -- Decoding looks at the front only, and finds either character there.
  have hdecode (c : Char) (rest : List UInt8) :
      ((String.utf8EncodeChar c ++ rest).toByteArray).utf8DecodeChar? 0 = some c := by
    rw [List.toByteArray_append]
    exact ByteArray.utf8DecodeChar?_utf8EncodeChar_append
  exact Option.some.inj ((hdecode c rest).symm.trans (hrest ▸ hdecode d bytes))

/-- A character that ends within bytes that agree is the first one on the other side too. -/
theorem eq_of_take_eq {c d : Char} {bytes bytes' : List UInt8} {n : Nat} (hsize : c.utf8Size ≤ n)
    (h : (String.utf8EncodeChar c ++ bytes).take n = (String.utf8EncodeChar d ++ bytes').take n) :
    c = d := by
  have htake : String.utf8EncodeChar c <+: (String.utf8EncodeChar c ++ bytes).take n :=
    List.prefix_take_iff.2 ⟨List.prefix_append _ _, by rwa [String.length_utf8EncodeChar]⟩
  rw [h] at htake
  exact eq_of_utf8EncodeChar_prefix (List.prefix_take_iff.1 htake).1

/-! ### Agreement -/

/-- The first `n` bytes of two texts are the same. -/
inductive Agree : Nat → List Char → List Char → Prop where
  | nothing (cs ds : List Char) : Agree 0 cs ds
  | cons (c : Char) {n : Nat} {cs ds : List Char} : Agree n cs ds →
    Agree (c.utf8Size + n) (c :: cs) (c :: ds)
  | cut {n : Nat} {c d : Char} {cs ds : List Char} : 128 ≤ c.toNat → 128 ≤ d.toNat →
    n < c.utf8Size → n < d.utf8Size → Agree n (c :: cs) (d :: ds)

/-- Agreement goes both ways. -/
theorem Agree.symm {n : Nat} {cs ds : List Char} (h : Agree n cs ds) : Agree n ds cs := by
  induction h with
  | nothing cs ds => exact .nothing ds cs
  | cons c _ ih => exact .cons c ih
  | cut hc hd hlt hlt' => exact .cut hd hc hlt' hlt

/-- Texts agree on no more bytes than there are. -/
theorem Agree.le_byteLength {n : Nat} {cs ds : List Char} (h : Agree n cs ds) :
    n ≤ byteLength cs := by
  induction h with
  | nothing => exact Nat.zero_le _
  | cons c _ ih =>
    rw [byteLength_cons]
    omega
  | cut _ _ hlt _ =>
    rw [byteLength_cons]
    omega

/-- What stands at the front of one text stands at the front of the other. -/
theorem Agree.exists_of_append {n : Nat} {front cs ds : List Char} (h : Agree n (front ++ cs) ds)
    (hle : byteLength front ≤ n) :
    ∃ m ds', n = byteLength front + m ∧ ds = front ++ ds' ∧ Agree m cs ds' := by
  induction front generalizing n ds with
  | nil => exact ⟨n, ds, (Nat.zero_add n).symm, rfl, h⟩
  | cons c front ih =>
    rw [byteLength_cons] at hle ⊢
    have := c.utf8Size_pos
    cases h with
    -- What is left of the front has bytes, so there is something to agree on.
    | nothing => omega
    | cons _ h =>
      obtain ⟨m, ds', rfl, rfl, hrest⟩ := ih h (by omega)
      exact ⟨m, ds', by omega, rfl, hrest⟩
    | cut _ _ hlt _ => omega

/-- Texts with the same bytes at the front agree on them. -/
theorem Agree.of_take_eq {n : Nat} {cs ds : List Char} (hle : n ≤ byteLength cs)
    (h : (cs.flatMap String.utf8EncodeChar).take n = (ds.flatMap String.utf8EncodeChar).take n) :
    Agree n cs ds := by
  induction cs generalizing n ds with
  | nil =>
    obtain rfl : n = 0 := Nat.le_zero.1 hle
    exact .nothing [] ds
  | cons c cs ih =>
    -- As many bytes stand on the other side, so there is a character too.
    have hle' : n ≤ byteLength ds := by
      have hlength := congrArg List.length h
      rw [List.length_take, List.length_take, length_flatMap_utf8EncodeChar,
        length_flatMap_utf8EncodeChar] at hlength
      omega
    match n, ds with
    | 0, ds => exact .nothing (c :: cs) ds
    | n + 1, d :: ds =>
      rw [List.flatMap_cons, List.flatMap_cons] at h
      rcases Nat.lt_or_ge (n + 1) c.utf8Size with hlt | hge
      · have hlt' : n + 1 < d.utf8Size := by
          -- A shorter character would end within the same bytes, so it would be the same one.
          refine Nat.lt_of_not_le fun hle => ?_
          obtain rfl := eq_of_take_eq hle h.symm
          omega
        exact .cut (not_ascii_of_lt_utf8Size (by omega)) (not_ascii_of_lt_utf8Size (by omega)) hlt
          hlt'
      -- The character ends within the bytes that agree, so it stands on both sides.
      · obtain rfl := eq_of_take_eq hge h
        obtain ⟨m, hm⟩ := Nat.exists_eq_add_of_le hge
        rw [byteLength_cons] at hle
        rw [hm, ← String.length_utf8EncodeChar, List.take_length_add_append,
          List.take_length_add_append] at h
        rw [hm]
        exact .cons c (ih (by omega) (List.append_cancel_left h))

end DonationSite.Json
