import DonationSite.Json.Location
import DonationSite.Proofs.Json.Agree

/-!
# What a location stands for

A line and a column stand for a place among the bytes of a text: the line counts the newlines before
it, and the column the bytes since the last of them. No two places in a text have the same location.

## Key results

- `StandsFor.unique`: a location stands for one place only
- `ofOffset_standsFor`: the location of an offset stands for it
-/

namespace DonationSite.Json

/-- A location stands for the place before the byte with a certain index. -/
structure Location.StandsFor (here : Location) (bytes : List UInt8) (i : Nat) : Prop where
  le_length : i ≤ bytes.length
  line : here.line = (bytes.take i).count 0x0A + 1
  column : here.column = ((bytes.take i).reverse.takeWhile (· != 0x0A)).length

/-- The location after one more byte. -/
def Location.next (here : Location) (b : UInt8) : Location :=
  if b = 0x0A then ⟨here.line + 1, 0⟩ else ⟨here.line, here.column + 1⟩

namespace Location

/-! ### Moving over bytes -/

/-- Within a line only the column changes. -/
theorem foldl_next_of_not_mem {bytes : List UInt8} (h : 0x0A ∉ bytes) (here : Location) :
    bytes.foldl next here = ⟨here.line, here.column + bytes.length⟩ := by
  induction bytes generalizing here with
  | nil => rfl
  | cons b bytes ih =>
    obtain ⟨hb, hbytes⟩ := not_or.1 (mt List.mem_cons.2 h)
    rw [List.foldl_cons, ih hbytes, next, if_neg (Ne.symm hb), List.length_cons]
    simp only [mk.injEq, true_and]
    omega

/-- The bytes of a character that is not ASCII are not ASCII either. -/
theorem le_of_mem_utf8EncodeChar {c : Char} (hc : 128 ≤ c.toNat) :
    ∀ b ∈ String.utf8EncodeChar c, 128 ≤ b.toNat := by
  have hbyte {n : Nat} (hle : 128 ≤ n) (hlt : n < 256) : 128 ≤ (UInt8.ofNat n).toNat := by
    rwa [UInt8.toNat_ofNat', Nat.mod_eq_of_lt hlt]
  -- How many bytes the form has depends on the code, and each of them is at least 128.
  have hcode : c.toNat = c.val.toNat := rfl
  unfold String.utf8EncodeChar
  dsimp only
  split
  · omega
  · split
    · simp only [List.forall_mem_cons]
      exact ⟨hbyte (by omega) (by omega), hbyte (by omega) (by omega), nofun⟩
    · split
      · simp only [List.forall_mem_cons]
        exact ⟨hbyte (by omega) (by omega), hbyte (by omega) (by omega),
          hbyte (by omega) (by omega), nofun⟩
      · simp only [List.forall_mem_cons]
        exact ⟨hbyte (by omega) (by omega), hbyte (by omega) (by omega),
          hbyte (by omega) (by omega), hbyte (by omega) (by omega), nofun⟩

/-- The UTF-8 forms of other characters have no newline in them. -/
theorem newline_not_mem_utf8EncodeChar {c : Char} (hc : c ≠ '\n') :
    0x0A ∉ String.utf8EncodeChar c := by
  intro hmem
  rcases Nat.lt_or_ge c.toNat 128 with hlt | hge
  -- An ASCII character is its own byte.
  · rw [Text.Percent.utf8EncodeChar_ascii hlt, List.mem_singleton] at hmem
    have hcode := congrArg UInt8.toNat hmem
    rw [UInt8.toNat_ofNat', Nat.mod_eq_of_lt (by omega)] at hcode
    refine hc ?_
    rw [← Char.ofNat_toNat c, ← hcode]
    rfl
  · exact absurd (le_of_mem_utf8EncodeChar hge _ hmem) (by decide)

/-- Moving over a number of bytes of a text is moving over each of them. -/
theorem advance_eq_foldl (here : Location) (cs : List Char) (n : Nat) :
    advance here cs n = ((cs.flatMap String.utf8EncodeChar).take n).foldl next here := by
  induction cs generalizing here n with
  | nil => cases n <;> simp [advance]
  | cons c cs ih =>
    match n with
    | 0 => simp [advance]
    | n + 1 =>
      rw [advance, List.flatMap_cons]
      · split
        · next hc =>
          subst hc
          rw [ih]
          rfl
        · next hc =>
          have hbytes := newline_not_mem_utf8EncodeChar hc
          have hlength := String.length_utf8EncodeChar c
          -- The place may lie inside of the character, which moves the column all the same.
          split
          · next hlt =>
            rw [List.take_append_of_le_length (by omega),
              foldl_next_of_not_mem fun hmem => hbytes (List.mem_of_mem_take hmem),
              List.length_take, Nat.min_eq_left (by omega)]
          · next hge =>
            obtain ⟨m, hm⟩ := Nat.exists_eq_add_of_le (Nat.le_of_not_lt hge)
            rw [ih, hm, Nat.add_sub_cancel_left, ← hlength, List.take_length_add_append,
              List.foldl_append, foldl_next_of_not_mem hbytes]
      · exact nofun

/-- The newlines and the bytes since the last of them tell where moving over bytes ends. -/
theorem foldl_next (bytes : List UInt8) : bytes.foldl next ⟨1, 0⟩ =
    ⟨bytes.count 0x0A + 1, (bytes.reverse.takeWhile (· != 0x0A)).length⟩ := by
  -- The last byte decides, so the induction is from there.
  rw [List.foldl_eq_foldr_reverse, ← List.count_reverse]
  generalize bytes.reverse = back
  induction back with
  | nil => rfl
  | cons b back ih =>
    rw [List.foldr_cons, ih, next]
    split
    · next hb => simp [hb]
    · next hb => simp [hb, List.count_cons_of_ne]

/-- The location of an offset stands for it. -/
theorem ofOffset_standsFor {cs : List Char} {i : Nat} (hle : i ≤ byteLength cs) :
    (ofOffset cs i).StandsFor (cs.flatMap String.utf8EncodeChar) i := by
  have hoffset : ofOffset cs i = _ := (advance_eq_foldl _ _ _).trans (foldl_next _)
  exact ⟨by rwa [length_flatMap_utf8EncodeChar], by rw [hoffset], by rw [hoffset]⟩

/-- Texts with the same bytes before a place have the same location for it. -/
theorem ofOffset_eq_of_take_eq {cs ds : List Char} {i n : Nat} (hle : i ≤ n)
    (h : (cs.flatMap String.utf8EncodeChar).take n = (ds.flatMap String.utf8EncodeChar).take n) :
    ofOffset cs i = ofOffset ds i := by
  have htake := congrArg (List.take i) h
  rw [List.take_take, List.take_take, Nat.min_eq_left hle] at htake
  rw [ofOffset, ofOffset, advance_eq_foldl, advance_eq_foldl, htake]

/-! ### One place only -/

/-- A location stands for one place only. -/
theorem StandsFor.unique {here : Location} {bytes : List UInt8} {i j : Nat}
    (hi : here.StandsFor bytes i) (hj : here.StandsFor bytes j) : i = j := by
  -- Were one place after the other, no newline would be between them, so only columns.
  have hle {i j : Nat} (hi : here.StandsFor bytes i) (hj : here.StandsFor bytes j) : j ≤ i := by
    refine Nat.le_of_not_lt fun hlt => ?_
    obtain ⟨k, rfl⟩ := Nat.exists_eq_add_of_lt hlt
    rw [Nat.add_assoc] at hj
    have hline := hi.line.symm.trans hj.line
    have hcolumn := hi.column.symm.trans hj.column
    have hlength : ((bytes.drop i).take (k + 1)).length = k + 1 := by
      have := hj.le_length
      simp only [List.length_take, List.length_drop]
      omega
    rw [List.take_add] at hline hcolumn
    generalize (bytes.drop i).take (k + 1) = between at hline hcolumn hlength
    have hnewline : 0x0A ∉ between := by
      rw [← List.count_eq_zero]
      rw [List.count_append] at hline
      omega
    have hall : ∀ b ∈ between.reverse, (b != 0x0A) = true := fun b hb =>
      bne_iff_ne.2 fun heq => hnewline (heq ▸ List.mem_reverse.1 hb)
    rw [List.reverse_append, List.takeWhile_append_of_pos hall, List.length_append,
      List.length_reverse] at hcolumn
    omega
  exact Nat.le_antisymm (hle hj hi) (hle hi hj)

end Location

end DonationSite.Json
