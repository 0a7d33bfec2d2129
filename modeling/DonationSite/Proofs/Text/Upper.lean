import Mathlib.Data.List.Basic
import DonationSite.Proofs.List
import DonationSite.Proofs.Text.Blank
import DonationSite.Text.Upper

/-!
# Texts in uppercase

A text in uppercase stays as it is when it is put into uppercase again, although a character may
become several: none of those has an uppercase form of its own. The mapping neither makes a blank
character nor changes one, so that it does not matter whether a text is trimmed before or after.

The table is checked by its spans. The uppercase forms of a span are a range of code points, or
every second one of a range, and what they have to keep clear of are ranges as well.

## Key results

- `Upper.mapPoint_mapPoint`: what the mapping gives, it maps to itself
- `upper_upper`: the same for texts
- `trim_upper`: trimming and the mapping can be swapped
-/

namespace DonationSite.Text

namespace Upper

/-! ### Spans and what they keep clear of -/

/-- Whether two ranges of code points have none in common. -/
def apart (first last otherFirst otherLast : Nat) : Bool :=
  last.blt otherFirst || otherLast.blt first

/-- The uppercase form of the last code point of a span. -/
def Span.lastTarget (span : Span) : Nat :=
  span.target + (span.last - span.first)

/-- Whether no uppercase form in a span has one in another span. They lie apart, or the other span
takes every second code point and they are those that it leaves out. -/
def Span.avoids (span other : Span) : Bool :=
  apart span.target span.lastTarget other.first other.last ||
    ((span.stride.beq 2 || span.first.beq span.last) && other.stride.beq 2 &&
      ((span.target + other.first) % 2).beq 1)

/-- Whether no uppercase form in a span has another one. -/
def Span.isStable (span : Span) : Bool :=
  spans.all span.avoids &&
    specials.all fun special => apart span.target span.lastTarget special.1 special.1

/-- A run of code points that stand for themselves. -/
def Span.still (first last : Nat) : Span := ⟨first, last, 1, first⟩

/-- The first and the last code point of each run of blank characters. -/
def blanks : List (Nat × Nat) := [
  (0x09, 0x0D), (0x20, 0x20), (0x85, 0x85), (0xA0, 0xA0), (0x1680, 0x1680), (0x2000, 0x200A),
  (0x2028, 0x2029), (0x202F, 0x202F), (0x205F, 0x205F), (0x3000, 0x3000)]

/-- Whether the uppercase forms in a span are characters, none of which is blank or has another
uppercase form. -/
def Span.isSettled (span : Span) : Bool :=
  span.isStable &&
    blanks.all (fun run => apart span.target span.lastTarget run.1 run.2) &&
      (span.lastTarget.blt 0xD800 || Nat.blt 0xDFFF span.target && span.lastTarget.blt 0x110000)

/-- Every span of the table is settled. -/
theorem isSettled_spans : spans.all Span.isSettled = true := by decide +kernel

/-- Every special character has an uppercase form, each code point of which is settled. -/
theorem isSettled_specials : (specials.all fun special =>
    !special.2.isEmpty && special.2.all fun n => (Span.still n n).isSettled) = true := by
  decide +kernel

/-- No blank character has an uppercase form of its own. -/
theorem isStable_blanks : (blanks.all fun run => (Span.still run.1 run.2).isStable) = true := by
  decide +kernel

/-! ### What the checks say -/

variable {span other : Span} {n m : Nat}

/-- Two ranges have no code point in common exactly if one ends before the other begins. -/
theorem apart_eq_true_iff {first last otherFirst otherLast : Nat} :
    apart first last otherFirst otherLast = true ↔ last < otherFirst ∨ otherLast < first := by
  rw [apart, Bool.or_eq_true, Nat.blt_eq, Nat.blt_eq]

/-- A span maps every code point at its stride from the first, and moves it by as much as the
first. -/
theorem Span.upper?_eq_some_iff : span.upper? n = some m ↔
    span.first ≤ n ∧ n ≤ span.last ∧ (n - span.first) % span.stride = 0 ∧
      span.target + (n - span.first) = m := by
  simp [Span.upper?, and_assoc]

/-- A run of code points that stand for themselves maps each of them to itself. -/
theorem Span.upper?_still {first last : Nat} (hfirst : first ≤ n) (hlast : n ≤ last) :
    (Span.still first last).upper? n = some n := by
  rw [Span.upper?_eq_some_iff]
  exact ⟨hfirst, hlast, Nat.mod_one _, Nat.add_sub_cancel' hfirst⟩

/-- The uppercase forms in a span are within its range of them. -/
theorem Span.le_of_upper? (h : span.upper? n = some m) :
    span.target ≤ m ∧ m ≤ span.lastTarget := by
  obtain ⟨hfirst, hlast, -, rfl⟩ := Span.upper?_eq_some_iff.1 h
  rw [Span.lastTarget]
  omega

/-- What a span maps to has no uppercase form in a span that it avoids. -/
theorem Span.upper?_of_avoids (h : span.avoids other = true) (hm : span.upper? n = some m) :
    other.upper? m = none := by
  rw [Option.eq_none_iff_forall_ne_some]
  intro k hk
  obtain ⟨hle, hge⟩ := Span.le_of_upper? hm
  obtain ⟨hfirst, hlast, hmod, rfl⟩ := Span.upper?_eq_some_iff.1 hm
  obtain ⟨hotherFirst, hotherLast, hotherMod, -⟩ := Span.upper?_eq_some_iff.1 hk
  rw [Span.avoids, Bool.or_eq_true, apart_eq_true_iff] at h
  rcases h with h | h
  · omega
  · -- The distances from the first code points of the two spans differ by an odd number.
    simp only [Bool.and_eq_true, Bool.or_eq_true, Nat.beq_eq] at h
    obtain ⟨⟨hstride, hotherStride⟩, hodd⟩ := h
    rw [hotherStride] at hotherMod
    rcases hstride with hstride | hsingle
    · rw [hstride] at hmod
      omega
    · omega

/-- What a stable span maps to is mapped to itself. -/
theorem mapPoint_of_isStable (h : span.isStable = true) (hm : span.upper? n = some m) :
    mapPoint m = [m] := by
  obtain ⟨hspans, hspecials⟩ := Bool.and_eq_true_iff.1 h
  -- It is neither a special character nor in one of the spans.
  have hlookup : specials.lookup m = none := by
    rw [List.lookup_eq_none_iff]
    intro special hmem
    have hapart := apart_eq_true_iff.1 (List.all_eq_true.1 hspecials special hmem)
    have hrange := Span.le_of_upper? hm
    rw [bne_iff_ne]
    omega
  have hfind : spans.findSome? (·.upper? m) = none := by
    rw [List.findSome?_eq_none_iff]
    exact fun other hmem => Span.upper?_of_avoids (List.all_eq_true.1 hspans other hmem) hm
  rw [mapPoint, hlookup, hfind]
  rfl

/-- A special character has an uppercase form, all characters of which are settled. -/
theorem settled_of_lookup {points : List Nat} (h : specials.lookup n = some points) :
    points ≠ [] ∧ ∀ m ∈ points, (Span.still m m).isSettled = true := by
  obtain ⟨before, after, hspecials, -⟩ := List.lookup_eq_some_iff.1 h
  have hmem : (n, points) ∈ specials := by
    rw [hspecials]
    simp
  obtain ⟨hne, hpoints⟩ := Bool.and_eq_true_iff.1 (List.all_eq_true.1 isSettled_specials _ hmem)
  exact ⟨by simpa using hne, List.all_eq_true.1 hpoints⟩

/-- A code point is mapped to settled ones, or else to itself. -/
theorem settled_of_mem_mapPoint (h : m ∈ mapPoint n) :
    (∃ (span : Span) (k : Nat), span.isSettled = true ∧ span.upper? k = some m) ∨
      m = n ∧ mapPoint n = [n] := by
  rw [mapPoint] at h ⊢
  -- A special character comes first, then the spans, and all else stands for itself.
  cases hlookup : specials.lookup n with
  | some points =>
    rw [hlookup] at h
    exact .inl ⟨Span.still m m, m, (settled_of_lookup hlookup).2 m h,
      Span.upper?_still (Nat.le_refl m) (Nat.le_refl m)⟩
  | none =>
    rw [hlookup] at h
    cases hfind : spans.findSome? (·.upper? n) with
    | some target =>
      rw [hfind] at h
      obtain ⟨span, hmem, hspan⟩ := List.exists_of_findSome?_eq_some hfind
      cases List.mem_singleton.1 h
      exact .inl ⟨span, n, List.all_eq_true.1 isSettled_spans span hmem, hspan⟩
    | none =>
      rw [hfind] at h
      cases List.mem_singleton.1 h
      exact .inr ⟨rfl, rfl⟩

/-- Every code point has an uppercase form. -/
theorem mapPoint_ne_nil (n : Nat) : mapPoint n ≠ [] := by
  rw [mapPoint]
  split
  · next points hlookup => exact (settled_of_lookup hlookup).1
  · exact List.cons_ne_nil _ _

/-- What the mapping gives, it maps to itself. -/
theorem mapPoint_mapPoint (h : m ∈ mapPoint n) : mapPoint m = [m] := by
  rcases settled_of_mem_mapPoint h with ⟨span, k, hsettled, hm⟩ | ⟨rfl, hself⟩
  · simp only [Span.isSettled, Bool.and_eq_true] at hsettled
    exact mapPoint_of_isStable hsettled.1.1 hm
  · exact hself

/-- What a settled span maps to is a character. -/
theorem isValidChar_of_isSettled (h : span.isSettled = true) (hm : span.upper? n = some m) :
    m.isValidChar := by
  have hrange := Span.le_of_upper? hm
  simp only [Span.isSettled, Bool.and_eq_true, Bool.or_eq_true, Nat.blt_eq] at h
  show m < 0xD800 ∨ 0xDFFF < m ∧ m < 0x110000
  omega

/-- Every blank character is in one of the runs. -/
theorem exists_run {c : Char} (h : isBlank c = true) :
    ∃ run ∈ blanks, run.1 ≤ c.toNat ∧ c.toNat ≤ run.2 := by
  simp only [isBlank, Bool.or_eq_true, Bool.and_eq_true, decide_eq_true_eq, beq_iff_eq] at h
  simp only [blanks, List.mem_cons, List.not_mem_nil, or_false, exists_eq_or_imp, exists_eq_left]
  omega

/-- What a settled span maps to is not blank. -/
theorem isBlank_of_isSettled {c : Char} (h : span.isSettled = true)
    (hm : span.upper? n = some c.toNat) : isBlank c = false := by
  rw [Bool.eq_false_iff]
  intro hblank
  -- A blank character lies in one of the runs, which are apart from all uppercase forms.
  obtain ⟨run, hmem, hfirst, hlast⟩ := exists_run hblank
  obtain ⟨hle, hge⟩ := Span.le_of_upper? hm
  simp only [Span.isSettled, Bool.and_eq_true] at h
  have hapart := apart_eq_true_iff.1 (List.all_eq_true.1 h.1.2 run hmem)
  omega

end Upper

/-! ### Characters -/

variable {c d : Char}

/-- Every character has an uppercase form. -/
theorem upperChar_ne_nil (c : Char) : upperChar c ≠ [] :=
  mt List.map_eq_nil_iff.1 (Upper.mapPoint_ne_nil c.toNat)

/-- The code points of an uppercase form are those that the mapping gives. -/
theorem toNat_mem_of_mem_upperChar (h : d ∈ upperChar c) : d.toNat ∈ Upper.mapPoint c.toNat := by
  obtain ⟨m, hmem, rfl⟩ := List.mem_map.1 h
  have hvalid : m.isValidChar := by
    rcases Upper.settled_of_mem_mapPoint hmem with ⟨span, k, hsettled, hm⟩ | ⟨rfl, -⟩
    · exact Upper.isValidChar_of_isSettled hsettled hm
    · exact c.valid
  -- A code point that is no character would become another one here.
  rw [Char.ofNat, dif_pos hvalid]
  exact hmem

/-- A character of an uppercase form is its own uppercase form. -/
theorem upperChar_of_mem (h : d ∈ upperChar c) : upperChar d = [d] := by
  rw [upperChar, Upper.mapPoint_mapPoint (toNat_mem_of_mem_upperChar h), List.map_singleton,
    Char.ofNat_toNat]

/-- A blank character is its own uppercase form. -/
theorem upperChar_of_isBlank (h : isBlank c = true) : upperChar c = [c] := by
  obtain ⟨run, hmem, hfirst, hlast⟩ := Upper.exists_run h
  have hstable := List.all_eq_true.1 Upper.isStable_blanks run hmem
  have hself := Upper.Span.upper?_still hfirst hlast
  rw [upperChar, Upper.mapPoint_of_isStable hstable hself, List.map_singleton, Char.ofNat_toNat]

/-- The mapping neither makes a blank character nor takes one away. -/
theorem isBlank_of_mem_upperChar (h : d ∈ upperChar c) : isBlank d = isBlank c := by
  by_cases hblank : isBlank c = true
  · rw [upperChar_of_isBlank hblank] at h
    rw [List.mem_singleton.1 h]
  · rcases Upper.settled_of_mem_mapPoint (toNat_mem_of_mem_upperChar h) with
      ⟨span, k, hsettled, hm⟩ | ⟨hself, -⟩
    · rw [Upper.isBlank_of_isSettled hsettled hm, Bool.eq_false_iff.2 hblank]
    · rw [Char.toNat_inj.1 hself]

/-! ### Texts -/

/-- Characters in uppercase are their own uppercase form. -/
theorem upperChars_upperChars (cs : List Char) : upperChars (upperChars cs) = upperChars cs := by
  rw [upperChars, upperChars, List.flatMap_assoc]
  refine List.flatMap_congr fun c _ => ?_
  calc (upperChar c).flatMap upperChar
      = (upperChar c).flatMap fun d => [d] := List.flatMap_congr fun d hmem => upperChar_of_mem hmem
    _ = upperChar c := List.flatMap_singleton' _

/-- Trimming and the mapping can be swapped. -/
theorem trimChars_upperChars (cs : List Char) :
    trimChars (upperChars cs) = upperChars (trimChars cs) := by
  -- A character is blank exactly if its uppercase form is, so the same ones are dropped.
  have hfront (cs : List Char) : (cs.flatMap upperChar).dropWhile isBlank =
      (cs.dropWhile isBlank).flatMap upperChar :=
    List.dropWhile_flatMap upperChar_ne_nil (fun _ _ => isBlank_of_mem_upperChar) cs
  -- Seen from the end, the uppercase form of each character is reversed.
  have hback (cs : List Char) : (cs.flatMap (List.reverse ∘ upperChar)).dropWhile isBlank =
      (cs.dropWhile isBlank).flatMap (List.reverse ∘ upperChar) := by
    refine List.dropWhile_flatMap (fun c => ?_) (fun c d hmem => ?_) cs
    · exact mt List.reverse_eq_nil_iff.1 (upperChar_ne_nil c)
    · exact isBlank_of_mem_upperChar (List.mem_reverse.1 hmem)
  have htwice : List.reverse ∘ List.reverse ∘ upperChar = upperChar := by
    funext c
    exact List.reverse_reverse _
  rw [trimChars, upperChars, hfront, List.reverse_flatMap, hback, List.reverse_flatMap, htwice,
    upperChars, trimChars]

/-- A text in uppercase is its own uppercase form. -/
theorem upper_upper (s : String) : upper (upper s) = upper s := by
  rw [upper, toList_upper, upperChars_upperChars, upper]

/-- The uppercase form of a text is empty exactly if the text is. -/
theorem isEmpty_upper (s : String) : (upper s).isEmpty = s.isEmpty := by
  rw [Bool.eq_iff_iff, String.isEmpty_iff, String.isEmpty_iff, ← String.toList_eq_nil_iff,
    toList_upper, upperChars, List.flatMap_eq_nil_iff, ← String.toList_eq_nil_iff,
    List.eq_nil_iff_forall_not_mem]
  exact forall_congr' fun c => imp_congr_right fun _ => iff_false_intro (upperChar_ne_nil c)

/-- It makes no difference whether a text is trimmed before it is put into uppercase or after. -/
theorem trim_upper (s : String) : trim (upper s) = upper (trim s) := by
  rw [trim, toList_upper, trimChars_upperChars, upper, toList_trim]

end DonationSite.Text
