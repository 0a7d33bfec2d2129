import DonationSite.Proofs.Text.Blank
import DonationSite.Text.Pieces

/-!
# The first two spaces in a row

Where a text is cut that two spaces in a row divide.

## Key results

- `splitGap_eq_none_iff`, `splitGap_eq_some_iff`: a text is cut exactly at its first gap
- `firstGap_of_tidy`: the gap after a tidy part without one is the first
-/

namespace DonationSite.Text

variable {cs before after : List Char}

/-- Two spaces in a row stand somewhere in a text. -/
def HasGap (cs : List Char) : Prop :=
  [' ', ' '] <:+: cs

/-- What stands before and after the first two spaces in a row. -/
structure FirstGap (cs before after : List Char) : Prop where
  cut : cs = before ++ ' ' :: ' ' :: after
  first : ∀ earlier rest, cs = earlier ++ ' ' :: ' ' :: rest → before.length ≤ earlier.length

/-- A text has a gap exactly if two spaces in a row cut it. -/
theorem hasGap_iff : HasGap cs ↔ ∃ before after, cs = before ++ ' ' :: ' ' :: after := by
  constructor
  · rintro ⟨before, after, h⟩
    exact ⟨before, after, by rw [← h]; simp⟩
  · rintro ⟨before, after, rfl⟩
    exact ⟨before, after, by simp⟩

/-- A text with a first gap has a gap. -/
theorem FirstGap.hasGap (h : FirstGap cs before after) : HasGap cs :=
  hasGap_iff.2 ⟨before, after, h.cut⟩

/-- What stands on either side of the first gap belongs to the text. -/
theorem FirstGap.mem_of_mem_sides (h : FirstGap cs before after) {c : Char}
    (hmem : c ∈ trimChars before ∨ c ∈ trimChars after) : c ∈ cs := by
  rw [h.cut, List.mem_append]
  rcases hmem with hmem | hmem
  · exact .inl (mem_of_mem_trimChars hmem)
  · exact .inr (List.mem_cons_of_mem _ (List.mem_cons_of_mem _ (mem_of_mem_trimChars hmem)))

/-- There is only one first gap. -/
theorem FirstGap.unique {otherBefore otherAfter : List Char} (h : FirstGap cs before after)
    (hother : FirstGap cs otherBefore otherAfter) : before = otherBefore ∧ after = otherAfter := by
  -- Neither gap comes before the other.
  have hlength : before.length = otherBefore.length :=
    Nat.le_antisymm (h.first _ _ hother.cut) (hother.first _ _ h.cut)
  obtain ⟨hbefore, htail⟩ := List.append_inj (h.cut.symm.trans hother.cut) hlength
  simp only [List.cons.injEq, true_and] at htail
  exact ⟨hbefore, htail⟩

/-! ### Cutting at the first gap -/

/-- A gap of a text that does not begin with one is a gap of its tail. -/
private theorem exists_tail_of_cons {c : Char} {rest earlier tail : List Char}
    (hne : ∀ after, c = ' ' → rest = ' ' :: after → False)
    (h : c :: rest = earlier ++ ' ' :: ' ' :: tail) :
    ∃ shorter, earlier = c :: shorter ∧ rest = shorter ++ ' ' :: ' ' :: tail := by
  cases earlier with
  | nil =>
    obtain ⟨hc, hrest⟩ := List.cons.inj h
    exact (hne tail hc hrest).elim
  | cons d shorter =>
    obtain ⟨hc, hrest⟩ := List.cons.inj h
    exact ⟨shorter, by rw [hc], hrest⟩

/-- A text that is not cut has no gap. -/
theorem not_hasGap_of_splitGap (h : splitGap cs = none) : ¬HasGap cs := by
  rw [hasGap_iff]
  -- The cases are those of the search: a gap at the front, another character, and the end.
  fun_induction splitGap cs with
  | case1 => cases h
  | case2 c rest hne ih =>
    rintro ⟨before, after, hcut⟩
    obtain ⟨shorter, -, hrest⟩ := exists_tail_of_cons hne hcut
    exact ih (Option.map_eq_none_iff.1 h) ⟨shorter, after, hrest⟩
  | case3 =>
    rintro ⟨before, after, hcut⟩
    simp at hcut

/-- A text is cut at its first gap. -/
theorem firstGap_of_splitGap (h : splitGap cs = some (before, after)) :
    FirstGap cs before after := by
  fun_induction splitGap cs generalizing before with
  | case1 rest =>
    cases h
    exact ⟨rfl, fun _ _ _ => Nat.zero_le _⟩
  | case2 c rest hne ih =>
    obtain ⟨⟨shorter, tail⟩, hsplit, heq⟩ := Option.map_eq_some_iff.1 h
    cases heq
    -- A gap in front of the one that was found would be in the tail as well.
    obtain ⟨hcut, hfirst⟩ := ih hsplit
    refine ⟨by rw [List.cons_append, ← hcut], fun earlier tail hother => ?_⟩
    obtain ⟨shorterEarlier, rfl, hrest⟩ := exists_tail_of_cons hne hother
    exact Nat.succ_le_succ (hfirst _ _ hrest)
  | case3 => cases h

/-- A text is cut exactly at its first gap. -/
theorem splitGap_eq_some_iff : splitGap cs = some (before, after) ↔ FirstGap cs before after := by
  refine ⟨firstGap_of_splitGap, fun h => ?_⟩
  cases hsplit : splitGap cs with
  | none => exact absurd h.hasGap (not_hasGap_of_splitGap hsplit)
  | some cut =>
    obtain ⟨otherBefore, otherAfter⟩ := cut
    obtain ⟨rfl, rfl⟩ := h.unique (firstGap_of_splitGap hsplit)
    rfl

/-- A text is not cut exactly if it has no gap. -/
theorem splitGap_eq_none_iff : splitGap cs = none ↔ ¬HasGap cs := by
  refine ⟨not_hasGap_of_splitGap, fun h => ?_⟩
  cases hsplit : splitGap cs with
  | none => rfl
  | some cut => exact absurd (firstGap_of_splitGap hsplit).hasGap h

/-- A text with a gap has a first one. -/
theorem exists_firstGap (h : HasGap cs) : ∃ before after, FirstGap cs before after := by
  cases hsplit : splitGap cs with
  | none => exact absurd h (splitGap_eq_none_iff.1 hsplit)
  | some cut => exact ⟨cut.1, cut.2, splitGap_eq_some_iff.1 hsplit⟩

instance (cs : List Char) : Decidable (HasGap cs) :=
  decidable_of_iff (splitGap cs ≠ none) (by rw [ne_eq, splitGap_eq_none_iff, not_not])

/-! ### Gaps and tidy texts -/

/-- A gap after a tidy text that has none is the first, since the text does not end in a space. -/
theorem firstGap_of_tidy (htidy : Tidy before) (hnone : ¬HasGap before) (after : List Char) :
    FirstGap (before ++ ' ' :: ' ' :: after) before after := by
  refine ⟨rfl, fun earlier rest h => ?_⟩
  -- An earlier gap begins inside of the tidy part, and ends there or one character behind it.
  rcases List.append_eq_append_iff.1 h with ⟨middle, hearlier, -⟩ | ⟨middle, hbefore, hrest⟩
  · rw [hearlier, List.length_append]
    exact Nat.le_add_right _ _
  · match middle, hrest with
    | [], _ => simp [hbefore]
    | [c], hrest =>
      -- The first space of the earlier gap would end the text.
      simp only [List.cons_append, List.cons.injEq, List.nil_append] at hrest
      rw [hbefore, ← hrest.1] at htidy
      exact absurd (htidy.after_eq_nil (by simp [isBlank])) (List.cons_ne_nil _ _)
    | c :: d :: middle, hrest =>
      simp only [List.cons_append, List.cons.injEq] at hrest
      rw [hbefore, ← hrest.1, ← hrest.2.1] at hnone
      exact absurd (hasGap_iff.2 ⟨earlier, middle, rfl⟩) hnone

/-- Something stands on both sides of the first gap of a tidy text. -/
theorem FirstGap.trimChars_ne_nil (h : FirstGap cs before after) (htidy : Tidy cs) :
    trimChars before ≠ [] ∧ trimChars after ≠ [] := by
  rw [h.cut] at htidy
  obtain ⟨hbefore, hafter⟩ := htidy.sides_ne_nil rfl
  -- The second space of the gap belongs to no side, so it is added to the one after it.
  refine ⟨hbefore, fun hnil => hafter ?_⟩
  exact (trimChars_blank_append (List.forall_mem_singleton.2 rfl) after).trans hnil

end DonationSite.Text
