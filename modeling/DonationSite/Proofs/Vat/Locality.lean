import DonationSite.Proofs.Text.Gap
import DonationSite.Proofs.Text.Lines
import DonationSite.Vat.Patch

/-!
# Postcode and city of a line

A line is divided at its first two spaces in a row, exactly if something stands on both sides of
them. Nothing but blank characters is lost then: one side is the postcode and the other the city.
So the postcode is told whether it stands before the city or after it, whatever the number of
spaces between them.

## Key results

- `parse_splits_at_firstGap`: which lines are divided, and into what
- `parse_joined`: a postcode and a city that were put together, in either order
-/

namespace DonationSite.Vat

open Text (HasGap FirstGap Tidy trim trimChars isBlank)

/-- The lines of an address are those of its text that are not blank, trimmed. -/
theorem addressLines_eq (address : String) :
    addressLines address = Text.contentLines address.toList :=
  Text.contentLines_lines address.toList

namespace Locality

variable {line before after left right : List Char}

/-! ### Lines and their parts -/

/-- A line that is all city: it has no two spaces in a row, or only blanks on one side of the
first ones. -/
def AllCity (line : List Char) : Prop :=
  ¬HasGap line ∨ ∃ before after, FirstGap line before after ∧
    ((∀ c ∈ before, isBlank c = true) ∨ ∀ c ∈ after, isBlank c = true)

/-- A line with a gap has two parts, unless one side of the gap is blank. -/
theorem ofLine_of_firstGap (h : FirstGap line before after) :
    ofLine line = if (trimChars before).isEmpty || (trimChars after).isEmpty then ofCity line
      else ofParts (trimChars before) (trimChars after) := by
  rw [ofLine, Text.splitGap_eq_some_iff.2 h]

/-- A line that is all city has no postcode. -/
theorem ofLine_of_allCity (h : AllCity line) : ofLine line = ofCity line := by
  rcases h with hnone | ⟨before, after, hgap, hblank⟩
  · rw [ofLine, Text.splitGap_eq_none_iff.2 hnone]
  · rw [ofLine_of_firstGap hgap, if_pos]
    rw [Bool.or_eq_true, List.isEmpty_iff, List.isEmpty_iff]
    exact hblank.imp Text.trimChars_eq_nil_iff.2 Text.trimChars_eq_nil_iff.2

/-- A line with something on both sides of its first gap has two parts. -/
theorem ofLine_of_ne_nil (h : FirstGap line before after) (hbefore : trimChars before ≠ [])
    (hafter : trimChars after ≠ []) :
    ofLine line = ofParts (trimChars before) (trimChars after) := by
  rw [ofLine_of_firstGap h, if_neg]
  simpa using ⟨hbefore, hafter⟩

/-- A tidy line is all city only if it has no two spaces in a row. -/
theorem allCity_iff_of_tidy (h : Tidy line) : AllCity line ↔ ¬HasGap line := by
  refine ⟨?_, .inl⟩
  rintro (hnone | ⟨before, after, hgap, hblank⟩)
  · exact hnone
  · obtain ⟨hbefore, hafter⟩ := hgap.trimChars_ne_nil h
    -- Beside the first gap of a tidy line neither side is blank.
    rcases hblank with hblank | hblank
    · exact absurd (Text.trimChars_eq_nil_iff.2 hblank) hbefore
    · exact absurd (Text.trimChars_eq_nil_iff.2 hblank) hafter

/-- The part with more digits is the postcode, the second one if both have as many. -/
theorem ofParts_of_lt (h : digitCount right < digitCount left) :
    ofParts left right = ⟨some (String.ofList left), String.ofList right⟩ :=
  if_pos h

/-- The second part is the postcode if it has as many digits or more. -/
theorem ofParts_of_le (h : digitCount left ≤ digitCount right) :
    ofParts left right = ⟨some (String.ofList right), String.ofList left⟩ :=
  if_neg (Nat.not_lt.2 h)

/-- A line that is not all city is divided at its first gap; one side is the postcode and the other
the city. -/
theorem exists_postcode (h : ¬AllCity line) : ∃ before after p c, FirstGap line before after ∧
    ofLine line = ⟨some (String.ofList p), String.ofList c⟩ ∧
    (p = trimChars before ∧ c = trimChars after ∨ p = trimChars after ∧ c = trimChars before) ∧
    Tidy p ∧ Tidy c ∧ digitCount c ≤ digitCount p ∧
    (digitCount p = digitCount c → p = trimChars after ∧ c = trimChars before) := by
  obtain ⟨hgap, hsides⟩ := not_or.1 h
  obtain ⟨before, after, hfirst⟩ := Text.exists_firstGap (not_not.1 hgap)
  have hbefore : trimChars before ≠ [] := fun hnil =>
    hsides ⟨before, after, hfirst, .inl (Text.trimChars_eq_nil_iff.1 hnil)⟩
  have hafter : trimChars after ≠ [] := fun hnil =>
    hsides ⟨before, after, hfirst, .inr (Text.trimChars_eq_nil_iff.1 hnil)⟩
  have hparts := ofLine_of_ne_nil hfirst hbefore hafter
  have htidyBefore := Text.tidy_trimChars hbefore
  have htidyAfter := Text.tidy_trimChars hafter
  -- Only if the first side has more digits it is the postcode, so a tie takes the second one.
  rcases Nat.lt_or_ge (digitCount (trimChars after)) (digitCount (trimChars before)) with hlt | hle
  · exact ⟨before, after, _, _, hfirst, hparts.trans (ofParts_of_lt hlt), .inl ⟨rfl, rfl⟩,
      htidyBefore, htidyAfter, Nat.le_of_lt hlt, fun heq => absurd heq.symm (Nat.ne_of_lt hlt)⟩
  · exact ⟨before, after, _, _, hfirst, hparts.trans (ofParts_of_le hle), .inr ⟨rfl, rfl⟩,
      htidyAfter, htidyBefore, hle, fun _ => ⟨rfl, rfl⟩⟩

/-- A line has a postcode exactly if it is not all city. -/
theorem postcode_isSome_iff : (ofLine line).postcode.isSome = true ↔ ¬AllCity line := by
  constructor
  · intro h hcity
    rw [ofLine_of_allCity hcity] at h
    cases h
  · intro h
    obtain ⟨before, after, p, c, -, hlocality, -⟩ := exists_postcode h
    rw [hlocality]
    rfl

/-- The texts that a tidy line is divided into are tidy, and hold only characters of the line. -/
theorem tidy_ofLine (h : Tidy line) {text : String}
    (htext : (ofLine line).postcode = some text ∨ (ofLine line).city = text) :
    Tidy text.toList ∧ ∀ d ∈ text.toList, d ∈ line := by
  by_cases hcity : AllCity line
  · rw [ofLine_of_allCity hcity] at htext
    rcases htext with htext | rfl
    · cases htext
    · rw [ofCity, h.trimChars_eq, String.toList_ofList]
      exact ⟨h, fun d hmem => hmem⟩
  -- Trimming a side only drops characters, so both parts come from the line.
  · obtain ⟨before, after, p, c, hfirst, hlocality, hsides, hp, hc, -⟩ := exists_postcode hcity
    have hbefore : ∀ d ∈ trimChars before, d ∈ line := fun d hd =>
      hfirst.mem_of_mem_sides (.inl hd)
    have hafter : ∀ d ∈ trimChars after, d ∈ line := fun d hd =>
      hfirst.mem_of_mem_sides (.inr hd)
    have hmem : (∀ d ∈ p, d ∈ line) ∧ ∀ d ∈ c, d ∈ line := by
      rcases hsides with ⟨rfl, rfl⟩ | ⟨rfl, rfl⟩
      · exact ⟨hbefore, hafter⟩
      · exact ⟨hafter, hbefore⟩
    rw [hlocality] at htext
    rcases htext with htext | rfl
    · cases htext
      rw [String.toList_ofList]
      exact ⟨hp, hmem.1⟩
    · rw [String.toList_ofList]
      exact ⟨hc, hmem.2⟩

/-! ### What a line is divided into -/

/-- A line is all city, without the blanks around it, exactly if it has no two spaces in a row or
only blanks on one side of the first ones. Otherwise the two sides of these, without the blanks
around them, are the postcode and the city. Neither is empty, and the postcode has at least as many
digits; if both have as many, it is the second one. So a line that is not empty and has no blanks
around it has a postcode exactly if it has two spaces in a row; the lines of an address are of this
kind. -/
theorem parse_splits_at_firstGap (line : String) :
    (parse line = ⟨none, trim line⟩ ↔ AllCity line.toList) ∧
    (¬AllCity line.toList → ∃ before after p c : String,
      FirstGap line.toList before.toList after.toList ∧ parse line = ⟨some p, c⟩ ∧
      (p = trim before ∧ c = trim after ∨ p = trim after ∧ c = trim before) ∧
      p ≠ "" ∧ c ≠ "" ∧ digitCount c.toList ≤ digitCount p.toList ∧
      (digitCount p.toList = digitCount c.toList → p = trim after ∧ c = trim before)) ∧
    (line ≠ "" → trim line = line →
      ((parse line).postcode.isSome = true ↔ HasGap line.toList)) ∧
    ∀ address, ∀ row ∈ addressLines address, row ≠ [] ∧ trimChars row = row := by
  have hpostcode : (parse line).postcode.isSome = true ↔ ¬AllCity line.toList :=
    postcode_isSome_iff
  refine ⟨⟨fun h => ?_, ofLine_of_allCity⟩, fun h => ?_, fun hne htrim => ?_,
    fun address row hmem => ?_⟩
  -- A line with a postcode is not read as all city.
  · rw [h] at hpostcode
    simpa using hpostcode
  · obtain ⟨before, after, p, c, hfirst, hlocality, hsides, hp, hc, hcount, htie⟩ :=
      exists_postcode h
    refine ⟨String.ofList before, String.ofList after, String.ofList p, String.ofList c, ?_⟩
    simp only [trim, String.toList_ofList, String.ofList_inj, ne_eq, String.ofList_eq_empty_iff]
    exact ⟨hfirst, hlocality, hsides, hp.ne_nil, hc.ne_nil, hcount, htie⟩
  · have htidy : Tidy line.toList := Text.tidy_toList_iff.2 ⟨hne, htrim⟩
    rw [hpostcode, allCity_iff_of_tidy htidy, not_not]
  · rw [addressLines_eq] at hmem
    obtain ⟨hrow, -⟩ := Text.of_mem_contentLines hmem
    exact ⟨hrow.ne_nil, hrow.trimChars_eq⟩

/-- A tidy line with two gaps. -/
def twoGaps : String := "130 00  Praha  3"

/-- The first of two gaps divides the line, the other one stays in the city. -/
theorem parse_splits_twoGaps :
    twoGaps ≠ "" ∧ trim twoGaps = twoGaps ∧ HasGap twoGaps.toList ∧ ¬AllCity twoGaps.toList ∧
      parse twoGaps = ⟨some "130 00", "Praha  3"⟩ ∧
      ∃ before after p c : String, FirstGap twoGaps.toList before.toList after.toList ∧
        parse twoGaps = ⟨some p, c⟩ ∧
        (p = trim before ∧ c = trim after ∨ p = trim after ∧ c = trim before) := by
  have hne : twoGaps ≠ "" := by decide
  have htrim : trim twoGaps = twoGaps := by decide
  have hparse : parse twoGaps = ⟨some "130 00", "Praha  3"⟩ := by decide
  obtain ⟨hcity, hsplit, hgap, -⟩ := parse_splits_at_firstGap twoGaps
  have hnot : ¬AllCity twoGaps.toList := fun h => by
    rw [hcity.2 h] at hparse
    cases hparse
  obtain ⟨before, after, p, c, hfirst, hsame, hsides, -⟩ := hsplit hnot
  exact ⟨hne, htrim, (hgap hne htrim).1 (by rw [hparse]; rfl), hnot, hparse, before, after, p, c,
    hfirst, hsame, hsides⟩

/-! ### Parts that were put together -/

/-- A text that is not empty, has no blanks around it and no two spaces in a row. -/
structure IsPart (part : String) : Prop where
  ne_empty : part ≠ ""
  trim_eq : trim part = part
  not_hasGap : ¬HasGap part.toList

/-- A part is a tidy line. -/
theorem IsPart.tidy {part : String} (h : IsPart part) : Tidy part.toList :=
  Text.tidy_toList_iff.2 ⟨h.ne_empty, h.trim_eq⟩

/-- A number of spaces. -/
def spaces (k : Nat) : String :=
  String.ofList (List.replicate k ' ')

/-- Two parts with two spaces or more between them are told apart again. -/
theorem parse_append_spaces {left right : String} (hleft : IsPart left) (hright : IsPart right)
    {k : Nat} (hk : 2 ≤ k) :
    parse (left ++ spaces k ++ right) = ofParts left.toList right.toList := by
  obtain ⟨more, rfl⟩ := Nat.exists_eq_add_of_le' hk
  have hline : (left ++ spaces (more + 2) ++ right).toList =
      left.toList ++ ' ' :: ' ' :: (List.replicate more ' ' ++ right.toList) := by
    simp [spaces, List.replicate_succ]
  -- The spaces beyond the first two belong to the second side and are trimmed off it.
  have hfirst := Text.firstGap_of_tidy hleft.tidy hleft.not_hasGap
    (List.replicate more ' ' ++ right.toList)
  have hblank : ∀ c ∈ List.replicate more ' ', isBlank c = true := by
    intro c hmem
    rw [List.eq_of_mem_replicate hmem]
    rfl
  have hafter : trimChars (List.replicate more ' ' ++ right.toList) = right.toList :=
    (Text.trimChars_blank_append hblank right.toList).trans hright.tidy.trimChars_eq
  have hparts := ofLine_of_ne_nil hfirst (by rw [hleft.tidy.trimChars_eq]; exact hleft.tidy.ne_nil)
    (by rw [hafter]; exact hright.tidy.ne_nil)
  rw [parse, hline, hparts, hleft.tidy.trimChars_eq, hafter]

/-- A postcode and a city with two spaces or more between them are told apart in either order, the
postcode being the part with more digits. If both parts have as many, the second one is the
postcode in both orders. -/
theorem parse_joined {p c : String} (hp : IsPart p) (hc : IsPart c) {k : Nat} (hk : 2 ≤ k) :
    (digitCount c.toList < digitCount p.toList →
      parse (p ++ spaces k ++ c) = ⟨some p, c⟩ ∧ parse (c ++ spaces k ++ p) = ⟨some p, c⟩) ∧
    (digitCount p.toList = digitCount c.toList →
      parse (p ++ spaces k ++ c) = ⟨some c, p⟩ ∧ parse (c ++ spaces k ++ p) = ⟨some p, c⟩) := by
  rw [parse_append_spaces hp hc hk, parse_append_spaces hc hp hk]
  constructor
  · intro hlt
    rw [ofParts_of_lt hlt, ofParts_of_le (Nat.le_of_lt hlt)]
    simp only [String.ofList_toList, and_self]
  -- In a tie the second one is taken in either order, so the two texts give different answers.
  · intro heq
    rw [ofParts_of_le (Nat.le_of_eq heq), ofParts_of_le (Nat.le_of_eq heq.symm)]
    simp only [String.ofList_toList, and_self]

/-- Three spaces between a postcode and a city with single spaces in them, and two parts with one
digit each. -/
theorem parse_joined_threeSpaces :
    IsPart "130 00" ∧ IsPart "Praha 3" ∧ IsPart "5 A" ∧
      parse "130 00   Praha 3" = ⟨some "130 00", "Praha 3"⟩ ∧
      parse "Praha 3   130 00" = ⟨some "130 00", "Praha 3"⟩ ∧
      parse "5 A   Praha 3" = ⟨some "Praha 3", "5 A"⟩ ∧
      parse "Praha 3   5 A" = ⟨some "5 A", "Praha 3"⟩ := by
  have hcode : IsPart "130 00" := ⟨by decide, by decide, by decide⟩
  have hcity : IsPart "Praha 3" := ⟨by decide, by decide, by decide⟩
  have hother : IsPart "5 A" := ⟨by decide, by decide, by decide⟩
  obtain ⟨hfront, hback⟩ := (parse_joined hcode hcity (k := 3) (by decide)).1 (by decide)
  obtain ⟨hright, hleft⟩ := (parse_joined hother hcity (k := 3) (by decide)).2 (by decide)
  exact ⟨hcode, hcity, hother, hfront, hback, hright, hleft⟩

end Locality

end DonationSite.Vat
