import DonationSite.Proofs.Text.Blank
import DonationSite.Proofs.Text.Pieces

/-!
# The lines of a text that are not blank

What stands between the newlines of a text, without the blanks around each line and without blank
lines. The lines before a newline and those after it are found apart (`contentLines_append`), so
that blank characters beside a newline or at either end of the text make no difference.

## Key results

- `contentLines_lines`: it makes no difference whether a carriage return belongs to the line end
- `contentLines_blank_append`, `contentLines_append_blank`: blank characters at either end
- `contentLines_eq_nil_iff`, `contentLines_eq_singleton_iff`: texts without lines and with one
-/

namespace DonationSite.Text

/-- The lines of a text without the blanks around each, blank lines left out. -/
def contentLines (cs : List Char) : List (List Char) :=
  ((split '\n' cs).map trimChars).filter (!·.isEmpty)

variable {cs line : List Char}

/-- The lines before a newline and those after it. -/
theorem contentLines_append (cs rest : List Char) :
    contentLines (cs ++ '\n' :: rest) = contentLines cs ++ contentLines rest := by
  rw [contentLines, split_append_separator, List.map_append, List.filter_append]
  rfl

/-- A text without newlines is one line, if it is not blank. -/
theorem contentLines_of_not_mem (h : '\n' ∉ cs) :
    contentLines cs = [trimChars cs].filter (!·.isEmpty) := by
  rw [contentLines, split_of_not_mem h, List.map_singleton]

/-- A line has no newline in it and neither begins nor ends with a blank character. -/
theorem of_mem_contentLines (h : line ∈ contentLines cs) : Tidy line ∧ '\n' ∉ line := by
  obtain ⟨hmem, hne⟩ := List.mem_filter.1 h
  obtain ⟨piece, hpiece, rfl⟩ := List.mem_map.1 hmem
  refine ⟨tidy_trimChars (by simpa using hne), fun hnewline => ?_⟩
  exact not_mem_of_mem_split hpiece (mem_of_mem_trimChars hnewline)

/-! ### Blank characters at either end -/

/-- A blank character at the front makes no difference. -/
theorem contentLines_cons_blank {c : Char} (hc : isBlank c = true) (cs : List Char) :
    contentLines (c :: cs) = contentLines cs := by
  by_cases hnewline : c = '\n'
  · rw [hnewline]
    exact contentLines_append [] cs
  · -- The character is trimmed off the first line.
    obtain ⟨piece, others, hsplit⟩ := exists_split '\n' cs
    have htrim : trimChars (c :: piece) = trimChars piece :=
      trimChars_blank_append (List.forall_mem_singleton.2 hc) piece
    rw [contentLines, split_cons_of_ne hnewline hsplit, List.map_cons, htrim, ← List.map_cons,
      ← hsplit, contentLines]

/-- Blank characters at the front make no difference. -/
theorem contentLines_blank_append {before : List Char} (h : ∀ c ∈ before, isBlank c = true)
    (cs : List Char) : contentLines (before ++ cs) = contentLines cs := by
  induction before with
  | nil => rfl
  | cons c before ih =>
    rw [List.cons_append, contentLines_cons_blank (h c List.mem_cons_self)]
    exact ih fun d hmem => h d (List.mem_cons_of_mem c hmem)

/-- A blank character at the end makes no difference. -/
theorem contentLines_concat_blank {c : Char} (hc : isBlank c = true) (cs : List Char) :
    contentLines (cs ++ [c]) = contentLines cs := by
  by_cases hnewline : c = '\n'
  · rw [hnewline, contentLines_append]
    exact List.append_nil _
  -- The character ends the last line, so the induction goes from line to line.
  · induction cs using split_induction '\n' with
    | last cs hcs =>
      have hboth : '\n' ∉ cs ++ [c] := by simp [hcs, Ne.symm hnewline]
      have htrim : trimChars (cs ++ [c]) = trimChars cs :=
        trimChars_append_blank (List.forall_mem_singleton.2 hc) cs
      rw [contentLines_of_not_mem hboth, htrim, contentLines_of_not_mem hcs]
    | piece cs rest hcs ih =>
      rw [List.append_assoc, List.cons_append, contentLines_append, ih, contentLines_append]

/-- Blank characters at the end make no difference. -/
theorem contentLines_append_blank {after : List Char} (h : ∀ c ∈ after, isBlank c = true)
    (cs : List Char) : contentLines (cs ++ after) = contentLines cs := by
  -- One character after the other moves to the text, which the induction therefore varies.
  induction after generalizing cs with
  | nil => rw [List.append_nil]
  | cons c after ih =>
    have hrest := ih (fun d hmem => h d (List.mem_cons_of_mem c hmem)) (cs ++ [c])
    rw [List.append_assoc, List.singleton_append] at hrest
    rw [hrest, contentLines_concat_blank (h c List.mem_cons_self)]

/-- Trimming a text does not change its lines. -/
theorem contentLines_trimChars (cs : List Char) :
    contentLines (trimChars cs) = contentLines cs := by
  obtain ⟨before, after, hbefore, hafter, hcut⟩ := exists_trimmed_off cs
  have hlines : contentLines cs = contentLines (before ++ (trimChars cs ++ after)) :=
    congrArg contentLines hcut
  rw [hlines, contentLines_blank_append hbefore, contentLines_append_blank hafter]

/-! ### Texts with few lines -/

/-- A text without lines is blank. -/
theorem trimChars_of_contentLines_nil (h : contentLines cs = []) : trimChars cs = [] := by
  induction cs using split_induction '\n' with
  | last cs hcs =>
    rw [contentLines_of_not_mem hcs] at h
    simpa using h
  | piece cs rest hcs ih =>
    rw [contentLines_append, List.append_eq_nil_iff, contentLines_of_not_mem hcs] at h
    have hfront : trimChars cs = [] := by simpa using h.1
    rw [trimChars_blank_append (trimChars_eq_nil_iff.1 hfront)]
    exact (trimChars_blank_append (List.forall_mem_singleton.2 rfl) rest).trans (ih h.2)

/-- A text has no lines exactly if it is blank. -/
theorem contentLines_eq_nil_iff : contentLines cs = [] ↔ trimChars cs = [] := by
  refine ⟨trimChars_of_contentLines_nil, fun h => ?_⟩
  rw [← contentLines_trimChars, h]
  rfl

/-- A text with one line is that line with blank characters around it. -/
theorem contentLines_eq_singleton_iff :
    contentLines cs = [line] ↔ trimChars cs = line ∧ line ≠ [] ∧ '\n' ∉ line := by
  constructor
  · intro h
    obtain ⟨hline, hnewline⟩ := of_mem_contentLines (h ▸ List.mem_singleton_self line)
    have htidy : Tidy (trimChars cs) := by
      refine tidy_trimChars fun hnil => ?_
      rw [contentLines_eq_nil_iff.2 hnil] at h
      cases h
    rw [← contentLines_trimChars] at h
    -- The trimmed text has the one line too, and it has a newline inside or is that line.
    by_cases hmem : '\n' ∈ trimChars cs
    · obtain ⟨front, back, hcut⟩ := List.append_of_mem hmem
      rw [hcut] at htidy h
      rw [contentLines_append, List.append_eq_singleton_iff] at h
      -- There would be a line before the newline and another after it.
      obtain ⟨hfront, hback⟩ := htidy.sides_ne_nil rfl
      rw [contentLines_eq_nil_iff, contentLines_eq_nil_iff] at h
      exact (h.elim (fun h => hfront h.1) (fun h => hback h.2)).elim
    · rw [contentLines_of_not_mem hmem, trimChars_trimChars] at h
      have hsingle : [trimChars cs] = [line] := by simpa [htidy.ne_nil] using h
      exact ⟨List.singleton_inj.1 hsingle, hline.ne_nil, hnewline⟩
  · rintro ⟨rfl, hne, hnewline⟩
    rw [← contentLines_trimChars, contentLines_of_not_mem hnewline, trimChars_trimChars]
    simpa using hne

/-! ### Line ends -/

/-- A carriage return at the end of a line is trimmed off anyway. -/
theorem trimChars_dropReturn (line : List Char) : trimChars (dropReturn line) = trimChars line := by
  unfold dropReturn
  split
  · next hlast =>
    obtain ⟨front, rfl⟩ := List.getLast?_eq_some_iff.1 hlast
    rw [List.dropLast_concat]
    exact (trimChars_append_blank (List.forall_mem_singleton.2 rfl) front).symm
  · rfl

/-- The lines that the program cuts an address into are these, once they are trimmed and blank ones
are left out. -/
theorem contentLines_lines (cs : List Char) :
    ((lines cs).map trimChars).filter (!·.isEmpty) = contentLines cs := by
  -- A carriage return is blank, and the last piece is left out only if it is empty.
  rw [lines, contentLines]
  generalize split '\n' cs = pieces
  fun_induction finishLines pieces with
  | case1 => rfl
  | case2 last hlast =>
    rw [List.isEmpty_iff.1 hlast]
    rfl
  | case3 => rfl
  | case4 line others _ ih =>
    rw [List.map_cons, List.map_cons, trimChars_dropReturn, List.filter_cons, List.filter_cons, ih]

end DonationSite.Text
