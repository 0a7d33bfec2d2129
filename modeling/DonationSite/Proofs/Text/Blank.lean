import Mathlib.Data.List.TakeWhile
import DonationSite.Text.Blank

/-!
# Blank texts

## Key results

- `isEmpty_trim`: trimming leaves nothing exactly of a text of blank characters
- `trim_append`: blank characters around a text make no difference
- `exists_trimmed_off`: what trimming takes off a text
- `Tidy.after_eq_nil`, `Tidy.sides_ne_nil`: where blank characters stand in a tidy text
-/

namespace DonationSite.Text

/-- Whether a text holds nothing but blank characters. -/
def isBlankText (s : String) : Bool :=
  s.toList.all isBlank

/-- Trimming leaves nothing exactly if all characters are blank. -/
theorem trimChars_eq_nil_iff {cs : List Char} :
    trimChars cs = [] ↔ ∀ c ∈ cs, isBlank c = true := by
  rw [trimChars, List.reverse_eq_nil_iff, List.dropWhile_eq_nil_iff]
  simp only [List.mem_reverse]
  constructor
  · intro h c hmem
    -- What is dropped first is blank, and so is what is dropped of the rest.
    rw [← List.takeWhile_append_dropWhile (p := isBlank) (l := cs)] at hmem
    rcases List.mem_append.1 hmem with hmem | hmem
    · exact List.mem_takeWhile_imp hmem
    · exact h c hmem
  · intro h c hmem
    exact h c ((List.dropWhile_sublist isBlank).mem hmem)

/-- Blank characters around a text are trimmed off with those of the text. -/
theorem trimChars_append {before after : List Char} (hbefore : ∀ c ∈ before, isBlank c = true)
    (hafter : ∀ c ∈ after, isBlank c = true) (cs : List Char) :
    trimChars (before ++ (cs ++ after)) = trimChars cs := by
  by_cases hblank : ∀ c ∈ cs, isBlank c = true
  · -- Nothing is left of either text.
    rw [trimChars_eq_nil_iff.2 hblank, trimChars_eq_nil_iff]
    intro c hmem
    rcases List.mem_append.1 hmem with hmem | hmem
    · exact hbefore c hmem
    · exact (List.mem_append.1 hmem).elim (hblank c) (hafter c)
  -- Something is left once the front is dropped, so the two ends are trimmed apart.
  · have hne : (cs.dropWhile isBlank).isEmpty = false := by
      rwa [List.isEmpty_eq_false_iff, ne_eq, List.dropWhile_eq_nil_iff]
    have hreverse : ∀ c ∈ after.reverse, isBlank c = true := fun c hmem =>
      hafter c (List.mem_reverse.1 hmem)
    rw [trimChars, List.dropWhile_append_of_pos hbefore, List.dropWhile_append, hne,
      if_neg Bool.false_ne_true, List.reverse_append, List.dropWhile_append_of_pos hreverse,
      trimChars]

/-- Blank characters before a text are trimmed off. -/
theorem trimChars_blank_append {before : List Char} (h : ∀ c ∈ before, isBlank c = true)
    (cs : List Char) : trimChars (before ++ cs) = trimChars cs := by
  have := trimChars_append h (List.forall_mem_nil _) cs
  rwa [List.append_nil] at this

/-- Blank characters after a text are trimmed off. -/
theorem trimChars_append_blank {after : List Char} (h : ∀ c ∈ after, isBlank c = true)
    (cs : List Char) : trimChars (cs ++ after) = trimChars cs :=
  trimChars_append (List.forall_mem_nil _) h cs

/-- Blank texts around a text are trimmed off. -/
theorem trim_append {before after : String} (hbefore : isBlankText before = true)
    (hafter : isBlankText after = true) (s : String) : trim (before ++ s ++ after) = trim s := by
  rw [trim, String.toList_append, String.toList_append, List.append_assoc,
    trimChars_append (List.all_eq_true.1 hbefore) (List.all_eq_true.1 hafter), trim]

/-- A text without blank characters is left as it is. -/
theorem trimChars_of_not_blank {cs : List Char} (h : ∀ c ∈ cs, isBlank c = false) :
    trimChars cs = cs := by
  have hdrop {cs : List Char} (h : ∀ c ∈ cs, isBlank c = false) : cs.dropWhile isBlank = cs := by
    cases cs with
    | nil => rfl
    | cons c cs =>
      exact List.dropWhile_cons_of_neg (Bool.eq_false_iff.1 (h c List.mem_cons_self))
  rw [trimChars, hdrop h, hdrop fun c hmem => h c (List.mem_reverse.1 hmem), List.reverse_reverse]

/-- Trimming leaves nothing exactly of a blank text. -/
theorem isEmpty_trim (s : String) : (trim s).isEmpty = isBlankText s := by
  rw [Bool.eq_iff_iff, String.isEmpty_iff, isBlankText, List.all_eq_true, ← trimChars_eq_nil_iff,
    ← toList_trim, String.toList_eq_nil_iff]

/-! ### What trimming leaves -/

/-- Trimming takes blank characters off both ends and nothing else. -/
theorem exists_trimmed_off (cs : List Char) : ∃ before after : List Char,
    (∀ c ∈ before, isBlank c = true) ∧ (∀ c ∈ after, isBlank c = true) ∧
      cs = before ++ (trimChars cs ++ after) := by
  refine ⟨cs.takeWhile isBlank, ((cs.dropWhile isBlank).reverse.takeWhile isBlank).reverse,
    fun c hmem => List.mem_takeWhile_imp hmem,
    fun c hmem => List.mem_takeWhile_imp (List.mem_reverse.1 hmem), ?_⟩
  rw [trimChars, ← List.reverse_append, List.takeWhile_append_dropWhile, List.reverse_reverse,
    List.takeWhile_append_dropWhile]

/-- What trimming leaves was in the text. -/
theorem mem_of_mem_trimChars {c : Char} {cs : List Char} (h : c ∈ trimChars cs) : c ∈ cs := by
  obtain ⟨before, after, -, -, hcut⟩ := exists_trimmed_off cs
  rw [hcut]
  exact List.mem_append_right _ (List.mem_append_left _ h)

/-- Trimming makes no text longer. -/
theorem length_trimChars_le (cs : List Char) : (trimChars cs).length ≤ cs.length := by
  obtain ⟨before, after, -, -, hcut⟩ := exists_trimmed_off cs
  have hlength := congrArg List.length hcut
  simp only [List.length_append] at hlength
  omega

/-- A text that was trimmed is left as it is when it is trimmed again. -/
@[simp] theorem trimChars_trimChars (cs : List Char) : trimChars (trimChars cs) = trimChars cs := by
  obtain ⟨before, after, hbefore, hafter, hcut⟩ := exists_trimmed_off cs
  have htrim := trimChars_append hbefore hafter (trimChars cs)
  rw [← hcut] at htrim
  exact htrim.symm

/-- The same for strings. -/
theorem trim_trim (s : String) : trim (trim s) = trim s := by
  rw [trim, toList_trim, trimChars_trimChars, trim]

/-- A text that is not empty and has no blank character at either end. -/
structure Tidy (cs : List Char) : Prop where
  ne_nil : cs ≠ []
  trimChars_eq : trimChars cs = cs

/-- A string is tidy if it is not empty and trimming leaves it as it is. -/
theorem tidy_toList_iff {s : String} : Tidy s.toList ↔ s ≠ "" ∧ trim s = s := by
  constructor
  · rintro ⟨hne, htrim⟩
    exact ⟨fun h => hne (h ▸ rfl), by rw [trim, htrim, String.ofList_toList]⟩
  · rintro ⟨hne, htrim⟩
    exact ⟨fun h => hne (String.toList_eq_nil_iff.1 h), by rw [← toList_trim, htrim]⟩

/-- What trimming leaves is tidy, unless it leaves nothing. -/
theorem tidy_trimChars {cs : List Char} (h : trimChars cs ≠ []) : Tidy (trimChars cs) :=
  ⟨h, trimChars_trimChars cs⟩

namespace Tidy

variable {cs before after : List Char}

/-- Blank characters around a part of a tidy text would have been trimmed off. -/
private theorem around_eq_nil (h : Tidy (before ++ (cs ++ after)))
    (hbefore : ∀ c ∈ before, isBlank c = true) (hafter : ∀ c ∈ after, isBlank c = true) :
    before = [] ∧ after = [] := by
  -- The text is as long as what trimming leaves of it, so nothing is taken off.
  have hlength := congrArg List.length h.trimChars_eq
  rw [trimChars_append hbefore hafter] at hlength
  simp only [List.length_append] at hlength
  have hle := length_trimChars_le cs
  exact ⟨List.eq_nil_of_length_eq_zero (by omega), List.eq_nil_of_length_eq_zero (by omega)⟩

/-- A tidy text does not begin with blank characters. -/
theorem before_eq_nil (h : Tidy (before ++ cs)) (hbefore : ∀ c ∈ before, isBlank c = true) :
    before = [] := by
  have haround : Tidy (before ++ (cs ++ [])) := by rwa [List.append_nil]
  exact (haround.around_eq_nil hbefore (List.forall_mem_nil _)).1

/-- A tidy text does not end with blank characters. -/
theorem after_eq_nil (h : Tidy (cs ++ after)) (hafter : ∀ c ∈ after, isBlank c = true) :
    after = [] := by
  have haround : Tidy ([] ++ (cs ++ after)) := h
  exact (haround.around_eq_nil (List.forall_mem_nil _) hafter).2

/-- A blank character in a tidy text has something on both sides. -/
theorem sides_ne_nil {c : Char} (h : Tidy (before ++ c :: after)) (hc : isBlank c = true) :
    trimChars before ≠ [] ∧ trimChars after ≠ [] := by
  constructor
  -- Were only blanks before the character, the text would begin with blanks.
  · intro hnil
    have hblank : ∀ d ∈ before ++ [c], isBlank d = true :=
      List.forall_mem_append.2 ⟨trimChars_eq_nil_iff.1 hnil, List.forall_mem_singleton.2 hc⟩
    rw [List.append_cons] at h
    exact absurd (h.before_eq_nil hblank) (by simp)
  · intro hnil
    have hblank : ∀ d ∈ c :: after, isBlank d = true :=
      List.forall_mem_cons.2 ⟨hc, trimChars_eq_nil_iff.1 hnil⟩
    exact absurd (h.after_eq_nil hblank) (List.cons_ne_nil _ _)

end Tidy

end DonationSite.Text
