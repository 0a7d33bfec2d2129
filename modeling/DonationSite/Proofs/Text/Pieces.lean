import DonationSite.Text.Pieces

/-!
# Pieces of texts that were put together

Cutting a text at a separator gives back the pieces that it was made of, as far as the separator is
not in them.

## Key results

- `split_append_separator`, `split_append_cons`: the pieces before and after a separator
- `split_intercalate`: cutting undoes joining
- `not_mem_of_mem_split`: no piece has the separator in it
- `splitFirst_append_cons`, `splitFirst_eq_some_iff`: what stands before and after the first
  separator
-/

namespace DonationSite.Text

variable {separator : Char} {cs rest : List Char}

/-- A separator at the front ends an empty piece. -/
theorem split_cons_self (separator : Char) (rest : List Char) :
    split separator (separator :: rest) = [] :: split separator rest :=
  if_pos rfl

/-- Any other character comes first in the first piece. -/
theorem split_cons_of_ne {c : Char} (hc : c ≠ separator) {piece : List Char}
    {others : List (List Char)} (h : split separator rest = piece :: others) :
    split separator (c :: rest) = (c :: piece) :: others := by
  show split.place separator c (split separator rest) = _
  rw [h, split.place, if_neg hc]

/-- A text without separator is one piece. -/
theorem split_of_not_mem (h : separator ∉ cs) : split separator cs = [cs] := by
  induction cs with
  | nil => rfl
  | cons c cs ih =>
    obtain ⟨hc, hcs⟩ : separator ≠ c ∧ separator ∉ cs := by simpa using h
    exact split_cons_of_ne (Ne.symm hc) (ih hcs)

/-- There is always a first piece. -/
theorem exists_split (separator : Char) (cs : List Char) :
    ∃ piece others, split separator cs = piece :: others := by
  induction cs with
  | nil => exact ⟨[], [], rfl⟩
  | cons c cs ih =>
    obtain ⟨piece, others, h⟩ := ih
    by_cases hc : c = separator
    · rw [hc]
      exact ⟨_, _, split_cons_self separator cs⟩
    · exact ⟨_, _, split_cons_of_ne hc h⟩

/-- The pieces of a text are those before a separator and those after it. -/
theorem split_append_separator (separator : Char) (cs rest : List Char) :
    split separator (cs ++ separator :: rest) = split separator cs ++ split separator rest := by
  induction cs with
  | nil => exact split_cons_self separator rest
  | cons c cs ih =>
    by_cases hc : c = separator
    · rw [hc, List.cons_append, split_cons_self, split_cons_self, ih, List.cons_append]
    -- The character joins the first piece, on both sides.
    · obtain ⟨piece, others, h⟩ := exists_split separator cs
      rw [h, List.cons_append] at ih
      rw [List.cons_append, split_cons_of_ne hc ih, split_cons_of_ne hc h, List.cons_append]

/-- What stands before a separator, and has none in it, is the first piece. -/
theorem split_append_cons (h : separator ∉ cs) (rest : List Char) :
    split separator (cs ++ separator :: rest) = cs :: split separator rest := by
  rw [split_append_separator, split_of_not_mem h, List.singleton_append]

/-- Pieces that were joined with separators are those that the joined text is cut into. -/
theorem split_intercalate {pieces : List (List Char)} (hne : pieces ≠ [])
    (h : ∀ piece ∈ pieces, separator ∉ piece) :
    split separator (List.intercalate [separator] pieces) = pieces := by
  induction pieces with
  | nil => exact absurd rfl hne
  | cons piece others ih =>
    obtain ⟨hpiece, hothers⟩ := List.forall_mem_cons.1 h
    cases others with
    | nil =>
      rw [List.intercalate_singleton]
      exact split_of_not_mem hpiece
    | cons next others =>
      have hrest := ih (List.cons_ne_nil _ _) hothers
      rw [List.intercalate_cons_cons, List.append_assoc, List.singleton_append,
        split_append_cons hpiece, hrest]

/-- Every text has no separator, or begins with a piece that one ends. -/
theorem split_induction {motive : List Char → Prop} (separator : Char)
    (last : ∀ cs, separator ∉ cs → motive cs)
    (piece : ∀ cs rest, separator ∉ cs → motive rest → motive (cs ++ separator :: rest))
    (cs : List Char) : motive cs := by
  -- The first piece grows by one character at a time.
  suffices h : ∀ front, separator ∉ front → motive (front ++ cs) from h [] List.not_mem_nil
  induction cs with
  | nil =>
    intro front hfront
    rw [List.append_nil]
    exact last front hfront
  | cons c cs ih =>
    intro front hfront
    by_cases hc : c = separator
    · rw [hc]
      exact piece front cs hfront (ih [] List.not_mem_nil)
    · have hgrown : separator ∉ front ++ [c] := by simp [hfront, Ne.symm hc]
      have := ih (front ++ [c]) hgrown
      rwa [List.append_assoc] at this

/-- No piece has the separator in it. -/
theorem not_mem_of_mem_split {piece : List Char} (h : piece ∈ split separator cs) :
    separator ∉ piece := by
  induction cs using split_induction separator with
  | last cs hcs =>
    rw [split_of_not_mem hcs, List.mem_singleton] at h
    rwa [h]
  | piece cs rest hcs ih =>
    rw [split_append_cons hcs, List.mem_cons] at h
    rcases h with h | h
    · rwa [h]
    · exact ih h

/-- The first separator is the one after a text that has none. -/
theorem splitFirst_append_cons (h : separator ∉ cs) (rest : List Char) :
    splitFirst separator (cs ++ separator :: rest) = some (cs, rest) := by
  -- The search passes the characters before the separator and stops there.
  have hbefore : ∀ c ∈ cs, (c != separator) = true := by
    intro c hmem
    have hne : c ≠ separator := fun heq => h (heq ▸ hmem)
    simpa using hne
  have hdrop : (cs ++ separator :: rest).dropWhile (· != separator) = separator :: rest := by
    rw [List.dropWhile_append_of_pos hbefore]
    simp
  have htake : (cs ++ separator :: rest).takeWhile (· != separator) = cs := by
    rw [List.takeWhile_append_of_pos hbefore]
    simp
  rw [splitFirst, hdrop, htake]

/-- The first separator cuts a text where no separator stands before it. -/
theorem splitFirst_eq_some_iff {before after : List Char} :
    splitFirst separator cs = some (before, after) ↔
      cs = before ++ separator :: after ∧ separator ∉ before := by
  constructor
  · intro h
    have hcut : cs.takeWhile (· != separator) ++ cs.dropWhile (· != separator) = cs :=
      List.takeWhile_append_dropWhile
    have hnone : separator ∉ cs.takeWhile (· != separator) := by
      intro hmem
      have hpassed : (separator != separator) = true :=
        List.all_eq_true.1 (List.all_takeWhile (p := (· != separator))) separator hmem
      simp at hpassed
    unfold splitFirst at h
    split at h
    · cases h
    · next c rest hdrop =>
      -- What stops the search is the separator.
      have hstop : c = separator := by
        have hhead := List.head?_dropWhile_not (· != separator) cs
        simpa [hdrop] using hhead
      cases h
      rw [hdrop, hstop] at hcut
      exact ⟨hcut.symm, hnone⟩
  · rintro ⟨rfl, hnone⟩
    exact splitFirst_append_cons hnone after

end DonationSite.Text
