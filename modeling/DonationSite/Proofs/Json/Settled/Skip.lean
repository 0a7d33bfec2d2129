import DonationSite.Proofs.Json.Settled.Value
import DonationSite.Proofs.Json.Skip

/-!
# Passing over is settled where it ends

Passing over a value goes from place to place inside of the containers that are open. Each step
looks at no more than it takes, or at the character where it fails.

## Key results

- `skipOpen_settles`, `skipValue_settles`: whatever is open, and so for a value of any depth
-/

namespace DonationSite.Json

/-- Passing over a value that is no container is settled where it ends. -/
theorem skipScalar_settles : Settles skipScalar := by
  apply Settles.of_marks (fun c => c ∈ ['n', 't', 'f', '"', '-'] ∨ c.isDigit = true)
    (g := failAfter .noValue) (ascii_of_mark_or_digit (by simp))
  case nil => exact .failBefore_nil _
  case mark =>
    intro m left left' c hc h
    by_cases hdigit : c.isDigit = true
    · rw [skipScalar_digit hdigit, skipScalar_digit hdigit]
      -- The digit is the first one of the number, so it is not taken before.
      exact skipNumber_settles (.cons c h)
    · have hmark := hc.resolve_right hdigit
      simp only [List.mem_cons, List.not_mem_nil, or_false] at hmark
      -- The letters after the first one of each word, a string, and a number with a sign.
      obtain rfl | rfl | rfl | rfl | rfl := hmark
      · exact (readLetters_settles ['u', 'l', 'l'] (by simp) h).cons 'n'
      · exact (readLetters_settles ['r', 'u', 'e'] (by simp) h).cons 't'
      · exact (readLetters_settles ['a', 'l', 's', 'e'] (by simp) h).cons 'f'
      · exact (skipString_settles h).cons '"'
      · exact (skipNumber_settles h).cons '-'
  case rest => exact .failAfter rfl
  case other =>
    intro c left hc
    simp only [List.mem_cons, List.not_mem_nil, or_false, not_or] at hc
    simp [skipScalar, hc]

/-- Passing over a colon is settled, with the blanks before it. -/
theorem skipColon_settles : Settles skipColon := by
  apply Settles.of_blanks (· = ':') (g := failAfter .noColon) (by simp)
  case nil => exact .failBefore_nil _
  case blank =>
    intro c left hspace
    rw [skipColon, skipSpace_of_isSpace hspace]
    rfl
  case mark =>
    rintro m left left' _ rfl h
    exact (Settled.ok () h).cons ':'
  case rest => exact .failAfter rfl
  case other =>
    intro c left hspace hc
    simp [skipColon, skipSpace_cons hspace, hc]

/-- Passing over what stands before an item is settled: nothing in a list, a key and its colon in an
object. -/
theorem skipToItem_settles (container : Container) : Settles (skipToItem container) := by
  cases container with
  | list => exact .ok ()
  | object =>
    apply Settles.of_blanks (· = '"') (g := failAfter .keyNotString) (by simp)
    case nil => exact .failBefore_nil _
    case blank =>
      intro c left hspace
      rw [skipToItem, skipSpace_of_isSpace hspace]
      rfl
    case mark =>
      rintro m left left' _ rfl h
      exact ((skipString_settles h).bind (g := fun read => skipColon read.2)
        fun _ h => skipColon_settles h).cons '"'
    case rest => exact .failAfter rfl
    case other =>
      intro c left hspace hc
      simp [skipToItem, skipSpace_cons hspace, hc]

/-! ### What is open -/

section Steps

variable (container : Container) (stack : List Container) (left : List Char)

/-- Where a value is due, a container opens, or a value that is none is passed over. -/
theorem skipOpen_value : skipOpen .value stack left =
    match skipSpace left with
    | '[' :: rest => skipOpen .itemOrEnd (.list :: stack) rest
    | '\x7b' :: rest => skipOpen .itemOrEnd (.object :: stack) rest
    | start => skipScalar start >>= fun (_, after) => skipOpen .commaOrEnd stack after := by
  rw [skipOpen]
  split
  · next heq => rw [heq]; rfl
  · next heq => rw [heq]; rfl
  · split
    · next heq => simp [heq]; rfl
    · next heq => simp [heq]; rfl

/-- Right after a container opened it ends, or its first item is due. -/
theorem skipOpen_itemOrEnd : skipOpen .itemOrEnd (container :: stack) left =
    match skipSpace left with
    | [] => failBefore container.unfinished []
    | c :: rest =>
      if c = container.closer then skipOpen .commaOrEnd stack rest
      else skipToItem container (c :: rest) >>= fun (_, after) =>
        skipOpen .value (container :: stack) after := by
  -- Only the outer step is unfolded, not those on the right.
  conv_lhs => rw [skipOpen]
  split
  · next heq => rw [heq]
  · next heq =>
    rw [heq]
    dsimp only
    congr 1
    split
    · next heq => rw [heq]; rfl
    · next heq => rw [heq]; rfl

/-- After an item the container ends, or a comma comes and then the next item. -/
theorem skipOpen_commaOrEnd : skipOpen .commaOrEnd (container :: stack) left =
    match skipSpace left with
    | [] => failBefore container.unfinished []
    | c :: rest =>
      if c = container.closer then skipOpen .commaOrEnd stack rest
      else if c = ',' then skipToItem container rest >>= fun (_, after) =>
        skipOpen .value (container :: stack) after
      else failAfter container.noCommaOrCloser (c :: rest) := by
  conv_lhs => rw [skipOpen]
  split
  · next heq => rw [heq]
  · next heq =>
    rw [heq]
    dsimp only
    congr 2
    split
    · next heq => rw [heq]; rfl
    · next heq => rw [heq]; rfl

end Steps

/-- The bracket and the brace that end containers are ASCII. -/
theorem ascii_closer (container : Container) : container.closer.toNat < 128 := by
  cases container <;> decide

section Open

/-! One step is settled if all are on shorter texts. Only the first item of a list is looked at
without taking anything, and there a value comes next. -/

variable {bound : Nat} (settled : ∀ {n : Nat} {cs ds : List Char} (expecting : Expecting)
  (stack : List Container), cs.length < bound → Agree n cs ds →
  Settled n cs ds (skipOpen expecting stack cs) (skipOpen expecting stack ds))
include settled

variable {n : Nat} {cs ds : List Char}

/-- A step where a value is due is settled, if all steps on shorter texts are. -/
theorem skipOpen_value_settled (stack : List Container) (hle : cs.length ≤ bound)
    (h : Agree n cs ds) :
    Settled n cs ds (skipOpen .value stack cs) (skipOpen .value stack ds) := by
  have hother {c : Char} {left : List Char} (hspace : isSpace c = false)
      (hc : ¬ (c = '[' ∨ c = '\x7b')) : skipOpen .value stack (c :: left) =
        skipScalar (c :: left) >>= fun (_, after) => skipOpen .commaOrEnd stack after := by
    rw [skipOpen_value, skipSpace_cons hspace]
    simp [not_or.1 hc]
  apply h.settled_of_blanks (f := skipOpen .value stack) (fun c => c = '[' ∨ c = '\x7b') (by simp)
  case nil =>
    rw [skipOpen_value]
    exact .failBefore_nil _
  case blank =>
    intro c left hspace
    rw [skipOpen_value, skipOpen_value, skipSpace_of_isSpace hspace]
  case mark =>
    rintro m left left' _ (rfl | rfl) hlt h
    -- An opening bracket takes a character, so the next step is on a shorter text.
    · rw [skipOpen_value, skipOpen_value]
      exact (settled .itemOrEnd (.list :: stack) (Nat.lt_of_lt_of_le hlt hle) h).cons '['
    · rw [skipOpen_value, skipOpen_value]
      exact (settled .itemOrEnd (.object :: stack) (Nat.lt_of_lt_of_le hlt hle) h).cons '\x7b'
  case other =>
    intro m left left' c d hspace hc hspace' hd hlt h
    rw [hother hspace hc, hother hspace' hd]
    refine (skipScalar_settles h).bind fun hread h => settled .commaOrEnd stack ?_ h
    -- So does any other value.
    have hreads := skipScalar_reads _ _ _ hread
    rw [List.length_cons] at hreads
    omega

/-- A step right after a container opened is settled, if all steps on shorter texts are. -/
theorem skipOpen_itemOrEnd_settled (container : Container) (stack : List Container)
    (hle : cs.length ≤ bound) (h : Agree n cs ds) :
    Settled n cs ds (skipOpen .itemOrEnd (container :: stack) cs)
      (skipOpen .itemOrEnd (container :: stack) ds) := by
  have hother {c : Char} {left : List Char} (hspace : isSpace c = false)
      (hc : ¬ c = container.closer) : skipOpen .itemOrEnd (container :: stack) (c :: left) =
        skipToItem container (c :: left) >>= fun (_, after) =>
          skipOpen .value (container :: stack) after := by
    rw [skipOpen_itemOrEnd, skipSpace_cons hspace]
    exact if_neg hc
  apply h.settled_of_blanks (f := skipOpen .itemOrEnd (container :: stack))
    (· = container.closer) (fun _ hc => hc ▸ ascii_closer container)
  case nil =>
    rw [skipOpen_itemOrEnd]
    exact .failBefore_nil _
  case blank =>
    intro c left hspace
    rw [skipOpen_itemOrEnd, skipOpen_itemOrEnd, skipSpace_of_isSpace hspace]
  case mark =>
    rintro m left left' _ rfl hlt h
    have hend (left : List Char) : skipOpen .itemOrEnd (container :: stack)
        (container.closer :: left) = skipOpen .commaOrEnd stack left :=
      skipOpen_firstEnd (skipSpace_cons (isSpace_closer container) left)
    rw [hend, hend]
    exact (settled .commaOrEnd stack (Nat.lt_of_lt_of_le hlt hle) h).cons _
  case other =>
    intro m left left' c d hspace hc hspace' hd hlt h
    rw [hother hspace hc, hother hspace' hd]
    -- In a list nothing stands before the item, so this text may be no shorter.
    refine (skipToItem_settles container h).bind fun hread h =>
      skipOpen_value_settled settled (container :: stack) ?_ h
    have hreads := skipToItem_reads _ _ _ _ hread
    rw [List.length_cons] at hreads
    omega

/-- A step after an item is settled, if all steps on shorter texts are. -/
theorem skipOpen_commaOrEnd_settled (container : Container) (stack : List Container)
    (hle : cs.length ≤ bound) (h : Agree n cs ds) :
    Settled n cs ds (skipOpen .commaOrEnd (container :: stack) cs)
      (skipOpen .commaOrEnd (container :: stack) ds) := by
  -- A comma closes nothing, so the two characters that may come first are told apart.
  have hnoComma : ¬ ',' = container.closer := by cases container <;> decide
  have hother {c : Char} {left : List Char} (hspace : isSpace c = false)
      (hc : ¬ (c = container.closer ∨ c = ',')) :
      skipOpen .commaOrEnd (container :: stack) (c :: left) =
        failAfter container.noCommaOrCloser (c :: left) := by
    obtain ⟨hcloser, hcomma⟩ := not_or.1 hc
    rw [skipOpen_commaOrEnd, skipSpace_cons hspace]
    exact (if_neg hcloser).trans (if_neg hcomma)
  apply h.settled_of_blanks (f := skipOpen .commaOrEnd (container :: stack))
    (fun c => c = container.closer ∨ c = ',')
  case ascii =>
    rintro c (rfl | rfl)
    · exact ascii_closer container
    · decide
  case nil =>
    rw [skipOpen_commaOrEnd]
    exact .failBefore_nil _
  case blank =>
    intro c left hspace
    rw [skipOpen_commaOrEnd, skipOpen_commaOrEnd, skipSpace_of_isSpace hspace]
  case mark =>
    rintro m left left' _ (rfl | rfl) hlt h
    -- The closer ends the container, and a comma leads to its next item.
    · have hend (left : List Char) : skipOpen .commaOrEnd (container :: stack)
          (container.closer :: left) = skipOpen .commaOrEnd stack left :=
        skipOpen_end (skipSpace_cons (isSpace_closer container) left)
      rw [hend, hend]
      exact (settled .commaOrEnd stack (Nat.lt_of_lt_of_le hlt hle) h).cons _
    · have hcomma (left : List Char) : skipOpen .commaOrEnd (container :: stack) (',' :: left) =
          skipToItem container left >>= fun (_, after) =>
            skipOpen .value (container :: stack) after := by
        rw [skipOpen_commaOrEnd]
        exact (if_neg hnoComma).trans (if_pos rfl)
      rw [hcomma, hcomma]
      refine .cons ',' ((skipToItem_settles container h).bind fun hread h =>
        settled .value (container :: stack) ?_ h)
      have hreads := skipToItem_reads _ _ _ _ hread
      omega
  case other =>
    intro m left left' c d hspace hc hspace' hd _ h
    rw [hother hspace hc, hother hspace' hd]
    exact .failAfter (by cases container <;> rfl) h

end Open

/-- Passing over is settled, whatever is expected and whatever is open. -/
theorem skipOpen_settles (expecting : Expecting) (stack : List Container) :
    Settles (skipOpen expecting stack) := by
  intro n cs ds h
  -- Every step takes characters or is followed by one that does, so the induction is on the length.
  induction hlength : cs.length using Nat.strongRecOn generalizing expecting stack n cs ds with
  | _ length ih =>
    have settled {n : Nat} {cs ds : List Char} (expecting : Expecting) (stack : List Container)
        (hlt : cs.length < length) (h : Agree n cs ds) :
        Settled n cs ds (skipOpen expecting stack cs) (skipOpen expecting stack ds) :=
      ih _ hlt expecting stack h rfl
    have hle := Nat.le_of_eq hlength
    match expecting, stack with
    | .value, stack => exact skipOpen_value_settled settled stack hle h
    | .itemOrEnd, [] =>
      rw [skipOpen, skipOpen]
      exact .ok () h
    | .itemOrEnd, container :: stack =>
      exact skipOpen_itemOrEnd_settled settled container stack hle h
    | .commaOrEnd, [] =>
      rw [skipOpen, skipOpen]
      exact .ok () h
    | .commaOrEnd, container :: stack =>
      exact skipOpen_commaOrEnd_settled settled container stack hle h

/-- Passing over a value is settled where it ends. -/
theorem skipValue_settles : Settles skipValue := skipOpen_settles .value []

end DonationSite.Json
