import DonationSite.Proofs.Json.Skip
import DonationSite.Proofs.Vat.Answer.Format

/-!
# Which lists are read as answers

Reading goes through the texts of an answer in their order and sets one for each element, until the
list ends (`Fills`). As no text comes twice, the element at a place is what the text of that place
is in the end (`fills_iff`).

## Key results

- `readList_eq_ok_iff`: a list that is read has the list form, and the answer is what it holds
-/

namespace DonationSite.Vat

open Json

/-! ### Elements -/

/-- A boolean starts like a value, so not like the end of a list. -/
theorem BooleanText.exists_cons {cs : List Char} {value : Bool} (h : BooleanText cs value) :
    ∃ c tail, cs = c :: tail ∧ IsStart c := by
  cases h with
  | yes => exact ⟨'t', _, rfl, by decide⟩
  | no => exact ⟨'f', _, rfl, by decide⟩

/-- So does a string that may be null. -/
theorem OptionalText.exists_cons {cs : List Char} {text : Option String}
    (h : OptionalText cs text) : ∃ c tail, cs = c :: tail ∧ IsStart c := by
  cases h with
  | absent => exact ⟨'n', _, rfl, by decide⟩
  | given hstring =>
    obtain ⟨tail, rfl, -⟩ := hstring.exists_tail
    exact ⟨'"', _, rfl, by decide⟩

/-- A list goes on with its first element after blanks. -/
theorem nextElement_first_sound {left rest : List Char}
    (h : nextElement true left = .ok (true, rest)) :
    ∃ spaces, Spaces spaces ∧ left = spaces ++ rest := by
  unfold nextElement at h
  split at h
  · exact absurd h failBefore_ne_ok
  · cases h
  · next heq =>
    cases h
    exact exists_spaces_of_skipSpace heq

/-- A list goes on with its first element where something stands that a value may start with. -/
theorem nextElement_first_complete {spaces cs : List Char} {c : Char} (hspaces : Spaces spaces)
    (hc : IsStart c) : nextElement true (spaces ++ c :: cs) = .ok (true, c :: cs) := by
  unfold nextElement
  rw [skipSpace_spaces_cons hspaces hc.isSpace]
  split
  · next heq => cases heq
  · next heq =>
    obtain ⟨rfl, -⟩ := List.cons.inj heq
    exact absurd rfl (hc.ne_closer .list)
  · next heq =>
    cases heq
    rfl

/-- After an element, the list ends or goes on with a comma. -/
theorem nextElement_sound {left rest : List Char} {more : Bool}
    (h : nextElement false left = .ok (more, rest)) : ∃ spaces, Spaces spaces ∧
      if more then ∃ before, Spaces before ∧ left = spaces ++ ',' :: (before ++ rest)
      else left = spaces ++ ']' :: rest := by
  unfold nextElement at h
  split at h
  · exact absurd h failBefore_ne_ok
  · next heq =>
    cases h
    exact exists_spaces_of_skipSpace heq
  · next heq =>
    obtain ⟨spaces, hspaces, rfl⟩ := exists_spaces_of_skipSpace heq
    rw [if_neg Bool.false_ne_true] at h
    split at h
    · next hcomma =>
      subst hcomma
      split at h
      · exact absurd h failBefore_ne_ok
      · exact absurd h failAfter_ne_ok
      · cases h
        obtain ⟨before, hbefore, hafter⟩ := exists_spaces _
        exact ⟨spaces, hspaces, before, hbefore, by rw [← hafter]⟩
    · exact absurd h failAfter_ne_ok

/-- A list ends at its bracket, after an element. -/
theorem nextElement_end {spaces : List Char} (hspaces : Spaces spaces) (rest : List Char) :
    nextElement false (spaces ++ ']' :: rest) = .ok (false, rest) := by
  rw [nextElement, skipSpace_spaces_cons hspaces rfl]
  rfl

/-- A list goes on after a comma where something stands that a value may start with. -/
theorem nextElement_comma {spaces before cs : List Char} {c : Char} (hspaces : Spaces spaces)
    (hbefore : Spaces before) (hc : IsStart c) :
    nextElement false (spaces ++ ',' :: (before ++ c :: cs)) = .ok (true, c :: cs) := by
  unfold nextElement
  rw [skipSpace_spaces_cons hspaces rfl]
  split
  · next heq => cases heq
  · next heq => cases heq
  · next heq =>
    cases heq
    rw [if_neg Bool.false_ne_true, if_pos rfl, skipSpace_spaces_cons hbefore hc.isSpace]
    split
    · next heq => cases heq
    · next heq =>
      -- A bracket right after the comma would end the list, but nothing starts with one.
      obtain ⟨rfl, -⟩ := List.cons.inj heq
      exact absurd rfl (hc.ne_closer .list)
    · rfl

/-- A list with all of its elements ends exactly if its bracket stands after blanks. -/
theorem readListEnd_eq_ok_iff {left rest : List Char} :
    readListEnd left = .ok ((), rest) ↔ ∃ spaces, Spaces spaces ∧ left = spaces ++ ']' :: rest := by
  constructor
  · intro h
    unfold readListEnd at h
    split at h
    · exact absurd h failBefore_ne_ok
    · next heq =>
      cases h
      exact exists_spaces_of_skipSpace heq
    -- A comma means one element too many, or a bracket that follows it.
    · split at h <;> exact absurd h failAfter_ne_ok
    · exact absurd h failAfter_ne_ok
  · intro hexists
    obtain ⟨spaces, hspaces, rfl⟩ := hexists
    rw [readListEnd, skipSpace_spaces_cons hspaces rfl]
    rfl

/-! ### All elements -/

/-- What elements make of an answer when they are read for the given texts. -/
inductive Fills : Answer → List TextField → List (List Char) → Answer → Prop where
  | done {answer : Answer} {fields : List TextField} : Fills answer fields [] answer
  | next {answer answer' : Answer} {field : TextField} {fields : List TextField}
    {value : List Char} {text : Option String} {values : List (List Char)} :
    OptionalText value text → Fills (answer.set field text) fields values answer' →
    Fills answer (field :: fields) (value :: values) answer'

/-- What is read as the rest of a list is one, and its elements fill the answer. -/
theorem readElements_sound {answer answer' : Answer} {left rest : List Char}
    {fields : List TextField} (h : readElements answer left fields = .ok (answer', rest)) :
    ∃ values cs, Following ElementText ']' values cs ∧ Fills answer fields values answer' ∧
      left = cs ++ rest := by
  -- The texts that are left decide what is read next, also where the list has ended.
  induction fields generalizing answer left with
  | nil =>
    obtain ⟨⟨⟨⟩, after⟩, hend, h⟩ := bind_eq_ok_iff.1 h
    cases h
    obtain ⟨spaces, hspaces, rfl⟩ := readListEnd_eq_ok_iff.1 hend
    exact ⟨[], _, .close hspaces, .done, by simp⟩
  | cons field fields ih =>
    obtain ⟨⟨more, after⟩, hnext, hafter⟩ := bind_eq_ok_iff.1 h
    obtain ⟨spaces, hspaces, hleft⟩ := nextElement_sound hnext
    cases more with
    -- The list has ended, so the texts that are left stay absent.
    | false =>
      cases hafter
      obtain rfl : left = spaces ++ ']' :: rest := hleft
      exact ⟨[], _, .close hspaces, .done, by simp⟩
    | true =>
      obtain ⟨before, hbefore, rfl⟩ := hleft
      obtain ⟨⟨text, after⟩, hread, hrest⟩ := bind_eq_ok_iff.1 hafter
      obtain ⟨inner, value, hinner, hvalue, rfl⟩ := readOptionalString_eq_ok_iff.1 hread
      obtain ⟨values, cs, hfollowing, hfills, rfl⟩ := ih hrest
      exact ⟨value :: values, _,
        .more hspaces (hbefore.append hinner) (.mk value) hfollowing, .next hvalue hfills, by simp⟩

/-- The rest of a list is read in full, and fills the answer with its elements. -/
theorem readElements_complete {answer answer' : Answer} {fields : List TextField}
    {values : List (List Char)} {cs : List Char} (h : Following ElementText ']' values cs)
    (hfills : Fills answer fields values answer') (rest : List Char) :
    readElements answer (cs ++ rest) fields = .ok (answer', rest) := by
  -- The induction is on what follows in the list, not on the texts.
  induction h generalizing answer fields with
  | close hspaces =>
    obtain ⟨⟩ := hfills
    rw [List.append_assoc]
    cases fields with
    | nil =>
      exact bind_eq_ok_iff.2 ⟨((), rest), readListEnd_eq_ok_iff.2 ⟨_, hspaces, rfl⟩, rfl⟩
    | cons field fields =>
      exact bind_eq_ok_iff.2 ⟨(false, rest), nextElement_end hspaces rest, rfl⟩
  | more hspaces hbefore htext hfollowing ih =>
    obtain ⟨⟩ := htext
    rename_i spaces before value values cs
    cases hfills with
    | next hvalue hfills =>
      have hread : readOptionalString (value ++ (cs ++ rest)) = .ok (_, cs ++ rest) :=
        readOptionalString_eq_ok_iff.2 ⟨[], value, spaces_nil, hvalue, rfl⟩
      obtain ⟨c, tail, rfl, hc⟩ := OptionalText.exists_cons hvalue
      refine bind_eq_ok_iff.2 ⟨(true, c :: tail ++ (cs ++ rest)), ?_, ?_⟩
      · simpa using nextElement_comma hspaces hbefore hc
      · exact bind_eq_ok_iff.2 ⟨_, hread, ih hfills⟩

/-! ### What elements hold -/

/-- What the elements for some texts make of an answer, text by text. -/
structure Filled (answer : Answer) (fields : List TextField) (values : List (List Char))
    (answer' : Answer) : Prop where
  length_le : values.length ≤ fields.length
  valid : answer'.valid = answer.valid
  text : ∀ (i : Nat) (field : TextField), fields[i]? = some field →
    Holds values[i]? (answer'.get field)
  kept : ∀ field, field ∉ fields → answer'.get field = answer.get field

/-- A text without an element is absent. -/
theorem Holds.eq_none {text : Option String} (h : Holds none text) : text = none := by
  cases h
  rfl

/-- Elements that are read in order for different texts make of an answer what they hold, text by
text. -/
theorem fills_iff {answer answer' : Answer} {fields : List TextField} {values : List (List Char)}
    (hnodup : fields.Nodup) (hempty : ∀ field ∈ fields, answer.get field = none) :
    Fills answer fields values answer' ↔ Filled answer fields values answer' := by
  induction values generalizing answer fields with
  | nil =>
    constructor
    · intro h
      obtain ⟨⟩ := h
      refine ⟨Nat.zero_le _, rfl, fun i field hfield => ?_, fun _ _ => rfl⟩
      rw [hempty field (List.mem_of_getElem? hfield)]
      exact .absent
    · intro h
      -- Every text stays what it was: absent if it is one of those left, and else kept.
      obtain rfl : answer' = answer := by
        refine Answer.ext_get h.valid fun field => ?_
        by_cases hmem : field ∈ fields
        · obtain ⟨i, hi⟩ := List.mem_iff_getElem?.1 hmem
          rw [(h.text i field hi).eq_none, hempty field hmem]
        · exact h.kept field hmem
      exact .done
  | cons value values ih =>
    match fields, hnodup, hempty with
    | [], _, _ =>
      constructor
      · nofun
      · intro h
        exact absurd h.length_le (Nat.not_succ_le_zero _)
    -- The first element is for the first text, and the rest of both go together.
    | field :: fields, hnodup, hempty =>
      obtain ⟨hnew, hnodup⟩ := List.nodup_cons.1 hnodup
      have hne {other : TextField} (hmem : other ∈ fields) : other ≠ field :=
        fun heq => hnew (heq ▸ hmem)
      -- Setting the first text leaves the others absent, and later elements leave it as set.
      have hrest (text : Option String) :
          ∀ other ∈ fields, (answer.set field text).get other = none := fun other hmem => by
        rw [Answer.get_set_of_ne _ _ (hne hmem)]
        exact hempty other (List.mem_cons_of_mem _ hmem)
      constructor
      · intro h
        cases h with
        | next hvalue hfills =>
          have hfilled := (ih hnodup (hrest _)).1 hfills
          refine ⟨Nat.succ_le_succ hfilled.length_le, ?_, fun i other hi => ?_, fun other ho => ?_⟩
          · rw [hfilled.valid, Answer.valid_set]
          · cases i with
            | zero =>
              obtain rfl : field = other := Option.some.inj hi
              rw [hfilled.kept field hnew, Answer.get_set_self]
              exact .given hvalue
            | succ i => exact hfilled.text i other hi
          · rw [List.mem_cons, not_or] at ho
            rw [hfilled.kept other ho.2, Answer.get_set_of_ne _ _ ho.1]
      · intro h
        -- What the first text is in the end, the first element holds.
        have hvalue : OptionalText value (answer'.get field) := by
          cases h.text 0 field rfl with
          | given hvalue => exact hvalue
        refine .next hvalue ((ih hnodup (hrest _)).2 ⟨Nat.le_of_succ_le_succ h.length_le, ?_,
          fun i other hi => h.text (i + 1) other hi, fun other ho => ?_⟩)
        · rw [Answer.valid_set, h.valid]
        · by_cases hother : other = field
          · rw [hother, Answer.get_set_self]
          · rw [Answer.get_set_of_ne _ _ hother]
            exact h.kept other (List.not_mem_cons_of_ne_of_not_mem hother ho)

/-- An answer of which only the validity is known has no texts. -/
theorem Answer.get_unknown (valid : Bool) (field : TextField) :
    ({ valid := valid } : Answer).get field = none := by
  cases field <;> rfl

/-- A list that is read has the list form, and the answer is what it holds. -/
theorem readList_eq_ok_iff {left rest : List Char} {answer : Answer} :
    readList left = .ok (answer, rest) ↔ ∃ cs, ListForm ('[' :: cs) answer ∧ left = cs ++ rest := by
  have hfills {valid : Bool} {values : List (List Char)} :
      Fills { valid := valid } TextField.all values answer ↔
        Filled { valid := valid } TextField.all values answer :=
    fills_iff TextField.nodup_all fun field _ => Answer.get_unknown valid field
  constructor
  · intro h
    obtain ⟨⟨more, after⟩, hnext, hafter⟩ := bind_eq_ok_iff.1 h
    cases more with
    | false => exact absurd hafter failBefore_ne_ok
    | true =>
      obtain ⟨before, hbefore, rfl⟩ := nextElement_first_sound hnext
      obtain ⟨⟨valid, after⟩, hread, hrest⟩ := bind_eq_ok_iff.1 hafter
      obtain ⟨inner, value, hinner, hvalue, rfl⟩ := readBoolean_eq_ok_iff.1 hread
      obtain ⟨values, cs, hfollowing, hvalues, rfl⟩ := readElements_sound hrest
      have hfilled := hfills.1 hvalues
      exact ⟨_, ⟨value, values, .items (hbefore.append hinner) (.mk value) hfollowing,
        hfilled.valid ▸ hvalue, hfilled.length_le, hfilled.text⟩, by simp⟩
  · intro hexists
    obtain ⟨cs, ⟨value, values, hitems, hvalue, hlength, htexts⟩, rfl⟩ := hexists
    cases hitems with
    | items hbefore htext hfollowing =>
      obtain ⟨⟩ := htext
      rename_i before cs
      have hread : readBoolean (value ++ (cs ++ rest)) = .ok (answer.valid, cs ++ rest) :=
        readBoolean_eq_ok_iff.2 ⟨[], value, spaces_nil, hvalue, rfl⟩
      -- All texts are among those that elements are read for, so nothing else is kept.
      have hvalues := hfills.2 ⟨hlength, rfl, htexts, fun field hnot => absurd field.mem_all hnot⟩
      obtain ⟨c, tail, rfl, hc⟩ := BooleanText.exists_cons hvalue
      refine bind_eq_ok_iff.2 ⟨(true, c :: tail ++ (cs ++ rest)), ?_, ?_⟩
      · simpa using nextElement_first_complete hbefore hc
      · exact bind_eq_ok_iff.2 ⟨_, hread, readElements_complete hfollowing hvalues rest⟩

end DonationSite.Vat
