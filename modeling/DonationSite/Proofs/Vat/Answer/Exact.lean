import DonationSite.Proofs.Vat.Answer.List
import DonationSite.Proofs.Vat.Answer.Says

/-!
# Decoding accepts exactly the format

## Key results

- `decode_eq_ok_iff`: a text is decoded to an answer exactly if it is a text of that answer
-/

namespace DonationSite.Vat

open Json

/-- An answer is read exactly if an object that says it or a list that holds it stands after
blanks. -/
theorem readAnswer_eq_ok_iff {left rest : List Char} {answer : Answer} :
    readAnswer left = .ok (answer, rest) ↔ ∃ before form, Spaces before ∧
      (ObjectForm form answer ∨ ListForm form answer) ∧ left = before ++ (form ++ rest) := by
  constructor
  · intro h
    unfold readAnswer at h
    split at h
    -- The first character tells the form.
    · next heq =>
      obtain ⟨before, hbefore, rfl⟩ := exists_spaces_of_skipSpace heq
      obtain ⟨members, cs, hmembers, hcompletes, rfl⟩ := readMembers_first_eq_ok_iff.1 h
      exact ⟨before, _, hbefore, .inl ⟨members, hmembers, completes_iff_says.1 hcompletes⟩, rfl⟩
    · next heq =>
      obtain ⟨before, hbefore, rfl⟩ := exists_spaces_of_skipSpace heq
      obtain ⟨cs, hform, rfl⟩ := readList_eq_ok_iff.1 h
      exact ⟨before, _, hbefore, .inr hform, rfl⟩
    · cases h
  · intro hexists
    -- Either form begins with its own character, whatever stands in it.
    obtain ⟨before, form, hbefore, hobject | hlist, rfl⟩ := hexists
    · obtain ⟨members, hmembers, hsays⟩ := hobject
      obtain ⟨body, rfl⟩ := hmembers.exists_body
      rw [List.cons_append, readAnswer, skipSpace_spaces_cons hbefore rfl]
      exact readMembers_first_eq_ok_iff.2 ⟨members, body, hmembers, completes_iff_says.2 hsays, rfl⟩
    · obtain ⟨body, rfl⟩ : ∃ body, form = '[' :: body := by
        obtain ⟨_, _, hitems, -⟩ := hlist
        exact hitems.exists_body
      rw [List.cons_append, readAnswer, skipSpace_spaces_cons hbefore rfl]
      exact readList_eq_ok_iff.2 ⟨body, hlist, rfl⟩

/-- A whole text is read exactly if nothing but blanks is left after the answer. -/
theorem readWhole_eq_ok_iff {text : List Char} {answer : Answer} :
    readWhole text = .ok answer ↔
      ∃ after, Spaces after ∧ readAnswer text = .ok (answer, after) := by
  constructor
  · intro h
    obtain ⟨⟨answer, after⟩, hread, h⟩ := bind_eq_ok_iff.1 h
    dsimp only at h
    split at h
    · next heq =>
      cases h
      exact ⟨after, skipSpace_eq_nil_iff.1 heq, hread⟩
    · exact absurd h failAfter_ne_ok
  · intro hexists
    obtain ⟨after, hafter, hread⟩ := hexists
    refine bind_eq_ok_iff.2 ⟨_, hread, ?_⟩
    dsimp only
    rw [skipSpace_eq_nil_iff.2 hafter]

/-- A text is decoded to an answer exactly if it is a text of that answer. -/
theorem decode_eq_ok_iff {text : String} {answer : Answer} :
    Answer.decode text = .ok answer ↔ AnswerText text.toList answer := by
  -- The location of a failure is no part of an answer.
  have hdecode : Answer.decode text = .ok answer ↔ readWhole text.toList = .ok answer := by
    unfold Answer.decode
    split <;> simp_all
  rw [hdecode, readWhole_eq_ok_iff]
  constructor
  · intro hexists
    obtain ⟨after, hafter, hread⟩ := hexists
    obtain ⟨before, form, hbefore, hform, htext⟩ := readAnswer_eq_ok_iff.1 hread
    exact ⟨before, form, after, hbefore, hafter, hform, htext⟩
  · intro htext
    obtain ⟨before, form, after, hbefore, hafter, hform, heq⟩ := htext
    exact ⟨after, hafter, readAnswer_eq_ok_iff.2 ⟨before, form, hbefore, hform, heq⟩⟩

end DonationSite.Vat
