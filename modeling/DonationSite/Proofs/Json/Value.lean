import DonationSite.Json.Skip
import DonationSite.Json.Value
import DonationSite.Proofs.Json.Number

/-!
# What is accepted as a value of a wanted type

Booleans and strings that may be null say where they end, so what follows does not matter. The same
goes for the colon of a member.

## Key results

- `readBoolean_eq_ok_iff`, `readOptionalString_eq_ok_iff`, `skipColon_eq_ok_iff`
-/

namespace DonationSite.Json

/-- A character that is no blank stands where the blanks end. -/
theorem skipSpace_spaces_cons {spaces : List Char} (h : Spaces spaces) {c : Char}
    (hc : isSpace c = false) (cs : List Char) : skipSpace (spaces ++ c :: cs) = c :: cs := by
  rw [skipSpace_append h, skipSpace_cons hc]

/-- What is left after the blanks, with the blanks before it. -/
theorem exists_spaces_of_skipSpace {left cs : List Char} (h : skipSpace left = cs) :
    ∃ spaces, Spaces spaces ∧ left = spaces ++ cs := by
  rw [← h]
  exact exists_spaces left

/-- What is enclosed starts with the character that opens it. -/
theorem Enclosed.exists_body {α : Type} {item : α → List Char → Prop} {opener closer : Char}
    {xs : List α} {cs : List Char} (h : Enclosed item opener closer xs cs) :
    ∃ body, cs = opener :: body := by
  cases h <;> exact ⟨_, rfl⟩

/-- A colon is passed over exactly if only blanks stand before it. -/
theorem skipColon_eq_ok_iff {left rest : List Char} :
    skipColon left = .ok ((), rest) ↔ ∃ spaces, Spaces spaces ∧ left = spaces ++ ':' :: rest := by
  constructor
  · intro h
    unfold skipColon at h
    split at h
    -- Of the three branches only the one with a colon succeeds.
    · exact absurd h failBefore_ne_ok
    · next heq =>
      cases h
      exact exists_spaces_of_skipSpace heq
    · exact absurd h failAfter_ne_ok
  · intro hexists
    obtain ⟨spaces, hspaces, rfl⟩ := hexists
    rw [skipColon, skipSpace_spaces_cons hspaces rfl]
    rfl

/-- A word stands for what it means if its letters are there. -/
theorem readWord_eq_ok_iff {α : Type} {letters left rest : List Char} {meaning value : α} :
    (do
      let (_, left) ← readLetters letters left
      .ok (meaning, left)) = Except.ok (value, rest) ↔
      meaning = value ∧ left = letters ++ rest := by
  constructor
  · intro h
    obtain ⟨⟨⟨⟩, after⟩, hletters, hnext⟩ := bind_eq_ok_iff.1 h
    cases hnext
    exact ⟨rfl, readLetters_eq_ok_iff.1 hletters⟩
  · intro h
    obtain ⟨rfl, hleft⟩ := h
    exact bind_eq_ok_iff.2 ⟨((), rest), readLetters_eq_ok_iff.2 hleft, rfl⟩

/-- A boolean is read exactly if its word stands after blanks. -/
theorem readBoolean_eq_ok_iff {left rest : List Char} {value : Bool} :
    readBoolean left = .ok (value, rest) ↔ ∃ spaces word, Spaces spaces ∧ BooleanText word value ∧
      left = spaces ++ (word ++ rest) := by
  constructor
  · intro h
    unfold readBoolean at h
    split at h
    · next heq =>
      obtain ⟨spaces, hspaces, rfl⟩ := exists_spaces_of_skipSpace heq
      obtain ⟨rfl, rfl⟩ := readWord_eq_ok_iff.1 h
      exact ⟨spaces, _, hspaces, .yes, rfl⟩
    · next heq =>
      obtain ⟨spaces, hspaces, rfl⟩ := exists_spaces_of_skipSpace heq
      obtain ⟨rfl, rfl⟩ := readWord_eq_ok_iff.1 h
      exact ⟨spaces, _, hspaces, .no, rfl⟩
    -- Anything else is a mismatch, which is an error.
    · cases h
  · intro hexists
    obtain ⟨spaces, word, hspaces, hword, rfl⟩ := hexists
    cases hword with
    | yes =>
      rw [List.cons_append, readBoolean, skipSpace_spaces_cons hspaces rfl]
      exact readWord_eq_ok_iff.2 ⟨rfl, rfl⟩
    | no =>
      rw [List.cons_append, readBoolean, skipSpace_spaces_cons hspaces rfl]
      exact readWord_eq_ok_iff.2 ⟨rfl, rfl⟩

/-- A string or a null is read exactly if it stands after blanks. -/
theorem readOptionalString_eq_ok_iff {left rest : List Char} {value : Option String} :
    readOptionalString left = .ok (value, rest) ↔ ∃ spaces cs, Spaces spaces ∧
      OptionalText cs value ∧ left = spaces ++ (cs ++ rest) := by
  constructor
  · intro h
    unfold readOptionalString at h
    split at h
    · next heq =>
      obtain ⟨spaces, hspaces, rfl⟩ := exists_spaces_of_skipSpace heq
      obtain ⟨rfl, rfl⟩ := readWord_eq_ok_iff.1 h
      exact ⟨spaces, _, hspaces, .absent, rfl⟩
    · next heq =>
      obtain ⟨spaces, hspaces, rfl⟩ := exists_spaces_of_skipSpace heq
      obtain ⟨⟨text, after⟩, hstring, hnext⟩ := bind_eq_ok_iff.1 h
      cases hnext
      obtain ⟨cs, hcs, hleft⟩ := readString_eq_ok_iff.1 hstring
      exact ⟨spaces, cs, hspaces, .given hcs, by rw [hleft]⟩
    · cases h
  · intro hexists
    obtain ⟨spaces, cs, hspaces, hcs, rfl⟩ := hexists
    cases hcs with
    | absent =>
      rw [List.cons_append, readOptionalString, skipSpace_spaces_cons hspaces rfl]
      exact readWord_eq_ok_iff.2 ⟨rfl, rfl⟩
    | given hstring =>
      -- The quote tells that a string comes, and its end is told by the string itself.
      obtain ⟨tail, rfl, hread⟩ := hstring.exists_tail
      rw [List.cons_append, readOptionalString, skipSpace_spaces_cons hspaces rfl]
      exact bind_eq_ok_iff.2 ⟨(_, rest), hread rest, rfl⟩

end DonationSite.Json
