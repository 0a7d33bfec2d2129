import DonationSite.Proofs.Json.Settled.Number
import DonationSite.Proofs.Json.Settled.Scan
import DonationSite.Proofs.Json.Value

/-!
# Values of a wanted type are settled where they end

A value of another type is read far enough to say what it is, and the failure points to the place
after that. Lists and objects are not read for this, so there the place is before their bracket.

## Key results

- `readBoolean_settles`, `readOptionalString_settles`, `mismatch_settles`
-/

namespace DonationSite.Json

variable {α : Type}

/-- A word that stands for what it means. -/
theorem readWord_settles (letters : List Char) (ascii : ∀ c ∈ letters, c.toNat < 128)
    (meaning : α) : Settles fun left => (do
      let (_, left) ← readLetters letters left
      .ok (meaning, left)) :=
  Settles.map (readLetters_settles letters ascii) fun _ => meaning

/-- What starts with a digit is read as a number. -/
theorem readFound_digit {c : Char} (hc : c.isDigit = true) (left : List Char) :
    readFound (c :: left) = readNumber false (c :: left) := by
  unfold readFound
  split <;> simp_all

/-- Reading what is there instead of a wanted value is settled. -/
theorem readFound_settles : Settles readFound := by
  apply Settles.of_marks (fun c => c ∈ ['n', 't', 'f', '"', '[', '\x7b', '-'] ∨ c.isDigit = true)
    (g := failAfter .noValue) (ascii_of_mark_or_digit (by simp))
  case nil => exact .failBefore_nil _
  case mark =>
    intro m left left' c hc h
    by_cases hdigit : c.isDigit = true
    -- The digit is the first one of the number, so it is not taken before.
    · rw [readFound_digit hdigit, readFound_digit hdigit]
      exact readNumber_settles _ (.cons c h)
    · have hmark := hc.resolve_right hdigit
      simp only [List.mem_cons, List.not_mem_nil, or_false] at hmark
      obtain rfl | rfl | rfl | rfl | rfl | rfl | rfl := hmark
      · exact (readWord_settles ['u', 'l', 'l'] (by simp) _ h).cons 'n'
      · exact (readWord_settles ['r', 'u', 'e'] (by simp) _ h).cons 't'
      · exact (readWord_settles ['a', 'l', 's', 'e'] (by simp) _ h).cons 'f'
      · exact (Settles.map readString_settles Found.text h).cons '"'
      -- Of a container only the opening is looked at, and not taken.
      · exact .ok _ (.cons '[' h)
      · exact .ok _ (.cons '\x7b' h)
      · exact (readNumber_settles _ h).cons '-'
  case rest => exact .failAfter rfl
  case other =>
    intro c left hc
    simp only [List.mem_cons, List.not_mem_nil, or_false, not_or] at hc
    simp [readFound, hc]

/-- The failure about a value of another type is settled after that value. -/
theorem mismatch_settles (expected : String) :
    Settles fun left => (.error (mismatch expected left) : Except Failure (α × List Char)) := by
  -- What is there is read as a value, and only then refused for its type.
  have hmismatch (left : List Char) :
      (.error (mismatch expected left) : Except Failure (α × List Char)) =
        readFound left >>= fun (found, left) => failBefore (.wrongType found expected) left := by
    rw [mismatch]
    split
    · next heq => rw [heq]; rfl
    · next heq => rw [heq]; rfl
  intro n cs ds h
  dsimp only
  rw [hmismatch, hmismatch]
  exact (readFound_settles h).bind fun _ h => .failBefore rfl h

/-- Reading a truth value is settled, also where there is none. -/
theorem readBoolean_settles : Settles readBoolean := by
  apply Settles.of_blanks (fun c => c = 't' ∨ c = 'f')
    (g := fun left => .error (mismatch "a boolean" left)) (by simp)
  case nil => exact mismatch_settles _ (.nothing [] [])
  case blank =>
    intro c left hspace
    rw [readBoolean, skipSpace_of_isSpace hspace]
    rfl
  case mark =>
    rintro m left left' _ (rfl | rfl) h
    · exact (readWord_settles ['r', 'u', 'e'] (by simp) true h).cons 't'
    · exact (readWord_settles ['a', 'l', 's', 'e'] (by simp) false h).cons 'f'
  case rest => exact mismatch_settles _
  case other =>
    intro c left hspace hc
    simp [readBoolean, skipSpace_cons hspace, not_or.1 hc]

/-- Reading a string or `null` is settled, also where neither is there. -/
theorem readOptionalString_settles : Settles readOptionalString := by
  apply Settles.of_blanks (fun c => c = 'n' ∨ c = '"')
    (g := fun left => .error (mismatch "a string" left)) (by simp)
  case nil => exact mismatch_settles _ (.nothing [] [])
  case blank =>
    intro c left hspace
    rw [readOptionalString, skipSpace_of_isSpace hspace]
    rfl
  case mark =>
    rintro m left left' _ (rfl | rfl) h
    · exact (readWord_settles ['u', 'l', 'l'] (by simp) none h).cons 'n'
    · exact (Settles.map readString_settles some h).cons '"'
  case rest => exact mismatch_settles _
  case other =>
    intro c left hspace hc
    simp [readOptionalString, skipSpace_cons hspace, not_or.1 hc]

end DonationSite.Json
