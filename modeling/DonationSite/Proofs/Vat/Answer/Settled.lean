import DonationSite.Proofs.Json.Settled.Skip
import DonationSite.Vat.Answer.Decoder

/-!
# Answers are settled where reading them ends

## Key results

- `readAnswer_settles`: an object or a list
-/

namespace DonationSite.Vat

open Json

/-! ### The object form -/

/-- A comma is not a blank. -/
theorem isSpace_comma : isSpace ',' = false := rfl

/-- Reads a key after its opening quote. -/
theorem readKey_quote_settles : Settles fun left => (do
    let (key, left) ← readString left
    .ok (some key, left)) :=
  Settles.map readString_settles some

/-- After a comma there must be a key. -/
theorem readKey_comma_settles : Settles fun left => readKey false (',' :: left) := by
  apply Settles.of_blanks (fun c => c = '\x7d' ∨ c = '"') (g := failAfter .keyNotString) (by simp)
  case nil => exact .failBefore_nil _
  case blank =>
    intro c left hspace
    simp [readKey, skipSpace_cons isSpace_comma, skipSpace_of_isSpace hspace]
  case mark =>
    rintro m left left' _ (rfl | rfl) h
    -- A brace after the comma is refused only behind it.
    · exact .failAfter rfl (.cons '\x7d' h)
    · exact (readKey_quote_settles h).cons '"'
  case rest => exact .failAfter rfl
  case other =>
    intro c left hspace hc
    simp [readKey, skipSpace_cons isSpace_comma, skipSpace_cons hspace, not_or.1 hc]

/-- Where an object goes on, reading a key is settled, before the first member and after any. -/
theorem readKey_settles (first : Bool) : Settles (readKey first) := by
  have hblank {c : Char} {left : List Char} (hspace : isSpace c = true) :
      readKey first (c :: left) = readKey first left := by
    rw [readKey, skipSpace_of_isSpace hspace]
    rfl
  cases first with
  | true =>
    apply Settles.of_blanks (fun c => c = '\x7d' ∨ c = '"') (g := failAfter .keyNotString) (by simp)
    case nil => exact .failBefore_nil _
    case blank => exact hblank
    case mark =>
      rintro m left left' _ (rfl | rfl) h
      · exact (Settled.ok none h).cons '\x7d'
      · exact (readKey_quote_settles h).cons '"'
    case rest => exact .failAfter rfl
    case other =>
      intro c left hspace hc
      simp [readKey, skipSpace_cons hspace, not_or.1 hc]
  | false =>
    apply Settles.of_blanks (fun c => c = '\x7d' ∨ c = ',')
      (g := failAfter .noCommaOrBrace) (by simp)
    case nil => exact .failBefore_nil _
    case blank => exact hblank
    case mark =>
      rintro m left left' _ (rfl | rfl) h
      · exact (Settled.ok none h).cons '\x7d'
      · exact (readKey_comma_settles h).cons ','
    case rest => exact .failAfter rfl
    case other =>
      intro c left hspace hc
      -- A quote starts a key only where no comma has to come first.
      by_cases hquote : c = '"'
      -- On either side the quote is refused before it is read.
      · subst hquote
        rfl
      · simp [readKey, skipSpace_cons hspace, not_or.1 hc]

/-- The failure about a key that comes twice is settled. -/
theorem duplicate_settles {α : Type} (key : String) :
    Settles fun left => (.error (duplicate key left) : Except Failure (α × List Char)) := by
  apply Settles.of_blanks (· = '\x7d') (g := failBefore (.duplicateField key)) (by simp)
  case nil => exact .failBefore_nil _
  case blank =>
    intro c left hspace
    rw [duplicate, skipSpace_of_isSpace hspace]
    rfl
  case mark =>
    rintro m left left' _ rfl h
    exact .cons '\x7d' (.failBefore rfl h)
  case rest => exact .failBefore rfl
  case other =>
    intro c left hspace hc
    simp [duplicate, skipSpace_cons hspace, hc, failBefore]

/-- Reading the value of a member is settled, whether the key is known, known and repeated, or
unknown. -/
theorem readMember_settles (draft : Draft) (key : String) : Settles (readMember draft key) := by
  intro n cs ds h
  unfold readMember
  -- First the validity, then the texts, then a key that is not known.
  split
  · split
    · exact duplicate_settles key h
    · exact (skipColon_settles h).bind fun _ h => (readBoolean_settles h).bind fun _ h => .ok _ h
  · split
    · split
      · exact duplicate_settles key h
      · exact (skipColon_settles h).bind fun _ h =>
          (readOptionalString_settles h).bind fun _ h => .ok _ h
    · exact (skipColon_settles h).bind fun _ h => (skipValue_settles h).bind fun _ h => .ok _ h

/-- An object that ends is an answer or lacks a field; either is settled at its end. -/
theorem finishDraft_settles (draft : Draft) : Settles (finishDraft draft) := by
  intro n cs ds h
  unfold finishDraft
  split
  · exact .ok _ h
  · exact .failBefore rfl h

/-- Reading members is reading a key, then its value, then the other members. -/
theorem readMembers_bind (draft : Draft) (first : Bool) (left : List Char) :
    readMembers draft first left = readKey first left >>= fun (key?, left) =>
      match key? with
      | none => finishDraft draft left
      | some key => readMember draft key left >>= fun (draft, left) =>
        readMembers draft false left := by
  rw [readMembers]
  split
  · next heq => rw [heq]; rfl
  · next heq => rw [heq]; rfl
  · next heq =>
    rw [heq]
    show _ = readMember draft _ _ >>= _
    split
    · next heq => rw [heq]; rfl
    · next heq => rw [heq]; rfl

/-- Reading the members of an object is settled. -/
theorem readMembers_settles (draft : Draft) (first : Bool) :
    Settles (readMembers draft first) := by
  intro n cs ds h
  -- A member is shorter than the object, and so is what is left after it.
  induction hlength : cs.length using Nat.strongRecOn generalizing draft first n cs ds with
  | _ length ih =>
    rw [readMembers_bind, readMembers_bind]
    refine (readKey_settles first h).bind fun {key? left left' m} hkey h => ?_
    -- The induction needs that what is left after the key and its value is shorter.
    have := readKey_reads _ _ _ _ hkey
    match key? with
    | none => exact finishDraft_settles draft h
    | some key =>
      refine (readMember_settles draft key h).bind fun hmember h => ih _ ?_ _ _ h rfl
      have := readMember_reads _ _ _ _ _ hmember
      omega

/-! ### The list form -/

/-- After a comma there must be an element. -/
theorem nextElement_comma_settles : Settles fun left => nextElement false (',' :: left) := by
  apply Settles.of_blanks (· = ']') (g := fun left => .ok (true, left)) (by simp)
  case nil => exact .failBefore_nil _
  case blank =>
    intro c left hspace
    simp [nextElement, skipSpace_cons isSpace_comma, skipSpace_of_isSpace hspace]
  case mark =>
    rintro m left left' _ rfl h
    exact .failAfter rfl (.cons ']' h)
  case rest => exact .ok true
  case other =>
    intro c left hspace hc
    simp [nextElement, skipSpace_cons isSpace_comma, skipSpace_cons hspace, hc]

/-- Whether a list goes on is settled, before the first element and after any. -/
theorem nextElement_settles (first : Bool) : Settles (nextElement first) := by
  have hblank {c : Char} {left : List Char} (hspace : isSpace c = true) :
      nextElement first (c :: left) = nextElement first left := by
    rw [nextElement, skipSpace_of_isSpace hspace]
    rfl
  cases first with
  | true =>
    apply Settles.of_blanks (· = ']') (g := fun left => .ok (true, left)) (by simp)
    case nil => exact .failBefore_nil _
    case blank => exact hblank
    case mark =>
      rintro m left left' _ rfl h
      exact (Settled.ok false h).cons ']'
    case rest => exact .ok true
    case other =>
      intro c left hspace hc
      simp [nextElement, skipSpace_cons hspace]
  | false =>
    apply Settles.of_blanks (fun c => c = ']' ∨ c = ',')
      (g := failAfter .noCommaOrBracket) (by simp)
    case nil => exact .failBefore_nil _
    case blank => exact hblank
    case mark =>
      rintro m left left' _ (rfl | rfl) h
      · exact (Settled.ok false h).cons ']'
      · exact (nextElement_comma_settles h).cons ','
    case rest => exact .failAfter rfl
    case other =>
      intro c left hspace hc
      simp [nextElement, skipSpace_cons hspace, not_or.1 hc]

/-- After a comma there is one element too many, if the list does not end. -/
theorem readListEnd_comma_settles : Settles fun left => readListEnd (',' :: left) := by
  apply Settles.of_blanks (· = ']') (g := failAfter .trailingCharacters) (by simp)
  case nil => exact .failAfter rfl (.nothing [] [])
  case blank =>
    intro c left hspace
    simp [readListEnd, skipSpace_cons isSpace_comma, skipSpace_of_isSpace hspace]
  case mark =>
    rintro m left left' _ rfl h
    exact .failAfter rfl (.cons ']' h)
  case rest => exact .failAfter rfl
  case other =>
    intro c left hspace hc
    simp [readListEnd, skipSpace_cons isSpace_comma, skipSpace_cons hspace, hc]

/-- The end of a list of four elements is settled. -/
theorem readListEnd_settles : Settles readListEnd := by
  apply Settles.of_blanks (fun c => c = ']' ∨ c = ',')
    (g := failAfter .trailingCharacters) (by simp)
  case nil => exact .failBefore_nil _
  case blank =>
    intro c left hspace
    rw [readListEnd, skipSpace_of_isSpace hspace]
    rfl
  case mark =>
    rintro m left left' _ (rfl | rfl) h
    · exact (Settled.ok () h).cons ']'
    · exact (readListEnd_comma_settles h).cons ','
  case rest => exact .failAfter rfl
  case other =>
    intro c left hspace hc
    simp [readListEnd, skipSpace_cons hspace, not_or.1 hc]

/-- Reading the texts of a list is settled. -/
theorem readElements_settles (answer : Answer) (fields : List TextField) :
    Settles fun left => readElements answer left fields := by
  intro n cs ds h
  -- A list may end early, so each element is asked for first.
  induction fields generalizing answer n cs ds with
  | nil => exact (readListEnd_settles h).bind fun _ h => .ok answer h
  | cons field fields ih =>
    refine (nextElement_settles false h).bind fun {more _ _ _} _ h => ?_
    cases more with
    | true => exact (readOptionalString_settles h).bind fun _ h => ih _ h
    | false => exact .ok answer h

/-- Reading a list is settled. -/
theorem readList_settles : Settles readList := by
  intro n cs ds h
  refine (nextElement_settles true h).bind fun {more _ _ _} _ h => ?_
  cases more with
  | true => exact (readBoolean_settles h).bind fun _ h => readElements_settles _ _ h
  | false => exact .failBefore rfl h

/-! ### Whole texts -/

/-- Reading an answer is settled, whether it starts as an object, as a list, or as neither. -/
theorem readAnswer_settles : Settles readAnswer := by
  apply Settles.of_blanks (fun c => c = '\x7b' ∨ c = '[')
    (g := fun left => .error (mismatch answerType left)) (by simp)
  case nil => exact mismatch_settles answerType (.nothing [] [])
  case blank =>
    intro c left hspace
    rw [readAnswer, skipSpace_of_isSpace hspace]
    rfl
  case mark =>
    rintro m left left' _ (rfl | rfl) h
    · exact (readMembers_settles {} true h).cons '\x7b'
    · exact (readList_settles h).cons '['
  case rest => exact mismatch_settles answerType
  case other =>
    intro c left hspace hc
    simp [readAnswer, skipSpace_cons hspace, not_or.1 hc]

/-- Nothing but blanks is left after a whole text. -/
theorem readEnd_settles (answer : Answer) : Settles fun left =>
    match skipSpace left with
    | [] => .ok (answer, [])
    | left => failAfter .trailingCharacters left := by
  apply Settles.of_blanks (fun _ => False) (g := failAfter .trailingCharacters) nofun
  case nil => exact .ok answer (.nothing [] [])
  case blank =>
    intro c left hspace
    rw [skipSpace_of_isSpace hspace]
  case mark => exact fun _ hc => hc.elim
  case rest => exact .failAfter rfl
  case other =>
    intro c left hspace _
    rw [skipSpace_cons hspace]

/-- A whole text is settled where reading it fails. -/
theorem readWhole_settles :
    Settles fun text => (readWhole text).map fun answer => (answer, ([] : List Char)) := by
  intro n cs ds h
  -- Blanks and what follows them are read with what is left of the answer.
  have hwhole (text : List Char) :
      ((readWhole text).map fun answer => (answer, ([] : List Char))) =
        readAnswer text >>= fun read =>
          match skipSpace read.2 with
          | [] => .ok (read.1, [])
          | left => failAfter .trailingCharacters left := by
    rw [readWhole]
    cases readAnswer text with
    | error _ => rfl
    | ok read =>
      simp only [bind, Except.bind]
      cases skipSpace read.2 <;> rfl
  dsimp only
  rw [hwhole, hwhole]
  exact (readAnswer_settles h).bind fun _ h => readEnd_settles _ h

end DonationSite.Vat
