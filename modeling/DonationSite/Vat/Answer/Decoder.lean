import DonationSite.Json.Location
import DonationSite.Json.Skip
import DonationSite.Json.Value
import DonationSite.Vat.Answer.Basic

/-!
# Reading answers from JSON

An answer is an object whose members may come in any order and among members with other keys, or a
list of the values in the order of `TextField.all`, after the one for validity, where missing
values at the end are absent. `null` means absent too.

## Key results

- `readKey_reads`, `readMember_reads`: each step through an object consumes characters
-/

namespace DonationSite.Vat

open Json

/-! ## The object form -/

/-- The key of the member that says whether the number is valid. -/
def validKey : String := "valid"

/-- What is known of an answer while its members are read. -/
structure Draft where
  /-- The validity, once it was given. -/
  valid : Option Bool := none
  /-- The texts that were given. -/
  given : List TextField := []
  /-- The values of those texts. -/
  answer : Answer := {}

/-- Reads the key of the next member, or the end of the object. -/
def readKey (first : Bool) (left : List Char) : Except Failure (Option String × List Char) :=
  match skipSpace left with
  | [] => failBefore .unfinishedObject []
  | '\x7d' :: rest => .ok (none, rest)
  | '"' :: rest =>
    if first then do
      let (key, left) ← readString rest
      .ok (some key, left)
    else failAfter .noCommaOrBrace ('"' :: rest)
  | c :: rest =>
    if first then failAfter .keyNotString (c :: rest)
    else if c = ',' then
      match skipSpace rest with
      | [] => failBefore .unfinishedValue []
      | '"' :: rest => do
        let (key, left) ← readString rest
        .ok (some key, left)
      | '\x7d' :: rest => failAfter .trailingComma ('\x7d' :: rest)
      | left => failAfter .keyNotString left
    else failAfter .noCommaOrBrace (c :: rest)

/-- The failure of a key that was read before. It points to the place after the blanks that follow
the key, and after a closing brace if one comes next. -/
def duplicate (key : String) (left : List Char) : Failure :=
  match skipSpace left with
  | '\x7d' :: rest => ⟨.duplicateField key, byteLength rest⟩
  | left => ⟨.duplicateField key, byteLength left⟩

/-- Reads the rest of a member after its key. -/
def readMember (draft : Draft) (key : String) (left : List Char) :
    Except Failure (Draft × List Char) :=
  if key = validKey then
    if draft.valid.isSome then .error (duplicate key left)
    else do
      let (_, left) ← skipColon left
      let (value, left) ← readBoolean left
      .ok ({ draft with valid := some value }, left)
  else
    match TextField.all.find? (·.key = key) with
    | some field =>
      if field ∈ draft.given then .error (duplicate key left)
      else do
        let (_, left) ← skipColon left
        let (value, left) ← readOptionalString left
        let given := field :: draft.given
        .ok ({ draft with given := given, answer := draft.answer.set field value }, left)
    | none => do
      let (_, left) ← skipColon left
      let (_, left) ← skipValue left
      .ok (draft, left)

/-- The answer of a draft whose object has ended. -/
def finishDraft (draft : Draft) (left : List Char) : Except Failure (Answer × List Char) :=
  match draft.valid with
  | some valid => .ok ({ draft.answer with valid := valid }, left)
  | none => failBefore (.missingField validKey) left

/-- Reading a key takes characters, also where the object ends instead. -/
theorem readKey_reads (first : Bool) (left : List Char) :
    Reads (readKey first left) left.length := by
  -- Dropping blanks adds no characters, so a key or a closing brace leaves fewer.
  have hspace := length_skipSpace_le left
  unfold readKey
  split
  · exact .failBefore
  · next heq =>
    rw [heq] at hspace
    exact .ok (by simp at hspace; omega)
  · next heq =>
    rw [heq] at hspace
    split
    · exact .bind (readString_reads _) fun _ _ h => .ok (by simp at hspace; omega)
    · exact .failAfter
  · next rest _ _ heq =>
    rw [heq] at hspace
    split
    · exact .failAfter
    · split
      · have hinner := length_skipSpace_le rest
        split
        · exact .failBefore
        · next heq =>
          rw [heq] at hinner
          exact .bind (readString_reads _) fun _ _ h => .ok (by simp at hspace hinner; omega)
        · exact .failAfter
        · exact .failAfter
      · exact .failAfter

/-- Reading the value of a member leaves no more characters than there were. -/
theorem readMember_reads (draft : Draft) (key : String) (left : List Char) :
    Reads (readMember draft key left) (left.length + 1) := by
  unfold readMember
  split
  · split
    · intro _ _ heq
      cases heq
    · exact .bind (skipColon_reads _) fun _ _ _ =>
        .bind (readBoolean_reads _) fun _ _ _ => .ok (by omega)
  · split
    · split
      · intro _ _ heq
        cases heq
      · exact .bind (skipColon_reads _) fun _ _ _ =>
          .bind (readOptionalString_reads _) fun _ _ _ => .ok (by omega)
    · exact .bind (skipColon_reads _) fun _ _ _ =>
        .bind (skipValue_reads _) fun _ _ _ => .ok (by omega)

/-- Reads the members of an object up to its end. -/
def readMembers (draft : Draft) (first : Bool) (left : List Char) :
    Except Failure (Answer × List Char) :=
  match _hkey : readKey first left with
  | .error failure => .error failure
  | .ok (none, left) => finishDraft draft left
  | .ok (some key, afterKey) =>
    match _hmember : readMember draft key afterKey with
    | .error failure => .error failure
    | .ok (draft, left) => readMembers draft false left
termination_by left.length
decreasing_by
  have := readKey_reads _ _ _ _ _hkey
  have := readMember_reads _ _ _ _ _ _hmember
  omega

/-! ## The list form -/

/-- What an answer is called where something else was found. -/
def answerType : String := "struct VatLookupResult"

/-- Goes to the next element of a list, or to its end: false, and what is left after it. -/
def nextElement (first : Bool) (left : List Char) : Except Failure (Bool × List Char) :=
  match skipSpace left with
  | [] => failBefore .unfinishedList []
  | ']' :: rest => .ok (false, rest)
  | c :: rest =>
    if first then .ok (true, c :: rest)
    else if c = ',' then
      match skipSpace rest with
      | [] => failBefore .unfinishedValue []
      | ']' :: rest => failAfter .trailingComma (']' :: rest)
      | left => .ok (true, left)
    else failAfter .noCommaOrBracket (c :: rest)

/-- Reads the end of a list after the last element that an answer has. -/
def readListEnd (left : List Char) : Except Failure (Unit × List Char) :=
  match skipSpace left with
  | [] => failBefore .unfinishedList []
  | ']' :: rest => .ok ((), rest)
  | ',' :: rest =>
    match skipSpace rest with
    | ']' :: rest => failAfter .trailingComma (']' :: rest)
    | left => failAfter .trailingCharacters left
  | left => failAfter .trailingCharacters left

/-- Reads the elements for the given texts up to the end of the list. -/
def readElements (answer : Answer) (left : List Char) :
    List TextField → Except Failure (Answer × List Char)
  | [] => do
    let (_, left) ← readListEnd left
    .ok (answer, left)
  | field :: fields => do
    let (more, left) ← nextElement false left
    if more then
      let (value, left) ← readOptionalString left
      readElements (answer.set field value) left fields
    else .ok (answer, left)

/-- Reads a list after its opening bracket. -/
def readList (left : List Char) : Except Failure (Answer × List Char) := do
  let (more, left) ← nextElement true left
  if more then
    let (valid, left) ← readBoolean left
    readElements { valid := valid } left TextField.all
  else failBefore (.emptyList (answerType ++ " with 7 elements")) left

/-! ## Whole texts -/

/-- Reads an answer after blanks. -/
def readAnswer (left : List Char) : Except Failure (Answer × List Char) :=
  match skipSpace left with
  | '\x7b' :: rest => readMembers {} true rest
  | '[' :: rest => readList rest
  | left => .error (mismatch answerType left)

/-- Reads an answer that must be all there is, apart from blanks. -/
def readWhole (text : List Char) : Except Failure Answer := do
  let (answer, left) ← readAnswer text
  match skipSpace left with
  | [] => .ok answer
  | left => failAfter .trailingCharacters left

/-- Reads an answer from a text. -/
def Answer.decode (text : String) : Except Json.Error Answer :=
  match readWhole text.toList with
  | .ok answer => .ok answer
  | .error failure => .error (failure.locate text.toList)

end DonationSite.Vat
