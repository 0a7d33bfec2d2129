import DonationSite.Json.Number

/-!
# Values of a wanted type

Reading a value of which the type is known beforehand: a boolean, or a string that may be null.
Where a value of another type stands there, it is read far enough to say what it is: scalars in
full, lists and objects not at all (`readFound`).

## Key results

- `readBoolean_reads`, `readOptionalString_reads`: each leaves fewer characters than it is given
-/

namespace DonationSite.Json

/-- Reads what stands at the first character, which is no blank. -/
def readFound (left : List Char) : Except Failure (Found × List Char) :=
  match left with
  | [] => failBefore .unfinishedValue []
  | 'n' :: rest => do
    let (_, left) ← readLetters ['u', 'l', 'l'] rest
    .ok (.null, left)
  | 't' :: rest => do
    let (_, left) ← readLetters ['r', 'u', 'e'] rest
    .ok (.boolean true, left)
  | 'f' :: rest => do
    let (_, left) ← readLetters ['a', 'l', 's', 'e'] rest
    .ok (.boolean false, left)
  | '"' :: rest => do
    let (value, left) ← readString rest
    .ok (.text value, left)
  | '[' :: _ => .ok (.sequence, left)
  | '\x7b' :: _ => .ok (.map, left)
  | '-' :: rest => readNumber true rest
  | c :: _ => if c.isDigit then readNumber false left else failAfter .noValue left

/-- The failure of finding something else than a value of the type wanted. -/
def mismatch (expected : String) (left : List Char) : Failure :=
  match readFound left with
  | .error failure => failure
  | .ok (found, left) => ⟨.wrongType found expected, byteLength left⟩

/-- Reads `true` or `false` after blanks. -/
def readBoolean (left : List Char) : Except Failure (Bool × List Char) :=
  match skipSpace left with
  | 't' :: rest => do
    let (_, left) ← readLetters ['r', 'u', 'e'] rest
    .ok (true, left)
  | 'f' :: rest => do
    let (_, left) ← readLetters ['a', 'l', 's', 'e'] rest
    .ok (false, left)
  | left => .error (mismatch "a boolean" left)

/-- Reads a string, or `null` for none, after blanks. -/
def readOptionalString (left : List Char) : Except Failure (Option String × List Char) :=
  match skipSpace left with
  | 'n' :: rest => do
    let (_, left) ← readLetters ['u', 'l', 'l'] rest
    .ok (none, left)
  | '"' :: rest => do
    let (value, left) ← readString rest
    .ok (some value, left)
  | left => .error (mismatch "a string" left)

/-- Reading a boolean consumes its first letter at least. -/
theorem readBoolean_reads (left : List Char) : Reads (readBoolean left) left.length := by
  have hspace := length_skipSpace_le left
  unfold readBoolean
  split
  · next heq =>
    rw [heq] at hspace
    exact .bind (readLetters_reads _ _) fun _ _ h => .ok (by simp at hspace; omega)
  · next heq =>
    rw [heq] at hspace
    exact .bind (readLetters_reads _ _) fun _ _ h => .ok (by simp at hspace; omega)
  · intro _ _ heq
    cases heq

/-- Reading a string or a null consumes its first character at least. -/
theorem readOptionalString_reads (left : List Char) :
    Reads (readOptionalString left) left.length := by
  have hspace := length_skipSpace_le left
  unfold readOptionalString
  split
  · next heq =>
    rw [heq] at hspace
    exact .bind (readLetters_reads _ _) fun _ _ h => .ok (by simp at hspace; omega)
  · next heq =>
    rw [heq] at hspace
    exact .bind (readString_reads _) fun _ _ h => .ok (by simp at hspace; omega)
  · intro _ _ heq
    cases heq

end DonationSite.Json
