import DonationSite.Json.Number

/-!
# Passing over values

Any JSON value can be passed over, whatever its depth: the lists and objects that are open at a
place are kept on a stack, innermost first, instead of in nested calls.

## Key results

- `skipValue_reads`: passing over a value gives no character back
-/

namespace DonationSite.Json

/-- A list or an object that is open. -/
inductive Container where
  | list
  | object
  deriving DecidableEq, Repr

/-- The character that closes a container. -/
def Container.closer : Container → Char
  | .list => ']'
  | .object => '\x7d'

/-- The failure of a container that the end of the text leaves open. -/
def Container.unfinished : Container → Problem
  | .list => .unfinishedList
  | .object => .unfinishedObject

/-- The failure of finding neither a comma nor the closing character. -/
def Container.noCommaOrCloser : Container → Problem
  | .list => .noCommaOrBracket
  | .object => .noCommaOrBrace

/-- What may come next. -/
inductive Expecting where
  /-- A value. -/
  | value
  /-- The first item of the innermost container, or its end. -/
  | itemOrEnd
  /-- A comma and another item of the innermost container, or its end. -/
  | commaOrEnd
  deriving DecidableEq, Repr

/-- How many more steps may follow before a character is consumed. -/
def Expecting.rank : Expecting → Nat
  | .value => 0
  | .itemOrEnd => 1
  | .commaOrEnd => 0

/-- Passes over a value that is neither a list nor an object. -/
def skipScalar (left : List Char) : Except Failure (Unit × List Char) :=
  match left with
  | [] => failBefore .unfinishedValue []
  | 'n' :: rest => readLetters ['u', 'l', 'l'] rest
  | 't' :: rest => readLetters ['r', 'u', 'e'] rest
  | 'f' :: rest => readLetters ['a', 'l', 's', 'e'] rest
  | '"' :: rest => skipString rest
  | '-' :: rest => skipNumber rest
  | c :: rest => if c.isDigit then skipNumber (c :: rest) else failAfter .noValue (c :: rest)

/-- Passes over a colon after blanks. -/
def skipColon (left : List Char) : Except Failure (Unit × List Char) :=
  match skipSpace left with
  | [] => failBefore .unfinishedObject []
  | ':' :: rest => .ok ((), rest)
  | left => failAfter .noColon left

/-- Passes over what comes before the value of an item: nothing in a list, a key and a colon in an
object. -/
def skipToItem (container : Container) (left : List Char) : Except Failure (Unit × List Char) :=
  match container with
  | .list => .ok ((), left)
  | .object =>
    match skipSpace left with
    | [] => failBefore .unfinishedObject []
    | '"' :: rest => do
      let (_, left) ← skipString rest
      skipColon left
    | left => failAfter .keyNotString left

/-- A scalar has a character at least, so passing over one consumes it. -/
theorem skipScalar_reads (left : List Char) : Reads (skipScalar left) left.length := by
  unfold skipScalar
  split
  · exact .failBefore
  -- The word, the string or the sign consumes the character that tells what comes.
  · exact (readLetters_reads _ _).mono (by simp)
  · exact (readLetters_reads _ _).mono (by simp)
  · exact (readLetters_reads _ _).mono (by simp)
  · exact (skipString_reads _).mono (by simp)
  · exact (skipNumber_reads _).mono (by simp)
  · split
    · exact skipNumber_reads _
    · exact .failAfter

/-- Passing over a colon consumes it. -/
theorem skipColon_reads (left : List Char) : Reads (skipColon left) left.length := by
  have hspace := length_skipSpace_le left
  unfold skipColon
  split
  · exact .failBefore
  · next heq =>
    rw [heq] at hspace
    exact .ok (by simp at hspace; omega)
  · exact .failAfter

/-- Passing over a key gives no character back; before an item of a list nothing is consumed. -/
theorem skipToItem_reads (container : Container) (left : List Char) :
    Reads (skipToItem container left) (left.length + 1) := by
  have hspace := length_skipSpace_le left
  unfold skipToItem
  split
  · exact .ok (Nat.lt_succ_self _)
  · split
    · exact .failBefore
    · next heq =>
      rw [heq] at hspace
      exact .bind (skipString_reads _) fun _ _ h =>
        (skipColon_reads _).mono (by simp at hspace; omega)
    · exact .failAfter

/-- Passes over what is left of the values that are open. -/
def skipOpen (expecting : Expecting) (stack : List Container) (left : List Char) :
    Except Failure (Unit × List Char) :=
  match expecting, stack with
  | .value, stack =>
    match _hspace : skipSpace left with
    | '[' :: rest => skipOpen .itemOrEnd (.list :: stack) rest
    | '\x7b' :: rest => skipOpen .itemOrEnd (.object :: stack) rest
    | start =>
      match _hscalar : skipScalar start with
      | .error failure => .error failure
      | .ok (_, after) => skipOpen .commaOrEnd stack after
  | .itemOrEnd, [] => .ok ((), left)
  | .itemOrEnd, container :: stack =>
    match _hspace : skipSpace left with
    | [] => failBefore container.unfinished []
    | c :: rest =>
      if c = container.closer then skipOpen .commaOrEnd stack rest
      else
        match _hitem : skipToItem container (c :: rest) with
        | .error failure => .error failure
        | .ok (_, after) => skipOpen .value (container :: stack) after
  | .commaOrEnd, [] => .ok ((), left)
  | .commaOrEnd, container :: stack =>
    match _hspace : skipSpace left with
    | [] => failBefore container.unfinished []
    | c :: rest =>
      if c = container.closer then skipOpen .commaOrEnd stack rest
      else if c = ',' then
        match _hitem : skipToItem container rest with
        | .error failure => .error failure
        | .ok (_, after) => skipOpen .value (container :: stack) after
      else failAfter container.noCommaOrCloser (c :: rest)
termination_by (left.length, expecting.rank)
decreasing_by
  all_goals
    have hle := length_skipSpace_le left
    rw [_hspace] at hle
  · exact Prod.Lex.left _ _ (by simp at hle; omega)
  · exact Prod.Lex.left _ _ (by simp at hle; omega)
  · have := skipScalar_reads _ _ _ _hscalar
    exact Prod.Lex.left _ _ (by omega)
  · exact Prod.Lex.left _ _ (by simp at hle; omega)
  · have := skipToItem_reads _ _ _ _ _hitem
    -- Before the first item of a list nothing is consumed, but then a value comes next, which is a
    -- smaller rank.
    rcases Nat.lt_or_ge after.length left.length with h | h
    · exact Prod.Lex.left _ _ h
    · rw [show after.length = left.length by simp at this hle; omega]
      exact Prod.Lex.right _ (by decide)
  · exact Prod.Lex.left _ _ (by simp at hle; omega)
  · have := skipToItem_reads _ _ _ _ _hitem
    exact Prod.Lex.left _ _ (by simp at hle; omega)

/-- Passing over what is open gives no character back, whatever is expected and however much is
open. -/
theorem skipOpen_reads (expecting : Expecting) (stack : List Container) (left : List Char) :
    Reads (skipOpen expecting stack left) (left.length + 1) := by
  have hspace (left : List Char) := length_skipSpace_le left
  fun_induction skipOpen expecting stack left with
  -- Another list or object is opened.
  | case1 left _ _ heq ih
  | case2 left _ _ heq ih =>
    have := hspace left
    exact ih.mono (by simp [heq] at this; omega)
  -- What the step needs cannot be read, so the reading fails.
  | case3 | case8 | case13 =>
    intro _ _ heq
    cases heq
  -- A scalar was passed over, which consumes characters.
  | case4 left _ _ _ _ _ hscalar ih =>
    have := skipScalar_reads _ _ _ hscalar
    have := hspace left
    exact ih.mono (by omega)
  | case5 | case10 => exact .ok (Nat.lt_succ_self _)
  | case6 | case11 => exact .failBefore
  -- The container is closed.
  | case7 left _ _ _ heq ih
  | case12 left _ _ _ heq ih =>
    have := hspace left
    exact ih.mono (by simp [heq] at this; omega)
  -- What stands before the first item is passed over.
  | case9 left _ _ _ _ heq _ _ _ hitem ih =>
    have := skipToItem_reads _ _ _ _ hitem
    have := hspace left
    rw [heq] at this
    exact ih.mono (by omega)
  -- The comma and what stands before the next item are passed over.
  | case14 left _ _ _ _ _ hitem heq _ ih =>
    have := skipToItem_reads _ _ _ _ hitem
    have := hspace left
    exact ih.mono (by simp [heq] at this; omega)
  | case15 => exact .failAfter

/-- Passes over a value after blanks. -/
def skipValue (left : List Char) : Except Failure (Unit × List Char) :=
  skipOpen .value [] left

/-- Passing over a value gives no character back. -/
theorem skipValue_reads (left : List Char) : Reads (skipValue left) (left.length + 1) :=
  skipOpen_reads .value [] left

end DonationSite.Json
