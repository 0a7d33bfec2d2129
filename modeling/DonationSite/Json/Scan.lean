import DonationSite.Json.Failure

/-!
# Scanning strings and words

The leaves of a JSON text other than numbers: blanks, the letters of a word, and strings. A string
is read for its value (`readString`) or only passed over (`skipString`). Passing over checks the
form of the escapes but not whether surrogates come in pairs.

## Key results

- `readString_reads`, `skipString_reads`, `readLetters_reads`: each consumes characters
-/

namespace DonationSite.Json

/-- Whether a character may stand between the parts of a JSON text. -/
def isSpace (c : Char) : Bool :=
  c == ' ' || c == '\t' || c == '\n' || c == '\r'

/-- What is left after the blanks. -/
def skipSpace (cs : List Char) : List Char :=
  cs.dropWhile isSpace

/-- Dropping blanks does not make a text longer. -/
theorem length_skipSpace_le (cs : List Char) : (skipSpace cs).length ≤ cs.length :=
  (List.dropWhile_sublist _).length_le

/-- Reads the given letters. -/
def readLetters : List Char → List Char → Except Failure (Unit × List Char)
  | [], left => .ok ((), left)
  | _ :: _, [] => failBefore .unfinishedValue []
  | letter :: letters, c :: rest =>
    if c = letter then readLetters letters rest else failAfter .noWord (c :: rest)

/-- Reading letters gives no character back. -/
theorem readLetters_reads (letters left : List Char) :
    Reads (readLetters letters left) (left.length + 1) := by
  fun_induction readLetters letters left with
  | case1 => exact .ok (Nat.lt_succ_self _)
  | case2 => exact .failBefore
  | case3 _ _ _ ih => exact ih.mono (by simp)
  | case4 => exact .failAfter

/-! ## Escapes -/

/-- The value of a hexadecimal digit of either case. -/
def hexValue? (c : Char) : Option Nat :=
  if c.isDigit then some (c.toNat - 0x30)
  else if 'a' ≤ c && c ≤ 'f' then some (c.toNat - 0x57)
  else if 'A' ≤ c && c ≤ 'F' then some (c.toNat - 0x37)
  else none

/-- Reads four hexadecimal digits. -/
def readHex4 (left : List Char) : Except Failure (Nat × List Char) :=
  match left with
  | a :: b :: c :: d :: rest =>
    match hexValue? a, hexValue? b, hexValue? c, hexValue? d with
    | some a, some b, some c, some d => .ok (((a * 16 + b) * 16 + c) * 16 + d, rest)
    | _, _, _, _ => bad
  | _ => bad
where
  /-- Four bytes that are no code; fewer are an unfinished string. -/
  bad : Except Failure (Nat × List Char) :=
    if byteLength left < 4 then failBefore .unfinishedString []
    else .error ⟨.invalidEscape, byteLength left - 4⟩

/-- The character that an escape letter stands for. -/
def letterEscape? : Char → Option Char
  | '"' => some '"'
  | '\\' => some '\\'
  | '/' => some '/'
  | 'b' => some '\x08'
  | 'f' => some '\x0c'
  | 'n' => some '\n'
  | 'r' => some '\r'
  | 't' => some '\t'
  | _ => none

/-- Whether a code is the first half of a surrogate pair. -/
def isHighSurrogate (n : Nat) : Bool := 0xD800 ≤ n && n ≤ 0xDBFF

/-- Whether a code is the second half of a surrogate pair. -/
def isLowSurrogate (n : Nat) : Bool := 0xDC00 ≤ n && n ≤ 0xDFFF

/-- The code point of a surrogate pair. -/
def pairPoint (high low : Nat) : Nat :=
  0x10000 + (high - 0xD800) * 0x400 + (low - 0xDC00)

/-- Reads the second half of a surrogate pair, which is an escape of its own. -/
def readSecondHalf (high : Nat) : List Char → Except Failure (Char × List Char)
  | '\\' :: 'u' :: rest => do
    let (low, left) ← readHex4 rest
    if isLowSurrogate low then .ok (Char.ofNat (pairPoint high low), left)
    else failBefore .loneSurrogate left
  | ['\\'] => failBefore .unfinishedString []
  | '\\' :: rest => failAfter .halfPair rest
  | [] => failBefore .unfinishedString []
  | left => failAfter .halfPair left

/-- Reads the rest of an escape by code. -/
def readCodeEscape (left : List Char) : Except Failure (Char × List Char) := do
  let (code, left) ← readHex4 left
  if isLowSurrogate code then failBefore .loneSurrogate left
  else if isHighSurrogate code then readSecondHalf code left
  else .ok (Char.ofNat code, left)

/-- Reads the rest of an escape, for the character it stands for. -/
def readEscape : List Char → Except Failure (Char × List Char)
  | [] => failBefore .unfinishedString []
  | 'u' :: rest => readCodeEscape rest
  | c :: rest =>
    match letterEscape? c with
    | some meant => .ok (meant, rest)
    | none => failAfter .invalidEscape (c :: rest)

/-- Passes over the rest of an escape. -/
def skipEscape : List Char → Except Failure (Unit × List Char)
  | [] => failBefore .unfinishedString []
  | 'u' :: rest => do
    let (_, left) ← readHex4 rest
    .ok ((), left)
  | c :: rest =>
    if (letterEscape? c).isSome then .ok ((), rest) else failAfter .invalidEscape (c :: rest)

/-- Four digits are consumed where a code is read. -/
theorem readHex4_reads (left : List Char) : Reads (readHex4 left) left.length := by
  -- Whether there are too few bytes or the wrong ones, nothing is read.
  have hbad : Reads (readHex4.bad left) left.length := by
    unfold readHex4.bad
    split
    · exact .failBefore
    · intro _ _ heq
      cases heq
  unfold readHex4
  split
  · split
    · exact .ok (by simp; omega)
    · exact hbad
  · exact hbad

/-- The second half of a pair is consumed if it is one. -/
theorem readSecondHalf_reads (high : Nat) (left : List Char) :
    Reads (readSecondHalf high left) left.length := by
  unfold readSecondHalf
  split
  · refine .bind (readHex4_reads _) fun _ _ h => ?_
    dsimp only
    split
    · exact .ok (by simp; omega)
    · exact .failBefore
  · exact .failBefore
  · exact .failAfter
  · exact .failBefore
  · exact .failAfter

/-- An escape consumes its letter at least, also where the reading goes on behind it. -/
theorem readEscape_reads (left : List Char) : Reads (readEscape left) left.length := by
  unfold readEscape
  split
  · exact .failBefore
  -- An escape by code takes its four digits, and six characters more if it needs a second half.
  · refine .bind (readHex4_reads _) fun _ _ h => ?_
    dsimp only
    split
    · exact .failBefore
    · split
      · exact (readSecondHalf_reads _ _).mono (by simp; omega)
      · exact .ok (by simp; omega)
  · split
    · exact .ok (by simp)
    · exact .failAfter

/-- Passing over an escape consumes its letter at least. -/
theorem skipEscape_reads (left : List Char) : Reads (skipEscape left) left.length := by
  unfold skipEscape
  split
  · exact .failBefore
  · exact .bind (readHex4_reads _) fun _ _ h => .ok (by simp; omega)
  · split
    · exact .ok (by simp)
    · exact .failAfter

/-! ## Strings -/

/-- Whether a character must not stand in a string as it is. -/
def isControl (c : Char) : Bool := c.toNat < 0x20

/-- Reads the rest of a string; `done` holds what was read of it, last character first. -/
def readStringFrom (done : List Char) (left : List Char) : Except Failure (String × List Char) :=
  match left with
  | [] => failBefore .unfinishedString []
  | '"' :: rest => .ok (String.ofList done.reverse, rest)
  | '\\' :: rest =>
    match _h : readEscape rest with
    | .error e => .error e
    | .ok (c, after) => readStringFrom (c :: done) after
  | c :: rest =>
    if isControl c then failAfter .controlCharacter (c :: rest)
    else readStringFrom (c :: done) rest
termination_by left.length
decreasing_by
  -- The escape is shorter than what stands behind the backslash, whatever it stands for.
  · have := readEscape_reads rest _ _ _h
    simp; omega
  · simp

/-- Reads the rest of a string, after its opening quote. -/
def readString (left : List Char) : Except Failure (String × List Char) :=
  readStringFrom [] left

/-- Passes over the rest of a string, after its opening quote. -/
def skipString (left : List Char) : Except Failure (Unit × List Char) :=
  match left with
  | [] => failBefore .unfinishedString []
  | '"' :: rest => .ok ((), rest)
  | '\\' :: rest =>
    match _h : skipEscape rest with
    | .error e => .error e
    | .ok (_, after) => skipString after
  | c :: rest =>
    if isControl c then failBefore .controlCharacter (c :: rest) else skipString rest
termination_by left.length
decreasing_by
  · have := skipEscape_reads rest _ _ _h
    simp; omega
  · simp

/-- Reading to the end of a string consumes its closing quote at least. -/
theorem readStringFrom_reads (done left : List Char) :
    Reads (readStringFrom done left) left.length := by
  fun_induction readStringFrom done left with
  | case1 => exact .failBefore
  | case2 => exact .ok (by simp)
  | case3 =>
    intro _ _ heq
    cases heq
  -- An escape consumes characters, and so does the rest of the string.
  | case4 _ _ _ _ h ih =>
    have := readEscape_reads _ _ _ h
    exact ih.mono (by simp; omega)
  | case5 => exact .failAfter
  | case6 _ _ _ _ _ _ ih => exact ih.mono (by simp)

/-- Reading a string consumes characters, which is what the readers of members and elements need to
come to an end. -/
theorem readString_reads (left : List Char) : Reads (readString left) left.length :=
  readStringFrom_reads [] left

/-- Passing over a string consumes its closing quote at least. -/
theorem skipString_reads (left : List Char) : Reads (skipString left) left.length := by
  fun_induction skipString left with
  | case1 => exact .failBefore
  | case2 => exact .ok (by simp)
  | case3 =>
    intro _ _ heq
    cases heq
  | case4 _ _ _ h ih =>
    have := skipEscape_reads _ _ _ h
    exact ih.mono (by simp; omega)
  | case5 => exact .failBefore
  | case6 _ _ _ _ _ ih => exact ih.mono (by simp)

end DonationSite.Json
