import DonationSite.Binary64.Round
import DonationSite.Json.Scan

/-!
# Numbers

A number is read for its value (`readNumber`) or only passed over (`skipNumber`).

Whole numbers are read exactly as long as they fit 64 bits. All others become floating-point
numbers from a significand of at most 64 bits, where digits that no longer fit count only towards
the exponent, and from rounded powers of ten, with a rounding at each step. The result can
therefore differ in the last place from the number nearest to the literal.

## Key results

- `skipNumber_reads`: passing over a number leaves fewer characters than there were
-/

namespace DonationSite.Json

open Binary64 (Finite)

/-- The largest significand. -/
def maxSignificand : Nat := 0xFFFFFFFFFFFFFFFF

/-- The largest exponent that is read; the digits of a larger one have no effect. -/
def maxExponent : Nat := 0x7FFFFFFF

/-- A number read from digits: its value, how many digits were read, and what is left. -/
structure Run where
  value : Nat
  count : Nat
  left : List Char

/-- Appends decimal digits to a number as long as it stays within a limit. -/
def appendDigits (limit n count : Nat) : List Char → Run
  | [] => ⟨n, count, []⟩
  | c :: rest =>
    let next := 10 * n + (c.toNat - 48)
    if c.isDigit && next ≤ limit then appendDigits limit next (count + 1) rest
    else ⟨n, count, c :: rest⟩

/-- How many decimal digits come first. -/
def countDigits (cs : List Char) : Nat :=
  (cs.takeWhile Char.isDigit).length

/-- What is left after the decimal digits. -/
def skipDigits (cs : List Char) : List Char :=
  cs.dropWhile Char.isDigit

/-- Whether a decimal digit comes first. -/
def startsWithDigit : List Char → Bool
  | c :: _ => c.isDigit
  | [] => false

/-! ## Values -/

/-- Divides by `10^power` in steps of at most `10^308`, rounding each; none beyond the range. -/
def divideByPower? (x : Finite) (power : Nat) : Option Finite :=
  if power ≤ 308 then do x.div? (← Finite.ofDecimal? false 1 power)
  else if x.significand = 0 then some x
  else do
    let smaller ← x.div? (← Finite.ofDecimal? false 1 308)
    divideByPower? smaller (power - 308)
termination_by power

/-- The floating-point number of a significand and a power of ten; none beyond the range. -/
def scale? (significand : Nat) (exponent : Int) : Option Finite := do
  let x ← Finite.ofDecimal? false significand 0
  if exponent < 0 then divideByPower? x exponent.natAbs
  else if exponent ≤ 308 then x.mul? (← Finite.ofDecimal? false 1 exponent)
  else if significand = 0 then some x
  else none

/-- The floating-point number of a sign, a significand and a power of ten. -/
def finishFloat (negative : Bool) (significand : Nat) (exponent : Int) (left : List Char) :
    Except Failure (Found × List Char) :=
  match scale? significand exponent with
  | some x => .ok (.float (if negative then x.negate else x), left)
  | none => failBefore .numberOutOfRange left

/-- Splits off the sign of an exponent; true is minus. -/
def readExponentSign : List Char → Bool × List Char
  | '+' :: rest => (false, rest)
  | '-' :: rest => (true, rest)
  | cs => (false, cs)

/-- Reads the rest of a number after the mark of its exponent. -/
def readExponent (negative : Bool) (significand : Nat) (start : Int) (left : List Char) :
    Except Failure (Found × List Char) :=
  let (down, left) := readExponentSign left
  match left with
  | [] => failBefore .unfinishedValue []
  | c :: rest =>
    if !c.isDigit then failAfter .invalidNumber (c :: rest)
    else
      let run := appendDigits maxExponent 0 0 (c :: rest)
      if startsWithDigit run.left then
        if significand ≠ 0 && !down then failAfter .numberOutOfRange run.left
        else .ok (.float (.zero negative), skipDigits run.left)
      else
        let exponent := if down then start - run.value else start + run.value
        finishFloat negative significand exponent run.left

/-- Reads the exponent of a number if there is one. -/
def readScale (negative : Bool) (significand : Nat) (exponent : Int) (left : List Char) :
    Except Failure (Found × List Char) :=
  match left with
  | [] => finishFloat negative significand exponent []
  | c :: rest =>
    if c = 'e' || c = 'E' then readExponent negative significand exponent rest
    else finishFloat negative significand exponent (c :: rest)

/-- Reads the rest of a number after its point. Digits beyond the significand have no effect. -/
def readFraction (negative : Bool) (significand : Nat) (exponent : Int) (left : List Char) :
    Except Failure (Found × List Char) :=
  let run := appendDigits maxSignificand significand 0 left
  if startsWithDigit run.left then
    readScale negative run.value (exponent - run.count) (skipDigits run.left)
  else if run.count = 0 then
    if run.left.isEmpty then failBefore .unfinishedValue []
    else failAfter .invalidNumber run.left
  else readScale negative run.value (exponent - run.count) run.left

/-- A whole number: a negative one that 64 bits with sign do not hold, or minus zero, is a
floating-point number. -/
def wholeNumber (negative : Bool) (n : Nat) (left : List Char) :
    Except Failure (Found × List Char) :=
  if !negative then .ok (.integer n, left)
  else if 0 < n && n ≤ 1 <<< 63 then .ok (.integer (-n), left)
  else finishFloat true n 0 left

/-- Reads what follows the whole part of a number. `dropped` digits did not fit the
significand. -/
def readAfterWhole (negative : Bool) (significand dropped : Nat) (left : List Char) :
    Except Failure (Found × List Char) :=
  match left with
  | '.' :: rest => readFraction negative significand dropped rest
  | left =>
    match left with
    | 'e' :: _ => readScale negative significand dropped left
    | 'E' :: _ => readScale negative significand dropped left
    | _ =>
      if dropped = 0 then wholeNumber negative significand left
      else finishFloat negative significand dropped left

/-- Reads a number after its sign. -/
def readNumber (negative : Bool) (left : List Char) : Except Failure (Found × List Char) :=
  match left with
  | [] => failBefore .unfinishedValue []
  | '0' :: rest =>
    if startsWithDigit rest then failAfter .invalidNumber rest
    else readAfterWhole negative 0 0 rest
  | c :: rest =>
    if c.isDigit then
      let run := appendDigits maxSignificand (c.toNat - 48) 0 rest
      readAfterWhole negative run.value (countDigits run.left) (skipDigits run.left)
    else failAfter .invalidNumber (c :: rest)

/-! ## Passing over -/

/-- Passes over the rest of a number after the mark of its exponent. -/
def skipExponent (left : List Char) : Except Failure (Unit × List Char) :=
  let (_, left) := readExponentSign left
  if startsWithDigit left then .ok ((), skipDigits left) else failAfter .invalidNumber left

/-- Passes over the exponent of a number if there is one. -/
def skipScale (left : List Char) : Except Failure (Unit × List Char) :=
  match left with
  | 'e' :: rest => skipExponent rest
  | 'E' :: rest => skipExponent rest
  | left => .ok ((), left)

/-- Passes over what follows the whole part of a number. -/
def skipAfterWhole (left : List Char) : Except Failure (Unit × List Char) :=
  match left with
  | '.' :: rest =>
    if startsWithDigit rest then skipScale (skipDigits rest) else failAfter .invalidNumber rest
  | left => skipScale left

/-- Passes over a number after its sign. -/
def skipNumber (left : List Char) : Except Failure (Unit × List Char) :=
  match left with
  | '0' :: rest =>
    if startsWithDigit rest then failAfter .invalidNumber rest else skipAfterWhole rest
  | left =>
    if startsWithDigit left then skipAfterWhole (skipDigits left)
    else failAfter .invalidNumber left

/-! ## Characters consumed -/

/-- Dropping digits does not make a text longer. -/
theorem length_skipDigits_le (cs : List Char) : (skipDigits cs).length ≤ cs.length :=
  (List.dropWhile_sublist _).length_le

/-- Where a digit comes first, dropping digits makes the text shorter. -/
theorem length_skipDigits_lt {cs : List Char} (h : startsWithDigit cs = true) :
    (skipDigits cs).length < cs.length := by
  match cs, h with
  | c :: rest, h =>
    have hc : c.isDigit = true := h
    have := length_skipDigits_le rest
    unfold skipDigits at this ⊢
    simp only [List.dropWhile_cons, hc, ↓reduceIte, List.length_cons]
    omega

/-- A sign is dropped or nothing is. -/
theorem length_readExponentSign_le (cs : List Char) :
    (readExponentSign cs).2.length ≤ cs.length := by
  unfold readExponentSign
  split <;> simp

/-- Passing over an exponent gives no character back. -/
theorem skipScale_reads (left : List Char) : Reads (skipScale left) (left.length + 1) := by
  -- The sign and the digits are both dropped from the front.
  have hexp (rest : List Char) : Reads (skipExponent rest) (rest.length + 1) := by
    have hsign := length_readExponentSign_le rest
    unfold skipExponent
    dsimp only
    split
    · have := length_skipDigits_le (readExponentSign rest).2
      exact .ok (by omega)
    · exact .failAfter
  unfold skipScale
  split
  · exact (hexp _).mono (by simp)
  · exact (hexp _).mono (by simp)
  · exact .ok (Nat.lt_succ_self _)

/-- Passing over what follows the whole part gives no character back either. -/
theorem skipAfterWhole_reads (left : List Char) :
    Reads (skipAfterWhole left) (left.length + 1) := by
  unfold skipAfterWhole
  split
  · next rest =>
    split
    · have := length_skipDigits_le rest
      exact (skipScale_reads _).mono (by simp; omega)
    · exact .failAfter
  · exact skipScale_reads _

/-- A number has a digit at least, so passing over it consumes a character. -/
theorem skipNumber_reads (left : List Char) : Reads (skipNumber left) left.length := by
  unfold skipNumber
  -- A zero is the digit in the first case, the first of several is it in the second.
  split
  · split
    · exact .failAfter
    · exact skipAfterWhole_reads _
  · split
    · next h => exact (skipAfterWhole_reads _).mono (length_skipDigits_lt h)
    · exact .failAfter

end DonationSite.Json
