import DonationSite.Proofs.Json.Number
import DonationSite.Proofs.Json.Settled.Basic

/-!
# Numbers are settled where they end

A number does not say where it ends, so it takes a look at the character after it. The reading ends
before that character, and so does not end within the bytes that agree unless its first byte is one
of them, which tells whether it belongs to the number.

## Key results

- `readNumber_settles`, `skipNumber_settles`
-/

namespace DonationSite.Json

variable {α : Type} {n : Nat} {cs ds : List Char}

/-! ### Digits -/

/-- Digits are ASCII. -/
theorem ascii_of_isDigit (c : Char) (h : c.isDigit = true) : c.toNat < 128 := by
  have hle := (Char.isDigit_iff_toNat.1 h).2
  have : '9'.toNat < 128 := by decide
  omega

/-- Where some ASCII characters count for a reader, and the digits, all that count are ASCII. -/
theorem ascii_of_mark_or_digit {marks : List Char} (hmarks : ∀ c ∈ marks, c.toNat < 128) (c : Char)
    (h : c ∈ marks ∨ c.isDigit = true) : c.toNat < 128 :=
  h.elim (hmarks c) (ascii_of_isDigit c)

/-- Whether a digit comes first is told by the first byte. -/
theorem Agree.settled_ite {a a' b b' : Except Failure (α × List Char)} (h : Agree n cs ds)
    (hyes : Settled n cs ds a a') (hno : Settled n cs ds b b') :
    Settled n cs ds (if startsWithDigit cs then a else b)
      (if startsWithDigit ds then a' else b') := by
  cases h with
  | nothing =>
    -- Nothing is known of the other text, so only its own reading is at stake.
    split
    · exact hyes.nothing
    · exact hno.nothing
  | @cons c _ left left' h =>
    have hsame : startsWithDigit (c :: left) = startsWithDigit (c :: left') := rfl
    rw [hsame]
    split
    · exact hyes
    · exact hno
  | cut hc hd =>
    -- The characters may differ, but neither of them is ASCII.
    have hother {c : Char} (hc : 128 ≤ c.toNat) (cs : List Char) :
        ¬ startsWithDigit (c :: cs) = true :=
      fun hdigit => absurd (ascii_of_isDigit c hdigit) (Nat.not_lt.2 hc)
    rw [if_neg (hother hc _), if_neg (hother hd _)]
    exact hno

/-- A run of digits is settled where it ends: how many there are, and what is left. -/
theorem digits_settled (h : Agree n cs ds) : Settled n cs ds
    (.ok (countDigits cs, skipDigits cs)) (.ok (countDigits ds, skipDigits ds)) := by
  -- Every digit takes a character, so the induction is on the length.
  induction hlength : cs.length using Nat.strongRecOn generalizing n cs ds with
  | _ length ih =>
    subst hlength
    apply h.settled (f := fun left => .ok (countDigits left, skipDigits left))
      (fun c => c.isDigit = true) ascii_of_isDigit
    case nil => exact .ok 0 (.nothing [] [])
    case mark =>
      intro m left left' c hc hlt h
      have hmark (left : List Char) : countDigits (c :: left) = countDigits left + 1 ∧
          skipDigits (c :: left) = skipDigits left := by
        simp [countDigits, skipDigits, hc]
      simp only [hmark]
      exact ((ih _ hlt h rfl).bind (g := fun read => .ok (read.1 + 1, read.2))
        fun _ h => .ok _ h).cons c
    case other =>
      intro m left left' c d hc hd _ h
      -- At any other character the run ends, before the character itself.
      have hother {c : Char} (hc : ¬ c.isDigit = true) (left : List Char) :
          countDigits (c :: left) = 0 ∧ skipDigits (c :: left) = c :: left := by
        simp [countDigits, skipDigits, hc]
      simp only [hother hc, hother hd]
      exact .ok 0 h

/-- A reader is settled if it reads on after the digits that come first. -/
theorem Settles.afterDigits {f : List Char → Except Failure (α × List Char)} (hf : Settles f) :
    Settles fun left => f (skipDigits left) := by
  intro n cs ds h
  exact (digits_settled h).bind (g := fun read => f read.2) fun _ h => hf h

/-- A run of digits up to a limit is settled where it ends, with its value and its length. -/
theorem appendDigits_settled (limit value count : Nat) (h : Agree n cs ds) :
    let run := appendDigits limit value count cs
    let run' := appendDigits limit value count ds
    Settled n cs ds (.ok ((run.value, run.count), run.left))
      (.ok ((run'.value, run'.count), run'.left)) := by
  dsimp only
  induction hlength : cs.length using Nat.strongRecOn generalizing n value count cs ds with
  | _ length ih =>
    subst hlength
    apply h.settled (f := fun left => let run := appendDigits limit value count left
      .ok ((run.value, run.count), run.left)) (fun c => c.isDigit = true) ascii_of_isDigit
    case nil => exact .ok _ (.nothing [] [])
    case mark =>
      -- A digit that no longer fits the limit is left where it is.
      intro m left left' c hc hlt h
      simp only [appendDigits, hc, Bool.true_and]
      split
      · exact (ih _ hlt _ _ h rfl).cons c
      · exact .ok _ (.cons c h)
    case other =>
      intro m left left' c d hc hd _ h
      have hother {c : Char} (hc : ¬ c.isDigit = true) (left : List Char) :
          appendDigits limit value count (c :: left) = ⟨value, count, c :: left⟩ := by
        simp [appendDigits, hc]
      simp only [hother hc, hother hd]
      exact .ok _ h

/-- A reader is settled if it reads on after a run of digits and depends on nothing else than its
value and its length. -/
theorem Settled.afterRun {run run' : Run} {g : Run → Except Failure (α × List Char)}
    (h : Settled n cs ds (.ok ((run.value, run.count), run.left))
      (.ok ((run'.value, run'.count), run'.left)))
    (hg : ∀ {m left'}, Agree m run.left left' →
      Settled m run.left left' (g run) (g { run with left := left' })) :
    Settled n cs ds (g run) (g run') := by
  refine h.next (hg (.nothing _ _)) fun heq h => ?_
  obtain ⟨hvalue, hcount⟩ := Prod.mk.inj heq
  have hsettled := hg h
  rwa [hvalue, hcount] at hsettled

/-- The sign of an exponent is settled, also where there is none. -/
theorem readExponentSign_settles :
    Settles fun left => .ok ((readExponentSign left).1, (readExponentSign left).2) := by
  apply Settles.of_marks (fun c => c = '+' ∨ c = '-') (g := fun left => .ok (false, left)) (by simp)
  case nil => exact .ok _ (.nothing [] [])
  case mark =>
    rintro m left left' _ (rfl | rfl) h
    · exact (Settled.ok false h).cons '+'
    · exact (Settled.ok true h).cons '-'
  case rest => exact .ok false
  case other =>
    intro c left hc
    simp [readExponentSign, not_or.1 hc]

/-! ### Values -/

/-- What a number is worth does not depend on what follows it. -/
theorem finishFloat_settles (negative : Bool) (significand : Nat) (exponent : Int) :
    Settles (finishFloat negative significand exponent) := by
  intro n cs ds h
  unfold finishFloat
  split
  · exact .ok _ h
  · exact .failBefore rfl h

/-- Reading an exponent is settled where its digits end. -/
theorem readExponent_settles (negative : Bool) (significand : Nat) (start : Int) :
    Settles (readExponent negative significand start) := by
  intro n cs ds h
  have hsign := readExponentSign_settles h
  dsimp only at hsign
  -- The sign is read first, and what comes after depends on nothing but it.
  unfold readExponent
  generalize readExponentSign cs = p at hsign ⊢
  generalize readExponentSign ds = q at hsign ⊢
  apply hsign.andThen (p := p) (q := q)
  obtain ⟨down, left⟩ := p
  rintro m ⟨_, left'⟩ rfl h
  dsimp only at h ⊢
  apply h.settled (fun c => c.isDigit = true) ascii_of_isDigit
  case nil => exact .failBefore_nil _
  case mark =>
    intro m left left' c hc _ h
    have hrun := appendDigits_settled maxExponent 0 0 (.cons c h)
    -- At least one digit is there, so reading does not fail for want of one.
    have hnot : ¬ (!c.isDigit) = true := by simp [hc]
    dsimp only at hrun ⊢
    rw [if_neg hnot, if_neg hnot]
    generalize appendDigits maxExponent 0 0 (c :: left) = run at hrun ⊢
    generalize appendDigits maxExponent 0 0 (c :: left') = run' at hrun ⊢
    apply hrun.afterRun
    intro m left' h
    dsimp only
    -- A digit that is left is one that no longer fits: the number is zero, or out of range.
    refine h.settled_ite ?_ (finishFloat_settles _ _ _ h)
    split
    · exact .failAfter rfl h
    · exact Settles.afterDigits (f := fun left => .ok (_, left)) (.ok _) h
  case other =>
    intro m left left' c d hc hd _ h
    have hnot {c : Char} (hc : ¬ c.isDigit = true) : (!c.isDigit) = true := by simp [hc]
    dsimp only
    rw [if_pos (hnot hc), if_pos (hnot hd)]
    exact .failAfter rfl h

/-- A scale is settled, whether an exponent follows or not. -/
theorem readScale_settles (negative : Bool) (significand : Nat) (exponent : Int) :
    Settles (readScale negative significand exponent) := by
  apply Settles.of_marks (fun c => c = 'e' ∨ c = 'E')
    (g := finishFloat negative significand exponent) (by simp)
  case nil => exact finishFloat_settles _ _ _ (.nothing [] [])
  case mark =>
    rintro m left left' _ (rfl | rfl) h
    · exact (readExponent_settles _ _ _ h).cons 'e'
    · exact (readExponent_settles _ _ _ h).cons 'E'
  case rest => exact finishFloat_settles _ _ _
  case other =>
    intro c left hc
    exact if_neg (by simpa using hc)

/-- Reading a fraction is settled where its digits end, and where there are none. -/
theorem readFraction_settles (negative : Bool) (significand : Nat) (exponent : Int) :
    Settles (readFraction negative significand exponent) := by
  intro n cs ds h
  have hrun := appendDigits_settled maxSignificand significand 0 h
  unfold readFraction
  dsimp only at hrun ⊢
  -- The digits that fit are read first, and what comes after depends on their value and number.
  generalize appendDigits maxSignificand significand 0 cs = run at hrun ⊢
  generalize appendDigits maxSignificand significand 0 ds = run' at hrun ⊢
  apply hrun.afterRun
  intro m left' h
  obtain ⟨value, count, left⟩ := run
  dsimp only at h ⊢
  refine h.settled_ite ?_ ?_
  · exact Settles.afterDigits (readScale_settles _ _ _) h
  · split
    -- No digit follows the point, so a text that goes on is wrong at whatever is next.
    · apply h.settled (fun _ => False) nofun
      case nil => exact .failBefore_nil _
      case mark => exact fun _ hc => hc.elim
      case other => exact fun _ _ _ _ _ h => .failAfter rfl h
    · exact readScale_settles _ _ _ h

/-- A number without fraction and exponent is settled where it ends. -/
theorem wholeNumber_settles (negative : Bool) (value : Nat) :
    Settles (wholeNumber negative value) := by
  intro n cs ds h
  unfold wholeNumber
  split
  · exact .ok _ h
  · split
    · exact .ok _ h
    · exact finishFloat_settles _ _ _ h

/-- What follows the whole digits of a number is settled: a fraction, an exponent, or the end. -/
theorem readAfterWhole_settles (negative : Bool) (significand dropped : Nat) :
    Settles (readAfterWhole negative significand dropped) := by
  -- At any other character the number ends, and only its digits say what it is worth.
  have hend : Settles fun left =>
      if dropped = 0 then wholeNumber negative significand left
      else finishFloat negative significand dropped left := by
    intro n cs ds h
    dsimp only
    split
    · exact wholeNumber_settles _ _ h
    · exact finishFloat_settles _ _ _ h
  apply Settles.of_marks (fun c => c = '.' ∨ c = 'e' ∨ c = 'E')
  case ascii => simp
  case nil => exact hend (.nothing [] [])
  case mark =>
    rintro m left left' _ (rfl | rfl | rfl) h
    · exact (readFraction_settles _ _ _ h).cons '.'
    · exact readScale_settles _ _ _ (.cons 'e' h)
    · exact readScale_settles _ _ _ (.cons 'E' h)
  case rest => exact hend
  case other =>
    intro c left hc
    simp only [not_or] at hc
    simp [readAfterWhole, hc]

/-- Reading a number is settled where it ends. -/
theorem readNumber_settles (negative : Bool) : Settles (readNumber negative) := by
  apply Settles.of_marks (fun c => c.isDigit = true) (g := failAfter .invalidNumber)
    ascii_of_isDigit
  case nil => exact .failBefore_nil _
  case mark =>
    intro m left left' c hc h
    refine .cons c ?_
    by_cases hzero : c = '0'
    -- No digit may follow a zero at the front.
    · subst hzero
      exact h.settled_ite (.failAfter rfl h) (readAfterWhole_settles _ _ _ h)
    · have hmark (left : List Char) : readNumber negative (c :: left) =
          let run := appendDigits maxSignificand (c.toNat - 48) 0 left
          readAfterWhole negative run.value (countDigits run.left) (skipDigits run.left) := by
        simp [readNumber, hc]
      have hrun := appendDigits_settled maxSignificand (c.toNat - 48) 0 h
      rw [hmark, hmark]
      dsimp only at hrun ⊢
      generalize appendDigits maxSignificand (c.toNat - 48) 0 left = run at hrun ⊢
      generalize appendDigits maxSignificand (c.toNat - 48) 0 left' = run' at hrun ⊢
      apply hrun.afterRun
      intro m left' h
      obtain ⟨value, count, left⟩ := run
      -- The digits that did not fit are counted, and their count matters too.
      dsimp only at h ⊢
      apply (digits_settled h).andThen (p := left) (q := left')
      intro m left' hdropped h
      rw [hdropped]
      exact readAfterWhole_settles _ _ _ h
  case rest => exact .failAfter rfl
  case other =>
    intro c left hc
    have hzero : c ≠ '0' := by
      rintro rfl
      exact hc rfl
    simp [readNumber, hc]

/-! ### Passing over -/

/-- Passing over an exponent is settled where its digits end. -/
theorem skipExponent_settles : Settles skipExponent := by
  intro n cs ds h
  have hsign := readExponentSign_settles h
  dsimp only at hsign
  unfold skipExponent
  generalize readExponentSign cs = p at hsign ⊢
  generalize readExponentSign ds = q at hsign ⊢
  apply hsign.andThen (p := p) (q := q)
  obtain ⟨down, left⟩ := p
  rintro m ⟨_, left'⟩ rfl h
  dsimp only at h ⊢
  refine h.settled_ite ?_ (.failAfter rfl h)
  exact Settles.afterDigits (f := fun left => .ok ((), left)) (.ok ()) h

/-- Passing over a scale is settled, whether an exponent follows or not. -/
theorem skipScale_settles : Settles skipScale := by
  apply Settles.of_marks (fun c => c = 'e' ∨ c = 'E') (g := fun left => .ok ((), left)) (by simp)
  case nil => exact .ok () (.nothing [] [])
  case mark =>
    rintro m left left' _ (rfl | rfl) h
    · exact (skipExponent_settles h).cons 'e'
    · exact (skipExponent_settles h).cons 'E'
  case rest => exact .ok ()
  case other =>
    intro c left hc
    simp [skipScale, not_or.1 hc]

/-- Passing over what follows the whole digits is settled. -/
theorem skipAfterWhole_settles : Settles skipAfterWhole := by
  apply Settles.of_marks (· = '.') (g := skipScale) (by simp)
  case nil => exact .ok () (.nothing [] [])
  case mark =>
    rintro m left left' _ rfl h
    exact .cons '.' (h.settled_ite (Settles.afterDigits skipScale_settles h) (.failAfter rfl h))
  case rest => exact skipScale_settles
  case other =>
    intro c left hc
    simp [skipAfterWhole, hc]

/-- Passing over a number is settled where it ends. -/
theorem skipNumber_settles : Settles skipNumber := by
  have hdigits : Settles fun left =>
      if startsWithDigit left then skipAfterWhole (skipDigits left)
      else failAfter .invalidNumber left := by
    intro n cs ds h
    exact h.settled_ite (Settles.afterDigits skipAfterWhole_settles h) (.failAfter rfl h)
  apply Settles.of_marks (· = '0')
  case ascii => simp
  case nil => exact hdigits (.nothing [] [])
  case mark =>
    -- No digit may follow a zero at the front.
    rintro m left left' _ rfl h
    exact .cons '0' (h.settled_ite (.failAfter rfl h) (skipAfterWhole_settles h))
  case rest => exact hdigits
  case other =>
    intro c left hc
    simp [skipNumber, hc]

end DonationSite.Json
