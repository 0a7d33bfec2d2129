import DonationSite.Json.Number
import DonationSite.Proofs.Json.Scan

/-!
# What is accepted as a number that is passed over

A number does not say where it ends. Passing over one takes as much as can belong to it, so a number
is taken in full only before something that cannot (`Stops`), while what is taken is a number before
anything.

## Key results

- `skipNumber_sound`: what is passed over is a number
- `skipNumber_complete`: any number is, in full
-/

namespace DonationSite.Json

/-- Nothing at the front could belong to a number before it. -/
def Stops (rest : List Char) : Prop :=
  ∀ c ∈ rest.head?, c.isDigit = false ∧ c ∉ ['.', 'e', 'E']

/-- The end of the text stops a number. -/
theorem stops_nil : Stops [] := nofun

/-- A character that cannot belong to a number stops it. -/
theorem stops_cons {c : Char} (h : c.isDigit = false ∧ c ∉ ['.', 'e', 'E']) (cs : List Char) :
    Stops (c :: cs) := by
  intro c' hc'
  rw [← Option.some.inj hc']
  exact h

/-- What stops a number does so whatever follows, and nothing leaves it to what follows. -/
theorem Stops.append {cs rest : List Char} (h : Stops cs) (hrest : Stops rest) :
    Stops (cs ++ rest) := by
  cases cs with
  | nil => exact hrest
  | cons c cs => exact h

/-- Blanks stop a number. -/
theorem Spaces.stops {spaces : List Char} (h : Spaces spaces) : Stops spaces := by
  cases spaces with
  | nil => exact stops_nil
  | cons c spaces =>
    have hc := h c List.mem_cons_self
    refine stops_cons ?_ spaces
    simp only [List.mem_cons, List.not_mem_nil, or_false] at hc
    obtain rfl | rfl | rfl | rfl := hc <;> decide

/-- What follows an item in a container stops a number. -/
theorem Following.stops {α : Type} {item : α → List Char → Prop} {closer : Char} {xs : List α}
    {cs : List Char} (h : Following item closer xs cs)
    (hcloser : closer.isDigit = false ∧ closer ∉ ['.', 'e', 'E']) (rest : List Char) :
    Stops (cs ++ rest) := by
  cases h with
  | close hspaces =>
    rw [List.append_assoc]
    exact hspaces.stops.append (stops_cons hcloser rest)
  | more hspaces =>
    rw [List.append_assoc]
    exact hspaces.stops.append (stops_cons (by decide) _)

/-- No digit comes first where a number is stopped. -/
theorem Stops.startsWithDigit {rest : List Char} (h : Stops rest) :
    startsWithDigit rest = false := by
  cases rest with
  | nil => rfl
  | cons c rest => exact (h c rfl).1

/-! ### Digits -/

/-- Digits are passed over as far as they go. -/
theorem skipDigits_append {ds rest : List Char} (hds : ∀ c ∈ ds, c.isDigit = true)
    (hrest : startsWithDigit rest = false) : skipDigits (ds ++ rest) = rest := by
  rw [skipDigits, List.dropWhile_append_of_pos hds]
  cases rest with
  | nil => rfl
  | cons c rest => exact List.dropWhile_cons_of_neg (Bool.eq_false_iff.1 hrest)

/-- There is a first digit. -/
theorem Digits.exists_cons {ds : List Char} (h : Digits ds) :
    ∃ c cs, ds = c :: cs ∧ c.isDigit = true := by
  obtain ⟨c, cs, rfl⟩ := List.exists_cons_of_ne_nil h.1
  exact ⟨c, cs, rfl, h.2 c List.mem_cons_self⟩

/-- Where digits come first, a digit comes first. -/
theorem Digits.startsWithDigit_append {ds : List Char} (h : Digits ds) (rest : List Char) :
    startsWithDigit (ds ++ rest) = true := by
  obtain ⟨c, cs, rfl, hc⟩ := h.exists_cons
  exact hc

/-- Where a digit comes first, digits are passed over. -/
theorem exists_digits {left : List Char} (h : startsWithDigit left = true) :
    ∃ ds, Digits ds ∧ ds.head? = left.head? ∧ left = ds ++ skipDigits left := by
  match left, h with
  | c :: left, h =>
    have hc : c.isDigit = true := h
    -- As many digits are taken as there are.
    refine ⟨(c :: left).takeWhile Char.isDigit, ⟨?_, fun d hd => List.mem_takeWhile_imp hd⟩, ?_,
      List.takeWhile_append_dropWhile.symm⟩
    · simp [hc]
    · simp [hc]

/-! ### Exponents -/

/-- What is taken for the sign of an exponent is one, or nothing. -/
theorem readExponentSign_sound (left : List Char) :
    ∃ sign ∈ [[], ['+'], ['-']], left = sign ++ (readExponentSign left).2 := by
  unfold readExponentSign
  split
  · exact ⟨['+'], by simp, rfl⟩
  · exact ⟨['-'], by simp, rfl⟩
  · exact ⟨[], by simp, rfl⟩

/-- The sign of an exponent is taken where digits follow it. -/
theorem readExponentSign_complete {sign ds : List Char} (hsign : sign ∈ [[], ['+'], ['-']])
    (hds : Digits ds) (rest : List Char) :
    (readExponentSign (sign ++ (ds ++ rest))).2 = ds ++ rest := by
  obtain ⟨c, cs, rfl, hc⟩ := hds.exists_cons
  simp only [List.mem_cons, List.not_mem_nil, or_false] at hsign
  obtain rfl | rfl | rfl := hsign
  -- Without a sign a digit comes first, which is none.
  · rw [List.nil_append, List.cons_append]
    unfold readExponentSign
    split
    · next heq =>
      cases heq
      cases hc
    · next heq =>
      cases heq
      cases hc
    · rfl
  · rfl
  · rfl

/-- What is passed over as an exponent is a sign and digits. -/
theorem skipExponent_sound {left rest : List Char} (h : skipExponent left = .ok ((), rest)) :
    ∃ sign ∈ [[], ['+'], ['-']], ∃ ds, Digits ds ∧ left = sign ++ (ds ++ rest) := by
  obtain ⟨sign, hsign, hleft⟩ := readExponentSign_sound left
  unfold skipExponent at h
  dsimp only at h
  split at h
  · next hdigit =>
    cases h
    obtain ⟨ds, hds, -, hafter⟩ := exists_digits hdigit
    exact ⟨sign, hsign, ds, hds, by rw [← hafter]; exact hleft⟩
  · exact absurd h failAfter_ne_ok

/-- A sign and digits are passed over where no more digits follow. -/
theorem skipExponent_complete {sign ds rest : List Char} (hsign : sign ∈ [[], ['+'], ['-']])
    (hds : Digits ds) (hrest : startsWithDigit rest = false) :
    skipExponent (sign ++ (ds ++ rest)) = .ok ((), rest) := by
  unfold skipExponent
  dsimp only
  rw [readExponentSign_complete hsign hds, hds.startsWithDigit_append, if_pos rfl,
    skipDigits_append hds.2 hrest]

/-- What is passed over as an exponent, if any, is one. -/
theorem skipScale_sound {left rest : List Char} (h : skipScale left = .ok ((), rest)) :
    ∃ exponent, Exponent exponent ∧ left = exponent ++ rest := by
  have hmark {mark : Char} {after : List Char} (hmark : mark ∈ ['e', 'E'])
      (h : skipExponent after = .ok ((), rest)) :
      ∃ exponent, Exponent exponent ∧ mark :: after = exponent ++ rest := by
    obtain ⟨sign, hsign, ds, hds, rfl⟩ := skipExponent_sound h
    exact ⟨_, .digits hmark hsign hds, by simp⟩
  unfold skipScale at h
  split at h
  · exact hmark (by simp) h
  · exact hmark (by simp) h
  -- Without a mark nothing is taken.
  · cases h
    exact ⟨[], .absent, rfl⟩

/-- An exponent is passed over in full where something stops the number. -/
theorem skipScale_complete {exponent rest : List Char} (h : Exponent exponent)
    (hrest : Stops rest) : skipScale (exponent ++ rest) = .ok ((), rest) := by
  cases h with
  | absent =>
    -- A mark of an exponent would not stop a number.
    rw [List.nil_append]
    unfold skipScale
    split
    · exact absurd (hrest 'e' rfl).2 (by decide)
    · exact absurd (hrest 'E' rfl).2 (by decide)
    · rfl
  | digits hmark hsign hds =>
    have hskip := skipExponent_complete hsign hds hrest.startsWithDigit
    simp only [List.mem_cons, List.not_mem_nil, or_false] at hmark
    rw [List.cons_append, List.append_assoc]
    obtain rfl | rfl := hmark
    · exact hskip
    · exact hskip

/-! ### Fractions and whole numbers -/

/-- An exponent starts with its mark, so digits before it end there. -/
theorem Exponent.startsWithDigit_append {exponent rest : List Char} (h : Exponent exponent)
    (hrest : Stops rest) : startsWithDigit (exponent ++ rest) = false := by
  cases h with
  | absent => exact hrest.startsWithDigit
  | digits hmark =>
    simp only [List.mem_cons, List.not_mem_nil, or_false] at hmark
    obtain rfl | rfl := hmark <;> rfl

/-- A fraction starts with its point, so digits before it end there. -/
theorem Fraction.startsWithDigit_append {fraction exponent rest : List Char}
    (h : Fraction fraction) (hexponent : Exponent exponent) (hrest : Stops rest) :
    startsWithDigit (fraction ++ (exponent ++ rest)) = false := by
  cases h with
  | absent => exact hexponent.startsWithDigit_append hrest
  | digits => rfl

/-- What is passed over after the whole part is a fraction and an exponent, either of which may be
missing. -/
theorem skipAfterWhole_sound {left rest : List Char} (h : skipAfterWhole left = .ok ((), rest)) :
    ∃ fraction exponent, Fraction fraction ∧ Exponent exponent ∧
      left = fraction ++ (exponent ++ rest) := by
  unfold skipAfterWhole at h
  split at h
  · next after =>
    split at h
    · next hdigit =>
      obtain ⟨ds, hds, -, hafter⟩ := exists_digits hdigit
      obtain ⟨exponent, hexponent, hleft⟩ := skipScale_sound h
      refine ⟨'.' :: ds, exponent, .digits hds, hexponent, ?_⟩
      rw [← hleft, List.cons_append, ← hafter]
    · exact absurd h failAfter_ne_ok
  · obtain ⟨exponent, hexponent, rfl⟩ := skipScale_sound h
    exact ⟨[], exponent, .absent, hexponent, rfl⟩

/-- A fraction and an exponent are passed over in full where something stops the number. -/
theorem skipAfterWhole_complete {fraction exponent rest : List Char} (hfraction : Fraction fraction)
    (hexponent : Exponent exponent) (hrest : Stops rest) :
    skipAfterWhole (fraction ++ (exponent ++ rest)) = .ok ((), rest) := by
  have hscale := skipScale_complete hexponent hrest
  cases hfraction with
  | absent =>
    rw [List.nil_append]
    unfold skipAfterWhole
    split
    · next heq =>
      -- Neither an exponent nor what stops a number starts with a point.
      cases hexponent with
      | absent =>
        rw [List.nil_append] at heq
        subst heq
        exact absurd (hrest '.' rfl).2 (by decide)
      | digits hmark =>
        obtain ⟨rfl, -⟩ := List.cons.inj heq
        simp at hmark
    · exact hscale
  | digits hds =>
    -- The digits of the fraction end at the exponent, or at what stops the number.
    rw [List.cons_append, skipAfterWhole, hds.startsWithDigit_append, if_pos rfl,
      skipDigits_append hds.2 (hexponent.startsWithDigit_append hrest), hscale]

/-- What is passed over as a number after its sign is one. -/
theorem skipNumber_sound {left rest : List Char} (h : skipNumber left = .ok ((), rest)) :
    ∃ number, UnsignedText number ∧ left = number ++ rest := by
  unfold skipNumber at h
  split at h
  · split at h
    · exact absurd h failAfter_ne_ok
    -- After a zero no other digit may come.
    · obtain ⟨fraction, exponent, hfraction, hexponent, rfl⟩ := skipAfterWhole_sound h
      exact ⟨_, .mk .zero hfraction hexponent, by simp⟩
  · next hzero =>
    split at h
    · next hdigit =>
      obtain ⟨ds, hds, hhead, hleft⟩ := exists_digits hdigit
      obtain ⟨fraction, exponent, hfraction, hexponent, hafter⟩ := skipAfterWhole_sound h
      refine ⟨_, .mk (.digits hds ?_) hfraction hexponent, ?_⟩
      · -- A zero in front is read as the whole part of its own.
        rw [hhead]
        intro hfirst
        obtain ⟨tail, rfl⟩ := List.head?_eq_some_iff.1 hfirst
        exact hzero tail rfl
      · rw [List.append_assoc, List.append_assoc, ← hafter, ← hleft]
    · exact absurd h failAfter_ne_ok

/-- A number is passed over in full where something stops it. -/
theorem skipNumber_complete {number rest : List Char} (h : UnsignedText number)
    (hrest : Stops rest) : skipNumber (number ++ rest) = .ok ((), rest) := by
  obtain ⟨hwhole, hfraction, hexponent⟩ := h
  have hafter := skipAfterWhole_complete hfraction hexponent hrest
  have hdigit := hfraction.startsWithDigit_append hexponent hrest
  rw [List.append_assoc, List.append_assoc]
  cases hwhole with
  | zero => rw [List.singleton_append, skipNumber, hdigit, if_neg Bool.false_ne_true, hafter]
  | digits hds hzero =>
    unfold skipNumber
    split
    -- Several digits do not start with a zero.
    · next heq =>
      obtain ⟨c, cs, rfl, -⟩ := hds.exists_cons
      obtain ⟨rfl, -⟩ := List.cons.inj heq
      exact absurd rfl hzero
    · rw [hds.startsWithDigit_append, if_pos rfl, skipDigits_append hds.2 hdigit, hafter]

end DonationSite.Json
