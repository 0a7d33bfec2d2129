import DonationSite.Json.Scan
import DonationSite.Proofs.Json.Agree

/-!
# Readings that are settled where they end

A reader that is given two texts with the same first bytes gives the same result for both if the
first reading ends within these bytes, and does not only touch their end: it has not looked any
further. A failure counts as the end of a reading at the place that it points to. All readers of
this format are of this kind; the lemmas here are what their parts have in common.

## Key results

- `Settled.bind`: of two readers that are settled, one after the other is
- `Settles.of_marks`: a reader is settled if it is for each character that may come first
- `Settles.of_blanks`: the same for a reader that drops blanks first
-/

namespace DonationSite.Json

variable {α β : Type}

/-- Whether a problem is that the text ends, so that its wording starts with `EOF`. -/
def Problem.isUnfinished : Problem → Bool
  | .unfinishedValue | .unfinishedObject | .unfinishedList | .unfinishedString => true
  | _ => false

/-- The number of bytes that follow the place where a reading ends. -/
def unread : Except Failure (α × List Char) → Nat
  | .ok (_, left) => byteLength left
  | .error failure => failure.unread

/-- Readings of two texts that agree on `n` bytes have the same result: they end as many bytes after
the beginning, with the same problem or with the same value. What is left after a value agrees on
the rest of the `n` bytes. -/
inductive Alike (n : Nat) (cs ds : List Char) :
    Except Failure (α × List Char) → Except Failure (α × List Char) → Prop where
  | ok (value : α) {left left' : List Char} {k m : Nat} : n = k + m →
    byteLength cs = k + byteLength left → byteLength ds = k + byteLength left' →
    Agree m left left' → Alike n cs ds (.ok (value, left)) (.ok (value, left'))
  | error (problem : Problem) {k u u' : Nat} : byteLength cs = k + u → byteLength ds = k + u' →
    Alike n cs ds (.error ⟨problem, u⟩) (.error ⟨problem, u'⟩)

/-- The same result is the same one for texts with as many bytes more at the front. -/
theorem Alike.shift {k m n : Nat} {cs ds left left' : List Char}
    {r r' : Except Failure (α × List Char)} (hn : n = k + m)
    (hlength : byteLength cs = k + byteLength left)
    (hlength' : byteLength ds = k + byteLength left') (h : Alike m left left' r r') :
    Alike n cs ds r r' := by
  cases h with
  | ok value hm hleft hleft' hagree =>
    exact .ok value (by rw [hn, hm, ← Nat.add_assoc]) (by rw [hlength, hleft, ← Nat.add_assoc])
      (by rw [hlength', hleft', ← Nat.add_assoc]) hagree
  | error problem hleft hleft' =>
    exact .error problem (by rw [hlength, hleft, ← Nat.add_assoc])
      (by rw [hlength', hleft', ← Nat.add_assoc])

/-- The reading `r` of `cs` is settled where it ends: a reading `r'` of a text that agrees with `cs`
on more bytes than that has the same result. If it fails because the text ends, it points to the end
of the text. -/
structure Settled (n : Nat) (cs ds : List Char) (r r' : Except Failure (α × List Char)) : Prop where
  within : unread r ≤ byteLength cs
  atEnd : ∀ {failure}, r = .error failure → failure.problem.isUnfinished = true →
    failure.unread = 0
  alike : byteLength cs < unread r + n → Alike n cs ds r r'

/-- A reader of which every reading is settled. -/
def Settles (f : List Char → Except Failure (α × List Char)) : Prop :=
  ∀ {n : Nat} {cs ds : List Char}, Agree n cs ds → Settled n cs ds (f cs) (f ds)

section Parts

variable {n : Nat} {cs ds : List Char} {r r' : Except Failure (α × List Char)}

/-- A reading that takes nothing is settled at once. -/
theorem Settled.ok (value : α) (h : Agree n cs ds) :
    Settled n cs ds (.ok (value, cs)) (.ok (value, ds)) where
  within := Nat.le_refl _
  atEnd := nofun
  alike _ := .ok value (Nat.zero_add n).symm (Nat.zero_add _).symm (Nat.zero_add _).symm h

/-- A failure at the place that was reached is settled there, unless it is that the text ends. -/
theorem Settled.failBefore {problem : Problem} (hproblem : problem.isUnfinished = false)
    (_h : Agree n cs ds) :
    Settled (α := α) n cs ds (failBefore problem cs) (failBefore problem ds) where
  within := Nat.le_refl _
  atEnd := by
    rintro _ ⟨⟩ hunfinished
    cases hproblem.symm.trans hunfinished
  alike _ := .error problem (Nat.zero_add _).symm (Nat.zero_add _).symm

/-- A failure behind the next byte is settled there, since that byte is all that it was told by. -/
theorem Settled.failAfter {problem : Problem} (hproblem : problem.isUnfinished = false)
    (h : Agree n cs ds) :
    Settled (α := α) n cs ds (failAfter problem cs) (failAfter problem ds) where
  within := Nat.sub_le _ _
  atEnd := by
    rintro _ ⟨⟩ hunfinished
    cases hproblem.symm.trans hunfinished
  alike hlt := by
    -- The place is inside of what agrees only if two bytes do.
    have hle := h.le_byteLength
    have hle' := h.symm.le_byteLength
    have hlt : byteLength cs < byteLength cs - 1 + n := hlt
    exact .error problem (k := 1) (by omega) (by omega)

/-- Nothing follows the end of the text. -/
theorem Settled.failBefore_nil (problem : Problem) :
    Settled (α := α) 0 [] ds (Json.failBefore problem []) r' where
  within := Nat.le_refl _
  atEnd := by
    rintro _ ⟨⟩ _
    rfl
  alike hlt := absurd hlt (Nat.lt_irrefl 0)

/-- Where nothing is known of the other text, nothing has to be said about its reading. -/
theorem Settled.nothing {es : List Char} {s : Except Failure (α × List Char)}
    (h : Settled n cs ds r r') : Settled 0 cs es r s where
  within := h.within
  atEnd := h.atEnd
  alike hlt := absurd h.within (Nat.not_le.2 hlt)

/-- Reading a character first moves the end of a reading by that character. -/
theorem Settled.cons (c : Char) (h : Settled n cs ds r r') :
    Settled (c.utf8Size + n) (c :: cs) (c :: ds) r r' where
  within := by
    rw [byteLength_cons]
    exact Nat.le_add_left_of_le h.within
  atEnd := h.atEnd
  alike hlt := by
    rw [byteLength_cons] at hlt
    exact .shift rfl (byteLength_cons c cs) (byteLength_cons c ds) (h.alike (by omega))

/-- A reading that goes on after any first character is settled if the rest is: where the agreement
ends inside of that character, the reading goes beyond it. -/
theorem Agree.settled_over {f : Char → List Char → Except Failure (α × List Char)} {c d : Char}
    (h : Agree n (c :: cs) (d :: ds))
    (hf : ∀ {m left}, Agree m cs left → Settled m cs left (f c cs) (f c left)) :
    Settled n (c :: cs) (d :: ds) (f c cs) (f d ds) := by
  -- Up to the end of the first character there is nothing to compare, since the reading goes on.
  have hbeyond (hle : n ≤ c.utf8Size) : Settled n (c :: cs) (d :: ds) (f c cs) (f d ds) := by
    have hrest := hf (Agree.nothing cs cs)
    have hwithin := hrest.within
    refine ⟨?_, hrest.atEnd, fun hlt => ?_⟩
    · rw [byteLength_cons]
      omega
    · rw [byteLength_cons] at hlt
      omega
  cases h with
  | nothing => exact hbeyond (Nat.zero_le _)
  | cons c h => exact (hf h).cons c
  | cut _ _ hlt _ => exact hbeyond (Nat.le_of_lt hlt)

/-- Of two readers that are settled, one after the other is. -/
theorem Settled.bind {g : α × List Char → Except Failure (β × List Char)}
    (h : Settled n cs ds r r')
    (hg : ∀ {value left left' m}, r = .ok (value, left) → Agree m left left' →
      Settled m left left' (g (value, left)) (g (value, left'))) :
    Settled n cs ds (r >>= g) (r' >>= g) := by
  match r, h with
  | .error failure, h =>
    have hatEnd := h.atEnd rfl
    refine ⟨h.within, ?_, fun hlt => ?_⟩
    · rintro _ ⟨⟩
      exact hatEnd
    -- A failure is passed on as it is.
    · cases h.alike hlt with
      | error problem hlength hlength' => exact .error problem hlength hlength'
  | .ok (value, left), h =>
    -- The second reading does not end before the first, which so ends within what agrees too.
    have hnext := hg rfl (Agree.nothing left left)
    have hwithin : byteLength left ≤ byteLength cs := h.within
    refine ⟨Nat.le_trans hnext.within hwithin, hnext.atEnd, fun hlt => ?_⟩
    have hlt : byteLength cs < unread (g (value, left)) + n := hlt
    have hnextWithin := hnext.within
    have hend : byteLength cs < byteLength left + n := by omega
    cases h.alike hend with
    | ok _ hn hlength hlength' hagree =>
      exact .shift hn hlength hlength' ((hg rfl hagree).alike (by omega))

/-- A reader is settled if it makes something of what another one reads. -/
theorem Settles.map {f : List Char → Except Failure (α × List Char)} (hf : Settles f)
    (make : α → β) : Settles fun left => (do
      let (value, left) ← f left
      .ok (make value, left)) := by
  intro n cs ds h
  exact (hf h).bind fun _ h => .ok _ h

/-- What is read after a part of the text may depend on what was found there. -/
theorem Settled.next {value value' : β} {left left' : List Char}
    {s s' : Except Failure (α × List Char)}
    (h : Settled n cs ds (.ok (value, left)) (.ok (value', left')))
    (hleft : Settled 0 left left s s)
    (hs : ∀ {m}, value = value' → Agree m left left' → Settled m left left' s s') :
    Settled n cs ds s s' := by
  have hwithin : byteLength left ≤ byteLength cs := h.within
  have hnext := hleft.within
  refine ⟨Nat.le_trans hnext hwithin, hleft.atEnd, fun hlt => ?_⟩
  -- The first part ends within what agrees, since what follows does not end before it.
  have hend : byteLength cs < byteLength left + n := by omega
  cases h.alike hend with
  | ok _ hn hlength hlength' hagree =>
    exact .shift hn hlength hlength' ((hs rfl hagree).alike (by omega))

/-- A reader is settled if it reads on after a part of the text and depends on nothing else than
what was found there. -/
theorem Settled.andThen {ρ : Type} {value : ρ → β} {rest : ρ → List Char} {p q : ρ}
    {g : ρ → Except Failure (α × List Char)}
    (h : Settled n cs ds (.ok (value p, rest p)) (.ok (value q, rest q)))
    (hg : ∀ {m q}, value p = value q → Agree m (rest p) (rest q) →
      Settled m (rest p) (rest q) (g p) (g q)) : Settled n cs ds (g p) (g q) :=
  h.next (hg rfl (.nothing _ _)) hg

end Parts

/-! ### The first character -/

section Head

variable (special : Char → Prop) {f : List Char → Except Failure (α × List Char)}

/-- A reading is settled if it is for each character that may come first. The characters that count
for the reader are ASCII, so that a byte tells all others from them. -/
theorem Agree.settled (ascii : ∀ c, special c → c.toNat < 128)
    (nil : Settled 0 [] [] (f []) (f []))
    {n : Nat} {cs ds : List Char} (h : Agree n cs ds)
    (mark : ∀ {m left left'} (c : Char), special c → left.length < cs.length → Agree m left left' →
      Settled (c.utf8Size + m) (c :: left) (c :: left') (f (c :: left)) (f (c :: left')))
    (other : ∀ {m left left'} (c d : Char), ¬ special c → ¬ special d → left.length < cs.length →
      Agree m (c :: left) (d :: left') →
      Settled m (c :: left) (d :: left') (f (c :: left)) (f (d :: left'))) :
    Settled n cs ds (f cs) (f ds) := by
  cases h with
  | nothing =>
    -- What is said then is about one reading, so a text is compared with itself.
    match cs with
    | [] => exact nil.nothing
    | c :: cs =>
      by_cases hc : special c
      · exact (mark c hc (Nat.lt_succ_self _) (.nothing cs cs)).nothing
      · exact (other c c hc hc (Nat.lt_succ_self _) (.nothing (c :: cs) (c :: cs))).nothing
  | cons c h =>
    by_cases hc : special c
    · exact mark _ hc (Nat.lt_succ_self _) h
    · exact other _ _ hc hc (Nat.lt_succ_self _) (.cons c h)
  -- A character that the agreement cuts is not ASCII, so it is none of the special ones.
  | cut hc hd hlt hlt' =>
    have hother {c : Char} (hc : 128 ≤ c.toNat) : ¬ special c :=
      fun hspecial => absurd (ascii c hspecial) (Nat.not_lt.2 hc)
    exact other _ _ (hother hc) (hother hd) (Nat.lt_succ_self _) (.cut hc hd hlt hlt')

/-- A reader is settled if it is for some characters, and leaves all others to another reader that
is. -/
theorem Settles.of_marks {g : List Char → Except Failure (α × List Char)}
    (ascii : ∀ c, special c → c.toNat < 128) (nil : Settled 0 [] [] (f []) (f []))
    (mark : ∀ {m left left'} (c : Char), special c → Agree m left left' →
      Settled (c.utf8Size + m) (c :: left) (c :: left') (f (c :: left)) (f (c :: left')))
    (rest : Settles g) (other : ∀ {c left}, ¬ special c → f (c :: left) = g (c :: left)) :
    Settles f := by
  intro n cs ds h
  apply h.settled (f := f) special ascii nil
  case mark => exact fun c hc _ h => mark c hc h
  case other =>
    intro m left left' c d hc hd _ h
    rw [other hc, other hd]
    exact rest h

/-- Blanks are ASCII. -/
theorem ascii_of_isSpace {c : Char} (h : isSpace c = true) : c.toNat < 128 := by
  simp only [isSpace, Bool.or_eq_true, beq_iff_eq] at h
  obtain ((rfl | rfl) | rfl) | rfl := h <;> decide

/-- A blank at the front is dropped with those after it. -/
theorem skipSpace_of_isSpace {c : Char} (h : isSpace c = true) (cs : List Char) :
    skipSpace (c :: cs) = skipSpace cs := by
  rw [skipSpace, List.dropWhile_cons_of_pos h]
  rfl

/-- A reading that drops blanks first is settled if it is for each other character that may come
first. -/
theorem Agree.settled_of_blanks (ascii : ∀ c, special c → c.toNat < 128)
    (nil : Settled 0 [] [] (f []) (f []))
    (blank : ∀ {c left}, isSpace c = true → f (c :: left) = f left)
    {n : Nat} {cs ds : List Char} (h : Agree n cs ds)
    (mark : ∀ {m left left'} (c : Char), special c → left.length < cs.length →
      Agree m left left' →
      Settled (c.utf8Size + m) (c :: left) (c :: left') (f (c :: left)) (f (c :: left')))
    (other : ∀ {m left left'} (c d : Char), isSpace c = false → ¬ special c → isSpace d = false →
      ¬ special d → left.length < cs.length → Agree m (c :: left) (d :: left') →
      Settled m (c :: left) (d :: left') (f (c :: left)) (f (d :: left'))) :
    Settled n cs ds (f cs) (f ds) := by
  -- The induction is on the blanks, so on the length of the text.
  induction hlength : cs.length using Nat.strongRecOn generalizing n cs ds with
  | _ length ih =>
    subst hlength
    apply h.settled (f := f) (fun c => isSpace c = true ∨ special c)
      (fun c hc => hc.elim ascii_of_isSpace (ascii c))
    case nil => exact nil
    case mark =>
      intro m left left' c hc hlt h
      by_cases hspace : isSpace c = true
      · rw [blank hspace, blank hspace]
        exact (ih _ hlt h (fun c hc hlt' => mark c hc (Nat.lt_trans hlt' hlt))
          (fun c d hspace hc hspace' hd hlt' =>
            other c d hspace hc hspace' hd (Nat.lt_trans hlt' hlt)) rfl).cons c
      · exact mark c (hc.resolve_left hspace) hlt h
    case other =>
      intro m left left' c d hc hd hlt h
      rw [not_or, Bool.not_eq_true] at hc hd
      exact other c d hc.1 hc.2 hd.1 hd.2 hlt h

/-- The same for a reader that leaves all other characters to another one. -/
theorem Settles.of_blanks {g : List Char → Except Failure (α × List Char)}
    (ascii : ∀ c, special c → c.toNat < 128) (nil : Settled 0 [] [] (f []) (f []))
    (blank : ∀ {c left}, isSpace c = true → f (c :: left) = f left)
    (mark : ∀ {m left left'} (c : Char), special c → Agree m left left' →
      Settled (c.utf8Size + m) (c :: left) (c :: left') (f (c :: left)) (f (c :: left')))
    (rest : Settles g)
    (other : ∀ {c left}, isSpace c = false → ¬ special c → f (c :: left) = g (c :: left)) :
    Settles f := by
  intro n cs ds h
  apply h.settled_of_blanks (f := f) special ascii nil blank
  case mark => exact fun c hc _ h => mark c hc h
  case other =>
    intro m left left' c d hspace hc hspace' hd _ h
    rw [other hspace hc, other hspace' hd]
    exact rest h

end Head

end DonationSite.Json
