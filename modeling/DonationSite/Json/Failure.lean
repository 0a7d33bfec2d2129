import DonationSite.Json.Problem

/-!
# Failures of reading JSON

A reader is a function from the characters that are left to a value and the characters left after
it. If it fails it says what the problem is and where: `Failure.unread` is the number of bytes of
the UTF-8 form that follow the place.

## Key results

- `Reads.bind`: a reader that consumes characters still does when another one follows it
-/

namespace DonationSite.Json

/-- A problem and the number of bytes that follow the place it points to. -/
structure Failure where
  problem : Problem
  unread : Nat
  deriving DecidableEq

/-- The number of bytes of the UTF-8 form. -/
def byteLength (cs : List Char) : Nat :=
  cs.foldl (fun n c => n + c.utf8Size) 0

/-- Fails at the place before the characters that are left. -/
def failBefore {α : Type} (problem : Problem) (left : List Char) : Except Failure α :=
  .error ⟨problem, byteLength left⟩

/-- Fails at the place after the first byte of the characters that are left. -/
def failAfter {α : Type} (problem : Problem) (left : List Char) : Except Failure α :=
  .error ⟨problem, byteLength left - 1⟩

/-! ## Readers that consume characters -/

/-- Whether a reading leaves fewer than `bound` characters, if it succeeds. -/
def Reads {α : Type} (reading : Except Failure (α × List Char)) (bound : Nat) : Prop :=
  ∀ value left, reading = .ok (value, left) → left.length < bound

/-- A reading that succeeds is judged by what it leaves. -/
theorem Reads.ok {α : Type} {value : α} {left : List Char} {bound : Nat}
    (h : left.length < bound) : Reads (.ok (value, left)) bound := by
  intro _ _ heq
  cases heq
  exact h

/-- A reading that fails leaves nothing that could be too long. -/
theorem Reads.failBefore {α : Type} {problem : Problem} {left : List Char} {bound : Nat} :
    Reads (α := α) (failBefore problem left) bound := by
  intro _ _ heq
  cases heq

/-- The same for a failure that points behind a byte. -/
theorem Reads.failAfter {α : Type} {problem : Problem} {left : List Char} {bound : Nat} :
    Reads (α := α) (failAfter problem left) bound := by
  intro _ _ heq
  cases heq

/-- A bound may be replaced by a larger one. -/
theorem Reads.mono {α : Type} {reading : Except Failure (α × List Char)} {a b : Nat}
    (h : Reads reading a) (hab : a ≤ b) : Reads reading b :=
  fun value left heq => Nat.lt_of_lt_of_le (h value left heq) hab

/-- A reader that consumes characters still does when another one follows it. -/
theorem Reads.bind {α β : Type} {reading : Except Failure (α × List Char)}
    {next : α × List Char → Except Failure (β × List Char)} {a b : Nat} (h : Reads reading a)
    (hnext : ∀ value left, left.length < a → Reads (next (value, left)) b) :
    Reads (Except.bind reading next) b := by
  match reading, h with
  | .error _, _ =>
    intro _ _ heq
    cases heq
  | .ok (value, left), h => exact hnext value left (h value left rfl)

end DonationSite.Json
