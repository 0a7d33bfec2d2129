import DonationSite.Donation.Tier

/-!
# Selecting a tier

Which tier an amount earns. A tier is small when the amount is below its minimum, and qualifies
otherwise. Checked is the qualifying tier with the largest minimum or, when none qualifies, the
tier with the largest minimum of all; among equal minima the last in display order wins.

Both are found by going through the tiers once in display order: `Tiers.top` keeps the tier with
the largest minimum so far, and `Tiers.scan` the best qualifying one along with the flags and the
count.
-/

namespace DonationSite.Donation

/-- The tier that is checked for an amount. -/
inductive Checked where
  /-- The amount reaches the minimum of the tier. -/
  | qualifying (index : Nat)
  /-- The amount reaches no minimum, and the tier has the largest one. -/
  | fallback (index : Nat)
  deriving DecidableEq, Repr

namespace Checked

/-- The index of the checked tier. -/
def index : Checked → Nat
  | .qualifying index => index
  | .fallback index => index

/-- The word for the kind of choice. -/
def kind : Checked → String
  | .qualifying _ => "Qualifying"
  | .fallback _ => "Fallback"

/-- The choice as the log shows it. -/
def describe (checked : Checked) : String :=
  checked.kind ++ "(" ++ toString checked.index ++ ")"

end Checked

/-- What an amount earns. -/
structure Selection where
  /-- The one tier that is checked. -/
  checked : Checked
  /-- For each tier, whether the amount is below its minimum. -/
  small : List Bool
  /-- How many tiers the amount reaches. -/
  qualifying : Nat
  deriving DecidableEq, Repr

namespace Selection

/-- Whether the tier at an index is the checked one. -/
def isChecked (s : Selection) (index : Nat) : Bool :=
  s.checked.index == index

/-- Whether the tier at an index is small; there is none beyond the last. -/
def isSmall (s : Selection) (index : Nat) : Bool :=
  s.small.getD index false

/-- Whether to say that the amount earns several rewards. -/
def earnsSeveral (s : Selection) : Bool :=
  1 < s.qualifying

end Selection

/-- The tier with the larger minimum, the later one if they are equal. Each comes with its index. -/
def raise (top next : Tier × Nat) : Tier × Nat :=
  if next.1.minimum ≥ top.1.minimum then next else top

/-- What is known of an amount after going through some tiers. -/
structure Scan where
  /-- For each tier seen, whether the amount is below its minimum. -/
  small : List Bool := []
  /-- The qualifying tier to check, with its index. -/
  best : Option (Tier × Nat) := none
  /-- How many of the tiers seen the amount reaches. -/
  qualifying : Nat := 0

namespace Scan

/-- The qualifying tier to check, now that there is one more. -/
def better (best : Option (Tier × Nat)) (next : Tier × Nat) : Tier × Nat :=
  match best with
  | some current => if current.1.minimum > next.1.minimum then current else next
  | none => next

/-- Takes the next tier. -/
def visit (amount : Amount) (scan : Scan) (next : Tier × Nat) : Scan :=
  let below : Bool := amount < next.1.minimum
  let small := scan.small ++ [below]
  if below then { scan with small := small }
  else { small := small, best := better scan.best next, qualifying := scan.qualifying + 1 }

end Scan

namespace Tiers

/-- The index of the tier with the largest minimum, the last one if there are several. -/
def top (tiers : Tiers) : Nat :=
  (tiers.tiers.zipIdx.foldl raise (tiers.tiers.head tiers.nonempty, 0)).2

/-- What is known of an amount after going through all tiers. -/
def scan (tiers : Tiers) (amount : Amount) : Scan :=
  tiers.tiers.zipIdx.foldl (Scan.visit amount) {}

/-- The selection for an amount. -/
def select (tiers : Tiers) (amount : Amount) : Selection :=
  let scan := tiers.scan amount
  { checked :=
      match scan.best with
      | some (_, index) => .qualifying index
      | none => .fallback tiers.top
    small := scan.small
    qualifying := scan.qualifying }

end Tiers

end DonationSite.Donation
