import DonationSite.Vat.Answer.Basic
import DonationSite.Vat.Locality

/-!
# What an answer fills in

A valid answer fills in the name and the address of the billing form. Of the address, the first
line that is not blank is the address proper, and the last such line, which may be the same one,
holds the city.
-/

namespace DonationSite.Vat

/-- The texts to put into the billing form; one that is absent leaves its field alone. -/
structure Patch where
  name : Option String := none
  address : Option String := none
  city : Option String := none
  postcode : Option String := none
  deriving DecidableEq, Repr, Inhabited

/-- What the registry writes for a text it does not have. -/
def unavailable : String := "---"

/-- A text without the blanks around it, unless that is empty or says that there is none. -/
def stated? (value : Option String) : Option String :=
  (value.map Text.trim).filter fun text => !text.isEmpty && text != unavailable

/-- The lines of an address without the blanks around each, blank lines left out. -/
def addressLines (address : String) : List (List Char) :=
  ((Text.lines address.toList).map Text.trimChars).filter (!·.isEmpty)

namespace Patch

/-- A patch with the address taken from the lines of one. -/
def withLines (patch : Patch) (lines : List (List Char)) : Patch :=
  match lines.head?, lines.getLast? with
  | some first, some last =>
    let locality := Locality.ofLine last
    { patch with
      address := some (String.ofList first)
      city := some locality.city
      postcode := locality.postcode }
  | _, _ => patch

/-- What an answer fills in; none if the number is not valid. -/
def ofAnswer? (answer : Answer) : Option Patch :=
  if answer.valid then
    let patch : Patch := { name := stated? answer.name }
    match stated? answer.address with
    | some address => some (patch.withLines (addressLines address))
    | none => some patch
  else none

/-- An answer fills something in exactly if it is valid. -/
theorem ofAnswer?_isSome (answer : Answer) :
    (ofAnswer? answer).isSome = answer.valid := by
  rw [ofAnswer?]
  split
  · next hvalid =>
    rw [hvalid]
    dsimp only
    split <;> rfl
  · next hvalid => exact (Bool.eq_false_iff.2 hvalid).symm

end Patch

end DonationSite.Vat
