import DonationSite.Proofs.Json.Grammar
import DonationSite.Vat.Answer.Decoder

/-!
# The format of answers

Which texts are answers of the lookup service, and what they answer, stated without a reader: an
object whose members may come in any order and among others, or a list of the values.
-/

namespace DonationSite.Vat

open Json

/-- A text of an answer and where it is given, if it is. -/
inductive Holds : Option (List Char) → Option String → Prop where
  | absent : Holds none none
  | given {value : List Char} {text : Option String} : OptionalText value text →
    Holds (some value) text

/-! ### The object form -/

/-- A member of an object: the key that it stands for, and the text of its value. -/
structure Member where
  key : String
  value : List Char

/-- The text of a member. -/
inductive MemberText : Member → List Char → Prop where
  | mk {member : Member} {key before after : List Char} : StringText key member.key →
    Spaces before → Spaces after →
    MemberText member (key ++ (before ++ ':' :: (after ++ member.value)))

/-- The values that are given for a key. -/
def valuesOf (members : List Member) (key : String) : List (List Char) :=
  (members.filter (·.key = key)).map Member.value

/-- What members say together, in whatever order they come: validity is given once, each text at
most once, and what is given for other keys is any value. -/
structure Says (members : List Member) (answer : Answer) : Prop where
  valid : ∃ value, valuesOf members validKey = [value] ∧ BooleanText value answer.valid
  text : ∀ field : TextField, ∃ value?,
    valuesOf members field.key = value?.toList ∧ Holds value? (answer.get field)
  other : ∀ member ∈ members, member.key ≠ validKey →
    (∀ field : TextField, member.key ≠ field.key) → ValueText member.value

/-- An answer as an object. -/
def ObjectForm (cs : List Char) (answer : Answer) : Prop :=
  ∃ members, Enclosed MemberText '\x7b' '\x7d' members cs ∧ Says members answer

/-! ### The list form -/

/-- An answer as a list: its validity first, then texts in their order, of which those at the end
may be left out. -/
def ListForm (cs : List Char) (answer : Answer) : Prop :=
  ∃ valid texts, Enclosed ElementText '[' ']' (valid :: texts) cs ∧ BooleanText valid answer.valid ∧
    texts.length ≤ TextField.all.length ∧
    ∀ (i : Nat) (field : TextField), TextField.all[i]? = some field →
      Holds texts[i]? (answer.get field)

example : validKey = "valid" ∧ TextField.all.map TextField.key =
    ["name", "address", "countryCode", "vatNumber", "fault_code", "fault_message"] := ⟨rfl, rfl⟩

/-- An answer in either form, with blanks around it. -/
def AnswerText (cs : List Char) (answer : Answer) : Prop :=
  ∃ before form after, Spaces before ∧ Spaces after ∧
    (ObjectForm form answer ∨ ListForm form answer) ∧ cs = before ++ (form ++ after)

end DonationSite.Vat
