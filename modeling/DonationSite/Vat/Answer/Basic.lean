/-!
# Answers of the VAT lookup

What the backend says about a VAT number: whether it is valid, and texts that may be absent.
-/

namespace DonationSite.Vat

/-- A text that an answer may hold. -/
inductive TextField where
  | name
  | address
  | countryCode
  | vatNumber
  | faultCode
  | faultMessage
  deriving DecidableEq, Repr

namespace TextField

/-- The texts in the order of the list form. -/
def all : List TextField :=
  [.name, .address, .countryCode, .vatNumber, .faultCode, .faultMessage]

/-- The key of a text in the object form. -/
def key : TextField → String
  | .name => "name"
  | .address => "address"
  | .countryCode => "countryCode"
  | .vatNumber => "vatNumber"
  | .faultCode => "fault_code"
  | .faultMessage => "fault_message"

/-- Every text that an answer may hold is listed. -/
theorem mem_all (field : TextField) : field ∈ all := by
  cases field <;> decide

/-- No text is listed twice. -/
theorem nodup_all : all.Nodup := by decide

/-- Two texts with the same key are the same. -/
theorem key_inj {field other : TextField} : field.key = other.key ↔ field = other := by
  cases field <;> cases other <;> decide

end TextField

/-- What the backend says about a VAT number. -/
structure Answer where
  valid : Bool := false
  name : Option String := none
  address : Option String := none
  countryCode : Option String := none
  vatNumber : Option String := none
  faultCode : Option String := none
  faultMessage : Option String := none
  deriving DecidableEq, Repr, Inhabited

namespace Answer

/-- A text of an answer. -/
def get (a : Answer) : TextField → Option String
  | .name => a.name
  | .address => a.address
  | .countryCode => a.countryCode
  | .vatNumber => a.vatNumber
  | .faultCode => a.faultCode
  | .faultMessage => a.faultMessage

/-- An answer with one text replaced. -/
def set (a : Answer) (field : TextField) (value : Option String) : Answer :=
  match field with
  | .name => { a with name := value }
  | .address => { a with address := value }
  | .countryCode => { a with countryCode := value }
  | .vatNumber => { a with vatNumber := value }
  | .faultCode => { a with faultCode := value }
  | .faultMessage => { a with faultMessage := value }

/-- A text that was put into an answer is what the answer holds for it. -/
@[simp] theorem get_set_self (a : Answer) (field : TextField) (value : Option String) :
    (a.set field value).get field = value := by
  cases field <;> rfl

/-- Putting one text into an answer leaves the other ones as they are. -/
theorem get_set_of_ne (a : Answer) {field other : TextField} (value : Option String)
    (h : other ≠ field) : (a.set field value).get other = a.get other := by
  cases field <;> cases other <;> first | rfl | exact absurd rfl h

/-- Putting a text into an answer leaves its validity as it is. -/
@[simp] theorem valid_set (a : Answer) (field : TextField) (value : Option String) :
    (a.set field value).valid = a.valid := by
  cases field <;> rfl

/-- The validity of an answer is none of its texts. -/
theorem get_with_valid (a : Answer) (valid : Bool) (field : TextField) :
    { a with valid := valid }.get field = a.get field := by
  cases field <;> rfl

/-- An answer is its validity and its texts. -/
theorem ext_get {a b : Answer} (hvalid : a.valid = b.valid)
    (htexts : ∀ field, a.get field = b.get field) : a = b := by
  cases a
  cases b
  simp only [mk.injEq]
  exact ⟨hvalid, htexts .name, htexts .address, htexts .countryCode, htexts .vatNumber,
    htexts .faultCode, htexts .faultMessage⟩

end Answer

end DonationSite.Vat
