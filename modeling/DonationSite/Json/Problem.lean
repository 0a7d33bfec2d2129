import DonationSite.Binary64.Display
import DonationSite.Text.Quoted

/-!
# Problems of JSON texts

What can be wrong with a text that should be JSON of a certain form, and how a message says it.
-/

namespace DonationSite.Json

/-- A value found where a value of another type was wanted. -/
inductive Found where
  | null
  | boolean (value : Bool)
  | integer (value : Int)
  | float (value : Binary64.Finite)
  | text (value : String)
  | sequence
  | map
  deriving DecidableEq

/-- The wording for a value that was found. -/
def Found.describe : Found → String
  | .null => "null"
  | .boolean value => "boolean `" ++ (if value then "true" else "false") ++ "`"
  | .integer value => "integer `" ++ toString value ++ "`"
  | .float value => "floating point `" ++ value.displayPointed ++ "`"
  | .text value => "string " ++ Text.quote value
  | .sequence => "sequence"
  | .map => "map"

/-- What is wrong with a text. -/
inductive Problem where
  /-- The text ends where a value, or the rest of one, must come. -/
  | unfinishedValue
  /-- The text ends inside an object. -/
  | unfinishedObject
  /-- The text ends inside a list. -/
  | unfinishedList
  /-- The text ends inside a string. -/
  | unfinishedString
  /-- No value starts like this. -/
  | noValue
  /-- A wrong letter inside `true`, `false` or `null`. -/
  | noWord
  /-- The key of a member is not a string. -/
  | keyNotString
  /-- No colon after a key. -/
  | noColon
  /-- Neither a comma nor a closing brace after a member. -/
  | noCommaOrBrace
  /-- Neither a comma nor a closing bracket after an element. -/
  | noCommaOrBracket
  /-- A comma before a closing brace or bracket. -/
  | trailingComma
  /-- Something follows the value, or one element too many. -/
  | trailingCharacters
  /-- A leading zero or missing digits. -/
  | invalidNumber
  /-- A number too large to represent. -/
  | numberOutOfRange
  /-- An unknown escape letter, or a code that is not hexadecimal. -/
  | invalidEscape
  /-- The first half of a surrogate pair without a second escape. -/
  | halfPair
  /-- A surrogate that is no half of a pair. -/
  | loneSurrogate
  /-- A control character inside a string. -/
  | controlCharacter
  /-- A value of the wrong type. -/
  | wrongType (found : Found) (expected : String)
  /-- A member that must be there is not. -/
  | missingField (name : String)
  /-- A member is there twice. -/
  | duplicateField (name : String)
  /-- A list without any of the elements wanted. -/
  | emptyList (expected : String)
  deriving DecidableEq

/-- The wording of a problem. -/
def Problem.message : Problem → String
  | .unfinishedValue => "EOF while parsing a value"
  | .unfinishedObject => "EOF while parsing an object"
  | .unfinishedList => "EOF while parsing a list"
  | .unfinishedString => "EOF while parsing a string"
  | .noValue => "expected value"
  | .noWord => "expected ident"
  | .keyNotString => "key must be a string"
  | .noColon => "expected `:`"
  | .noCommaOrBrace => "expected `,` or `\x7d`"
  | .noCommaOrBracket => "expected `,` or `]`"
  | .trailingComma => "trailing comma"
  | .trailingCharacters => "trailing characters"
  | .invalidNumber => "invalid number"
  | .numberOutOfRange => "number out of range"
  | .invalidEscape => "invalid escape"
  | .halfPair => "unexpected end of hex escape"
  | .loneSurrogate => "lone leading surrogate in hex escape"
  | .controlCharacter => "control character (\\u0000-\\u001F) found while parsing a string"
  | .wrongType found expected => "invalid type: " ++ found.describe ++ ", expected " ++ expected
  | .missingField name => "missing field `" ++ name ++ "`"
  | .duplicateField name => "duplicate field `" ++ name ++ "`"
  | .emptyList expected => "invalid length 0, expected " ++ expected

end DonationSite.Json
