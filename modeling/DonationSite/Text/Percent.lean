/-!
# Percent encoding

Writing a text into a form body or a cookie, and reading it back. Encoding keeps the ASCII
letters and digits and `-`, `_`, `.`, `~`, and writes every other byte of the UTF-8 form as a
percent sign and two uppercase hexadecimal digits. Decoding is lenient: a percent sign that is not
followed by two hexadecimal digits stands for itself, and reading goes on right after it.
-/

namespace DonationSite.Text.Percent

/-- The UTF-8 form of a text. -/
def bytesOf (s : String) : List UInt8 :=
  s.toUTF8.data.toList

/-- The text with the given UTF-8 form, if the bytes are one. -/
def ofBytes? (bytes : List UInt8) : Option String :=
  String.fromUTF8? ⟨bytes.toArray⟩

/-- Whether a byte is written as it stands: an ASCII letter, digit, `-`, `_`, `.` or `~`. -/
def isKept (b : UInt8) : Bool :=
  (0x30 ≤ b && b ≤ 0x39) || (0x41 ≤ b && b ≤ 0x5A) || (0x61 ≤ b && b ≤ 0x7A) ||
    b == 0x2D || b == 0x5F || b == 0x2E || b == 0x7E

/-- The uppercase hexadecimal digit of a number below sixteen. -/
def hexDigit (n : Nat) : Char :=
  if n < 10 then Char.ofNat (0x30 + n) else Char.ofNat (0x37 + n)

/-- How one byte is written. -/
def encodeByte (b : UInt8) : List Char :=
  if isKept b then [Char.ofNat b.toNat]
  else ['%', hexDigit (b.toNat / 16), hexDigit (b.toNat % 16)]

/-- The percent-encoded form of a text. -/
def encode (s : String) : String :=
  String.ofList ((bytesOf s).flatMap encodeByte)

/-- The value of a byte that is a hexadecimal digit of either case. -/
def hexValue? (b : UInt8) : Option UInt8 :=
  if 0x30 ≤ b && b ≤ 0x39 then some (b - 0x30)
  else if 0x41 ≤ b && b ≤ 0x46 then some (b - 0x37)
  else if 0x61 ≤ b && b ≤ 0x66 then some (b - 0x57)
  else none

/-- Replaces each percent sign and the two hexadecimal digits after it by the byte they name. -/
def decodeBytes : List UInt8 → List UInt8
  | 0x25 :: high :: low :: rest =>
    match hexValue? high, hexValue? low with
    | some h, some l => (16 * h + l) :: decodeBytes rest
    | _, _ => 0x25 :: decodeBytes (high :: low :: rest)
  | b :: rest => b :: decodeBytes rest
  | [] => []

/-- The text that a percent-encoded text stands for; none if its bytes are not UTF-8. -/
def decode? (s : String) : Option String :=
  ofBytes? (decodeBytes (bytesOf s))

end DonationSite.Text.Percent
