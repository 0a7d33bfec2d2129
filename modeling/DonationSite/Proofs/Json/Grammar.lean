import Mathlib.Data.List.Forall2

/-!
# The grammar of JSON

JSON texts as lists of characters, stated without a reader: blanks, strings with the texts that they
stand for, numbers, and values of any depth. Two kinds of strings are told apart. One that is read
has a text, so the surrogates in it come in pairs (`StringText`); one that is only passed over need
not (`LooseStringText`).

Items of a list and members of an object are separated alike; `Enclosed` says how, for any kind of
item.
-/

namespace DonationSite.Json

/-! ### Blanks -/

/-- Characters that may stand between the parts of a text. -/
def Spaces (cs : List Char) : Prop :=
  ∀ c ∈ cs, c ∈ [' ', '\t', '\n', '\r']

/-! ### Strings -/

/-- A character is a hexadecimal digit, of either case, with a value. -/
def HexDigit (c : Char) (n : Nat) : Prop :=
  n < 16 ∧ (c = Nat.digitChar n ∨ c = (Nat.digitChar n).toUpper)

instance (c : Char) (n : Nat) : Decidable (HexDigit c n) :=
  inferInstanceAs (Decidable (_ ∧ _))

/-- Four hexadecimal digits, and the code that they stand for. -/
inductive Hex4 : List Char → Nat → Prop where
  | mk {a b c d : Char} {i j k l : Nat} :
    HexDigit a i → HexDigit b j → HexDigit c k → HexDigit d l →
    Hex4 [a, b, c, d] (((i * 16 + j) * 16 + k) * 16 + l)

/-- The letters of escapes, with the characters that they stand for. -/
def escapeLetters : List (Char × Char) :=
  [('"', '"'), ('\\', '\\'), ('/', '/'), ('b', '\x08'), ('f', '\x0c'), ('n', '\n'), ('r', '\r'),
    ('t', '\t')]

/-- A character that stands in a string as it is. -/
def IsPlain (c : Char) : Prop :=
  0x20 ≤ c.toNat ∧ c ≠ '"' ∧ c ≠ '\\'

/-- How one character is written in a string that is read. A code is that of the character, which is
never a surrogate; characters beyond four digits are written as two codes. -/
inductive Written : List Char → Char → Prop where
  | plain {c : Char} : IsPlain c → Written [c] c
  | letter {letter c : Char} : (letter, c) ∈ escapeLetters → Written ['\\', letter] c
  | code {digits : List Char} {c : Char} : Hex4 digits c.toNat →
    Written ('\\' :: 'u' :: digits) c
  | pair {first second : List Char} {high low : Nat} {c : Char} :
    Hex4 first high → Hex4 second low →
    0xD800 ≤ high → high ≤ 0xDBFF → 0xDC00 ≤ low → low ≤ 0xDFFF →
    c.toNat = 0x10000 + (high - 0xD800) * 0x400 + (low - 0xDC00) →
    Written ('\\' :: 'u' :: first ++ '\\' :: 'u' :: second) c

/-- What may stand in a string that is passed over: any code is as good as another. -/
inductive LooselyWritten : List Char → Prop where
  | plain {c : Char} : IsPlain c → LooselyWritten [c]
  | letter {letter c : Char} : (letter, c) ∈ escapeLetters → LooselyWritten ['\\', letter]
  | code {digits : List Char} {n : Nat} : Hex4 digits n → LooselyWritten ('\\' :: 'u' :: digits)

/-- A string and the text that it stands for. -/
def StringText (cs : List Char) (text : String) : Prop :=
  ∃ parts, List.Forall₂ Written parts text.toList ∧ cs = '"' :: (parts.flatten ++ ['"'])

/-- A string that need not stand for a text. -/
def LooseStringText (cs : List Char) : Prop :=
  ∃ parts : List (List Char), (∀ part ∈ parts, LooselyWritten part) ∧
    cs = '"' :: (parts.flatten ++ ['"'])

/-! ### Numbers and words -/

/-- One decimal digit or more. -/
def Digits (cs : List Char) : Prop :=
  cs ≠ [] ∧ ∀ c ∈ cs, c.isDigit = true

/-- The whole part of a number: zero, or digits of which the first is another one. -/
inductive Whole : List Char → Prop where
  | zero : Whole ['0']
  | digits {ds : List Char} : Digits ds → ds.head? ≠ some '0' → Whole ds

/-- The fraction of a number, if there is one. -/
inductive Fraction : List Char → Prop where
  | absent : Fraction []
  | digits {ds : List Char} : Digits ds → Fraction ('.' :: ds)

/-- The exponent of a number, if there is one. -/
inductive Exponent : List Char → Prop where
  | absent : Exponent []
  | digits {mark : Char} {sign ds : List Char} :
    mark ∈ ['e', 'E'] → sign ∈ [[], ['+'], ['-']] → Digits ds → Exponent (mark :: (sign ++ ds))

/-- A number without a sign, of any size. -/
inductive UnsignedText : List Char → Prop where
  | mk {whole fraction exponent : List Char} : Whole whole → Fraction fraction →
    Exponent exponent → UnsignedText (whole ++ (fraction ++ exponent))

/-- A value that is neither a list nor an object. -/
inductive ScalarText : List Char → Prop where
  | nullWord : ScalarText ['n', 'u', 'l', 'l']
  | trueWord : ScalarText ['t', 'r', 'u', 'e']
  | falseWord : ScalarText ['f', 'a', 'l', 's', 'e']
  | string {cs : List Char} : LooseStringText cs → ScalarText cs
  | number {cs : List Char} : UnsignedText cs → ScalarText cs
  | negative {cs : List Char} : UnsignedText cs → ScalarText ('-' :: cs)

/-- A boolean. -/
inductive BooleanText : List Char → Bool → Prop where
  | yes : BooleanText ['t', 'r', 'u', 'e'] true
  | no : BooleanText ['f', 'a', 'l', 's', 'e'] false

/-- A string, or `null` for none. -/
inductive OptionalText : List Char → Option String → Prop where
  | absent : OptionalText ['n', 'u', 'l', 'l'] none
  | given {cs : List Char} {text : String} : StringText cs text → OptionalText cs (some text)

/-! ### Lists and objects -/

section Enclosed

variable {α : Type} (item : α → List Char → Prop)

/-- What follows an item, up to and with the character that closes the container: further items,
each after a comma. -/
inductive Following (closer : Char) : List α → List Char → Prop where
  | close {spaces : List Char} : Spaces spaces → Following closer [] (spaces ++ [closer])
  | more {spaces before : List Char} {x : α} {text : List Char} {xs : List α} {cs : List Char} :
    Spaces spaces → Spaces before → item x text → Following closer xs cs →
    Following closer (x :: xs) (spaces ++ ',' :: (before ++ (text ++ cs)))

/-- Items with commas between them and blanks around them, from the character that opens the
container to the one that closes it. -/
inductive Enclosed (opener closer : Char) : List α → List Char → Prop where
  | empty {spaces : List Char} : Spaces spaces →
    Enclosed opener closer [] (opener :: (spaces ++ [closer]))
  | items {before : List Char} {x : α} {text : List Char} {xs : List α} {cs : List Char} :
    Spaces before → item x text → Following item closer xs cs →
    Enclosed opener closer (x :: xs) (opener :: (before ++ (text ++ cs)))

end Enclosed

/-- An element of a list is the text of its value. -/
inductive ElementText : List Char → List Char → Prop where
  | mk (value : List Char) : ElementText value value

/-- A member of an object that is passed over: any key, and the text of its value. -/
inductive LooseMemberText : List Char → List Char → Prop where
  | mk {key before after value : List Char} : LooseStringText key → Spaces before → Spaces after →
    LooseMemberText value (key ++ (before ++ ':' :: (after ++ value)))

/-- A value of any kind and depth. -/
inductive ValueText : List Char → Prop where
  | scalar {cs : List Char} : ScalarText cs → ValueText cs
  | list {values : List (List Char)} {cs : List Char} : (∀ value ∈ values, ValueText value) →
    Enclosed ElementText '[' ']' values cs → ValueText cs
  | object {values : List (List Char)} {cs : List Char} : (∀ value ∈ values, ValueText value) →
    Enclosed LooseMemberText '\x7b' '\x7d' values cs → ValueText cs

end DonationSite.Json
