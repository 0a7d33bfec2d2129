import DonationSite.Html.Basic

/-!
# HTML as text

Trees are written without any space between nodes. Of the attributes the value comes first, then
`checked` without a value, the plain ones in order, the flags that hold with their own name as
value, and the classes last. Inputs have no body and no closing tag. Single quotes are not escaped.
-/

namespace DonationSite.Html

/-- How a character is written in text. -/
def escapeInText : Char → List Char
  | '&' => ['&', 'a', 'm', 'p', ';']
  | '<' => ['&', 'l', 't', ';']
  | '>' => ['&', 'g', 't', ';']
  | c => [c]

/-- How a character is written in the value of an attribute. -/
def escapeInValue : Char → List Char
  | '"' => ['&', 'q', 'u', 'o', 't', ';']
  | c => escapeInText c

/-- A text as it is written between tags. -/
def escapeText (s : String) : String :=
  String.ofList (s.toList.flatMap escapeInText)

/-- A text as it is written in the value of an attribute. -/
def escapeValue (s : String) : String :=
  String.ofList (s.toList.flatMap escapeInValue)

/-- An attribute with its value. -/
def printAttribute (name value : String) : String :=
  " " ++ name ++ "=\"" ++ escapeValue value ++ "\""

/-- The attributes of an element. -/
def Attributes.print (a : Attributes) : String :=
  (match a.value with
    | some value => printAttribute "value" value
    | none => "") ++
  (if a.checked then " checked" else "") ++
  String.join (a.plain.map fun (name, value) => printAttribute name value) ++
  String.join (a.flags.map fun (name, holds) => if holds then printAttribute name name else "") ++
  (if a.classes.isEmpty then "" else printAttribute "class" (" ".intercalate a.classes))

/-- Whether an element has no body. -/
def isVoid (tag : String) : Bool :=
  tag == "input"

/-- A tree as text. -/
def print {μ : Type} : Html μ → String
  | empty => ""
  | text content => escapeText content
  | element tag attributes _ body =>
    "<" ++ tag ++ attributes.print ++ ">" ++
      (if isVoid tag then "" else body.print ++ "</" ++ tag ++ ">")
  | append first second => first.print ++ second.print

end DonationSite.Html
