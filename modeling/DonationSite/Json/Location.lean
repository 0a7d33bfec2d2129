import DonationSite.Json.Failure

/-!
# Locations in a text

The line and the column of a place, and errors that tell them. Columns count bytes of the UTF-8
form; a place may lie inside a character.
-/

namespace DonationSite.Json

/-- A line and a column. -/
structure Location where
  line : Nat
  column : Nat
  deriving DecidableEq, Repr

/-- Moves a location over a number of bytes of a text. A newline starts the next line. -/
def Location.advance (here : Location) : List Char → Nat → Location
  | _, 0 => here
  | [], _ => here
  | c :: rest, bytes =>
    if c = '\n' then advance ⟨here.line + 1, 0⟩ rest (bytes - 1)
    else if bytes < c.utf8Size then ⟨here.line, here.column + bytes⟩
    else advance ⟨here.line, here.column + c.utf8Size⟩ rest (bytes - c.utf8Size)

/-- The location of a byte offset in a text: lines count from one, and the column is the number of
bytes since the line began. -/
def Location.ofOffset (text : List Char) (offset : Nat) : Location :=
  advance ⟨1, 0⟩ text offset

/-- A problem and its location. -/
structure Error where
  problem : Problem
  location : Location
  deriving DecidableEq

/-- The failure of reading a text, located in it. -/
def Failure.locate (text : List Char) (failure : Failure) : Error :=
  ⟨failure.problem, .ofOffset text (byteLength text - failure.unread)⟩

/-- The wording of an error. -/
def Error.message (e : Error) : String :=
  e.problem.message ++ " at line " ++ toString e.location.line ++
    " column " ++ toString e.location.column

end DonationSite.Json
