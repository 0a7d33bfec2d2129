/-!
# Cutting a text into pieces

Cutting a list of characters at a separator: at every one (`split`), at the first one
(`splitFirst`), at the first two neighbouring spaces (`splitGap`), and into lines (`lines`).

The separators themselves belong to no piece. `split` always gives at least one piece, and one
piece more than there are separators.
-/

namespace DonationSite.Text

/-- The pieces between the separators, in order; the empty list has one empty piece. -/
def split (separator : Char) (cs : List Char) : List (List Char) :=
  cs.foldr place [[]]
where
  /-- Puts a character in front of the pieces of what follows it. -/
  place (c : Char) (pieces : List (List Char)) : List (List Char) :=
    if c = separator then [] :: pieces
    else match pieces with
      | [] => [[c]]
      | piece :: others => (c :: piece) :: others

/-- What stands before and after the first separator, if there is one. -/
def splitFirst (separator : Char) (cs : List Char) : Option (List Char × List Char) :=
  match cs.dropWhile (· != separator) with
  | [] => none
  | _ :: after => some (cs.takeWhile (· != separator), after)

/-- What stands before and after the first two spaces in a row, if there are any. -/
def splitGap : List Char → Option (List Char × List Char)
  | ' ' :: ' ' :: after => some ([], after)
  | c :: rest => (splitGap rest).map fun (before, after) => (c :: before, after)
  | [] => none

/-- A line without the carriage return at its end, if it has one. -/
def dropReturn (line : List Char) : List Char :=
  if line.getLast? = some '\r' then line.dropLast else line

/-- Drops the carriage return of each line that a newline ended; what follows the last newline is
a line of its own only if it is not empty, and keeps all its characters. -/
def finishLines : List (List Char) → List (List Char)
  | [] => []
  | [last] => if last.isEmpty then [] else [last]
  | line :: others => dropReturn line :: finishLines others

/-- The lines of a text: each ends at a newline, or at a carriage return and a newline, or at the
end of the text. -/
def lines (cs : List Char) : List (List Char) :=
  finishLines (split '\n' cs)

end DonationSite.Text
