/-!
# Lines of a text

A text is cut at its line feeds; a carriage return right before a line feed belongs to the cut. The
stretch after the last line feed is a line of its own unless it is empty, so a final line feed ends
the last line and opens no new one.
-/

namespace GeoBench.Text

/-- The character before a cut, if it is a carriage return, is dropped from the end of a line that
is held in reverse. -/
def closeLine (reversed : List Char) : List Char :=
  match reversed with
  | '\r' :: rest => rest.reverse
  | other => other.reverse

/-- The lines of the characters that follow the unfinished, reversed line `unfinished`. -/
def linesFrom (unfinished : List Char) : List Char → List (List Char)
  | [] => if unfinished.isEmpty then [] else [unfinished.reverse]
  | c :: cs => if c = '\n' then closeLine unfinished :: linesFrom [] cs
      else linesFrom (c :: unfinished) cs

/-- The **lines** of a text, as characters. -/
def charLines (cs : List Char) : List (List Char) :=
  linesFrom [] cs

/-- The lines of a text. -/
def lines (s : String) : List String :=
  (charLines s.toList).map String.ofList

/-- The stretches of a list between the occurrences of a separator; one more than it occurs. -/
def splitAtSep {α : Type} [DecidableEq α] (sep : α) : List α → List (List α)
  | [] => [[]]
  | a :: as =>
    if a = sep then [] :: splitAtSep sep as
    else match splitAtSep sep as with
      | [] => [[a]]
      | first :: others => (a :: first) :: others

end GeoBench.Text
