import GeoBench.Yaml.Character

/-!
# Cursors

A position in the text of a data file: what is still to be read, how many characters were read, and
the line and column of the next one.
-/

namespace GeoBench.Yaml

/-- A **position** in a text. -/
structure Cursor where
  rest : List Char
  index : Nat := 0
  line : Nat := 0
  column : Nat := 0

namespace Cursor

/-- The position after the next character, which is no break. -/
def next (c : Cursor) : Cursor :=
  match c.rest with
  | [] => c
  | _ :: rest => { c with rest, index := c.index + 1, column := c.column + 1 }

/-- The position `n` characters on. -/
def skip (c : Cursor) : Nat → Cursor
  | 0 => c
  | n + 1 => c.next.skip n

/-- The position at the start of the next line, if a break comes next. A carriage return and a line
feed are one break. -/
def nextLine (c : Cursor) : Cursor :=
  match c.rest with
  | '\r' :: '\n' :: rest => { rest, index := c.index + 2, line := c.line + 1, column := 0 }
  | b :: rest =>
    if isBreak b then { rest, index := c.index + 1, line := c.line + 1, column := 0 } else c
  | [] => c

/-- What the next break counts for in a text: the two widest breaks stay, the others are line
feeds. -/
def breakText (c : Cursor) : List Char :=
  match c.rest with
  | b :: _ =>
    if b == '\u2028' || b == '\u2029' then [b] else if isBreak b then ['\n'] else []
  | [] => []

/-- The characters up to the first that fails a test, and the position after them. -/
def takeWhile (p : Char → Bool) (c : Cursor) : List Char × Cursor :=
  let taken := c.rest.takeWhile p
  (taken, { c with
    rest := c.rest.dropWhile p
    index := c.index + taken.length
    column := c.column + taken.length })

/-- The position after the characters that pass a test. -/
def skipWhile (p : Char → Bool) (c : Cursor) : Cursor :=
  (c.takeWhile p).2

/-- Whether a document mark stands here: three dashes or three points at the start of a line,
followed by a gap, a break or the end. -/
def atDocumentMark (c : Cursor) : Bool :=
  c.column == 0 &&
    match c.rest with
    | '-' :: '-' :: '-' :: rest => atGapOrEnd rest
    | '.' :: '.' :: '.' :: rest => atGapOrEnd rest
    | _ => false

/-- The position after a comment, if one begins here. -/
def skipComment (c : Cursor) : Cursor :=
  match c.rest with
  | '#' :: _ => c.skipWhile fun ch => !isBreak ch
  | _ => c

end Cursor

end GeoBench.Yaml
