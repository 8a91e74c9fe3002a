import GeoBench.Number.Integer
import GeoBench.Yaml.Cursor
import GeoBench.Yaml.Fault

/-!
# The text of scalars

The three ways to write a scalar: plain, between quotes, and as a block of indented lines. Plain and
quoted scalars may go on over several lines, which are **folded**: one break becomes a space, and of
several breaks all but the first are kept. Blanks inside one line are kept as they are, and those
around a break are not.

A block keeps its breaks or folds them, as its mark says, and what becomes of the breaks at its end
is said by another mark. Its lines begin at the column of the first one, unless a number tells how
far they are indented.

## Where a scalar ends

A plain scalar ends before a colon that a gap follows, before a number sign behind a gap, at an
indicator of brackets inside of brackets, and before a line that is not indented far enough. A
scalar between quotes ends at its quote and nowhere else. What was read of a scalar is kept in
reverse with the blanks apart, since blanks at the end of a line are not part of it.
-/

namespace GeoBench.Yaml

open GeoBench.Number

/-- A scalar that is being read: its text so far, and the blanks and breaks since its last word. The
lists of characters are reversed. -/
structure Folding where
  text : List Char
  gaps : List Char := []
  firstBreak : List Char := []
  moreBreaks : List Char := []
  broken : Bool := false

namespace Folding

/-- The text when another word follows. -/
def joined (f : Folding) : List Char :=
  if f.broken then
    if f.firstBreak = ['\n'] then
      if f.moreBreaks = [] then ' ' :: f.text else f.moreBreaks ++ f.text
    else f.moreBreaks ++ f.firstBreak ++ f.text
  else f.gaps ++ f.text

/-- A gap follows. At the start of a line it counts for nothing. -/
def addGap (f : Folding) (c : Char) : Folding :=
  if f.broken then f else { f with gaps := c :: f.gaps }

/-- A break follows. -/
def addBreak (f : Folding) (b : List Char) : Folding :=
  if f.broken then { f with moreBreaks := b ++ f.moreBreaks }
  else { f with gaps := [], firstBreak := b, broken := true }

end Folding

/-! ### Plain scalars -/

/-- The rest of a **plain** scalar: its reversed text, whether it ends behind a break, and the
position after it. `indent` is the least column of its further lines outside of flow collections. -/
def plainFrom (inFlow : Bool) (indent : Int) :
    Nat → Bool → Folding → Cursor → Except Fault (List Char × Bool × Cursor)
  | 0, _, f, c => .ok (f.text, f.broken, c)
  | fuel + 1, inWord, f, c =>
    match c.rest with
    | [] => .ok (f.text, f.broken, c)
    | ch :: rest =>
      if isGap ch then
        if f.broken && c.column < indent && ch == '\t' then .error .token
        else plainFrom inFlow indent fuel false (f.addGap ch) c.next
      else if isBreak ch then
        plainFrom inFlow indent fuel false (f.addBreak c.breakText) c.nextLine
      else if !inWord && ((!inFlow && c.column < indent) || c.atDocumentMark || ch == '#') then
        .ok (f.text, f.broken, c)
      else if inFlow && ch == ':' && (match rest with
          | d :: _ => [',', '?', '[', ']', '\x7b', '\x7d'].contains d
          | [] => false) then
        .error .token
      else if (ch == ':' && atGapOrEnd rest) ||
          (inFlow && [',', '[', ']', '\x7b', '\x7d'].contains ch) then
        .ok (f.text, f.broken, c)
      else plainFrom inFlow indent fuel true { text := ch :: f.joined } c.next

/-- A **plain** scalar: its text, whether it ends behind a break, and the position after it. -/
def plainScalar (inFlow : Bool) (indent : Int) (c : Cursor) :
    Except Fault (String × Bool × Cursor) := do
  let (text, broken, after) ←
    plainFrom inFlow indent (c.rest.length + 1) true { text := [] } c
  return (String.ofList text.reverse, broken, after)

/-! ### Quoted scalars -/

/-- The character that a short escape stands for. -/
def shortEscape? (c : Char) : Option Char :=
  match c with
  | '0' => some '\x00'
  | 'a' => some '\x07'
  | 'b' => some '\x08'
  | 't' => some '\t'
  | '\t' => some '\t'
  | 'n' => some '\n'
  | 'v' => some '\x0b'
  | 'f' => some '\x0c'
  | 'r' => some '\r'
  | 'e' => some '\x1b'
  | ' ' => some ' '
  | '"' => some '"'
  | '/' => some '/'
  | '\\' => some '\\'
  | 'N' => some '\u0085'
  | '_' => some '\u00a0'
  | 'L' => some '\u2028'
  | 'P' => some '\u2029'
  | _ => none

/-- How many digits follow the letter of a numeric escape. -/
def escapeWidth? (c : Char) : Option Nat :=
  match c with
  | 'x' => some 2
  | 'u' => some 4
  | 'U' => some 8
  | _ => none

/-- The character with a number, if there is one. -/
def charOfNat? (n : Nat) : Option Char :=
  if h : n.isValidChar then some (Char.ofNatAux n h) else none

/-- The character of an escape, without its backslash, and how many characters it takes. -/
def escape? (cs : List Char) : Option (Char × Nat) :=
  match cs with
  | [] => none
  | e :: rest =>
    match shortEscape? e with
    | some c => some (c, 1)
    | none =>
      match escapeWidth? e with
      | none => none
      | some width =>
        let digits := rest.take width
        if digits.length = width then
          (readDigits 16 digits).bind charOfNat? |>.map fun c => (c, width + 1)
        else none

/-- The rest of a scalar between **quotes**: its reversed text and the position after the closing
quote. -/
def quotedFrom (single : Bool) : Nat → Folding → Cursor → Except Fault (List Char × Cursor)
  | 0, _, _ => .error .token
  | fuel + 1, f, c =>
    match c.rest with
    | [] => .error .token
    | ch :: rest =>
      if isGap ch then quotedFrom single fuel (f.addGap ch) c.next
      else if isBreak ch then quotedFrom single fuel (f.addBreak c.breakText) c.nextLine
      else if c.atDocumentMark then .error .token
      else
        let text := f.joined
        if single && ch == '\'' then
          match rest with
          | '\'' :: _ => quotedFrom single fuel { text := '\'' :: text } (c.skip 2)
          | _ => .ok (text, c.next)
        else if !single && ch == '"' then .ok (text, c.next)
        else if !single && ch == '\\' then
          match rest with
          | [] => .error .token
          | e :: _ =>
            if isBreak e then quotedFrom single fuel { text, broken := true } c.next.nextLine
            else
              match escape? rest with
              | some (d, taken) => quotedFrom single fuel { text := d :: text } (c.skip (taken + 1))
              | none => .error .token
        else quotedFrom single fuel { text := ch :: text } c.next

/-- A scalar between **quotes**, at its opening quote: its text and the position after it. -/
def quotedScalar (single : Bool) (c : Cursor) : Except Fault (String × Cursor) := do
  let (text, after) ← quotedFrom single (c.rest.length + 1) { text := [] } c.next
  return (String.ofList text.reverse, after)

/-! ### Block scalars -/

/-- What happens to the breaks at the end of a block scalar. -/
inductive Chomping where
  | strip
  | clip
  | keep
  deriving DecidableEq

/-- The position after the spaces of an indentation, at most up to the column `indent`; zero stands
for no limit. -/
def skipIndent (indent : Nat) (c : Cursor) : Cursor :=
  if indent = 0 then c.skipWhile (· == ' ')
  else c.skip ((c.rest.take (indent - c.column)).takeWhile (· == ' ')).length

/-- The empty lines before a line of a block scalar: the deepest column that their spaces reach, the
reversed breaks, and the position of the next character. -/
def blockBreaks (indent : Nat) :
    Nat → Nat → List Char → Cursor → Except Fault (Nat × List Char × Cursor)
  | 0, deepest, breaks, c => .ok (deepest, breaks, c)
  | fuel + 1, deepest, breaks, c =>
    let c := skipIndent indent c
    let deepest := max deepest c.column
    match c.rest with
    | [] => .ok (deepest, breaks, c)
    | ch :: _ =>
      if ch == '\t' && (indent == 0 || c.column < indent) then .error .token
      else if isBreak ch then blockBreaks indent fuel deepest (c.breakText ++ breaks) c.nextLine
      else .ok (deepest, breaks, c)

/-- A block scalar that is being read. The lists of characters are reversed. -/
structure BlockText where
  text : List Char := []
  lastBreak : List Char := []
  moreBreaks : List Char
  lastBlank : Bool := false

/-- The text when another line follows, which starts with a gap or not. In a folded scalar the break
between two lines that start with a word becomes a space, or nothing if empty lines follow it. -/
def BlockText.joined (b : BlockText) (literal startsBlank : Bool) : List Char :=
  if !literal && b.lastBreak == ['\n'] && !b.lastBlank && !startsBlank then
    if b.moreBreaks = [] then ' ' :: b.text else b.moreBreaks ++ b.text
  else b.moreBreaks ++ b.lastBreak ++ b.text

/-- The lines of a **block** scalar with a known indentation. -/
def blockLines (literal : Bool) (indent : Nat) :
    Nat → BlockText → Cursor → Except Fault (BlockText × Cursor)
  | 0, b, c => .ok (b, c)
  | fuel + 1, b, c =>
    match c.rest with
    | [] => .ok (b, c)
    | ch :: _ =>
      if c.column ≠ indent then .ok (b, c)
      else do
        let (line, atEnd) := c.takeWhile fun d => !isBreak d
        let text := line.reverse ++ b.joined literal (isGap ch)
        let (_, moreBreaks, after) ←
          blockBreaks indent (atEnd.rest.length + 1) 0 [] atEnd.nextLine
        blockLines literal indent fuel
          { text, lastBreak := atEnd.breakText, moreBreaks, lastBlank := isGap ch } after

/-- A digit of an indentation mark; zero is none. -/
def indentDigit? (c : Char) : Option Nat :=
  (digitValue? 10 c)

/-- The sign of a chomping mark. -/
def chompingSign? (c : Char) : Option Chomping :=
  if c == '+' then some .keep else if c == '-' then some .strip else none

/-- The marks after the indicator of a block scalar, in either order: the chomping, the indentation
(zero if none is given) and the position after them. -/
def blockMarks (c : Cursor) : Except Fault (Chomping × Nat × Cursor) :=
  let digitAt (c : Cursor) : Except Fault (Nat × Cursor) :=
    match c.rest with
    | d :: _ =>
      match indentDigit? d with
      | some 0 => .error .token
      | some n => .ok (n, c.next)
      | none => .ok (0, c)
    | [] => .ok (0, c)
  let signAt (c : Cursor) : Option (Chomping × Cursor) :=
    match c.rest with
    | s :: _ => (chompingSign? s).map fun chomping => (chomping, c.next)
    | [] => none
  match signAt c with
  | some (chomping, c) => do
    let (n, c) ← digitAt c
    return (chomping, n, c)
  | none => do
    let (n, c) ← digitAt c
    if n = 0 then return (.clip, 0, c)
    else match signAt c with
      | some (chomping, c) => return (chomping, n, c)
      | none => return (.clip, n, c)

/-- A **block** scalar, at its indicator, inside a collection with the indentation `outer`. -/
def blockScalar (literal : Bool) (outer : Int) (c : Cursor) :
    Except Fault (String × Cursor) := do
  let (chomping, increment, c) ← blockMarks c.next
  let c := (c.skipWhile isGap).skipComment
  if !atBreakOrEnd c.rest then .error .token
  else
    let c := c.nextLine
    let given : Nat := if increment = 0 then 0 else outer.toNat + increment
    let (deepest, moreBreaks, c) ← blockBreaks given (c.rest.length + 1) 0 [] c
    let indent := if given = 0 then max (max deepest (outer + 1).toNat) 1 else given
    let (b, c) ← blockLines literal indent (c.rest.length + 1) { moreBreaks } c
    let text := match chomping with
      | .strip => b.text
      | .clip => b.lastBreak ++ b.text
      | .keep => b.moreBreaks ++ b.lastBreak ++ b.text
    return (String.ofList text.reverse, c)

end GeoBench.Yaml
