import GeoBench.Yaml.Character
import GeoBench.Yaml.Value

/-!
# Writing a data file

The text of a value. Collections are written as indented blocks, two columns for each level; a
sequence that is the value of a key starts at the column of the key. A string is written plainly
where that reads back as the same string, and otherwise between single quotes, between double quotes
with escapes, or as a block of lines if it has line feeds.

A **pen** keeps what the text so far ends with: the column, whether a gap stands there, and whether
the line holds nothing but the indicators of collections.

## When a string is plain

A string is written plainly if it would be read back as the same string from where it stands: it
must not mean anything else as a plain scalar, begin with an indicator, look like the mark of a
document, or hold a colon or a number sign that would end it. In a key a block of lines is not
allowed, so a key with a line feed stands between double quotes. No line is folded, however long it
is.

## Tags

A value may carry a tag of its own, which is written in front of it, in the short form if it is one
of the standard ones. Values that are read and written again keep their tags.

## Main results

* `Pen.column_indentTo` — after an indentation the pen stands exactly at that column.
-/

namespace GeoBench.Yaml

open GeoBench.Number

/-- A text that is being written. -/
structure Pen where
  text : String := ""
  column : Nat := 0
  spaced : Bool := true
  fresh : Bool := true

namespace Pen

/-- A character that is no break. -/
def put (p : Pen) (c : Char) : Pen :=
  { p with text := p.text.push c, column := p.column + 1 }

/-- Some characters, none of them a break. -/
def putAll (p : Pen) (cs : List Char) : Pen :=
  { p with text := p.text ++ String.ofList cs, column := p.column + cs.length }

/-- A break. -/
def newLine (p : Pen) (c : Char) : Pen :=
  { p with text := p.text.push c, column := 0 }

/-- An indentation, on a new line unless this one is still fit for it. -/
def indentTo (p : Pen) (indent : Nat) : Pen :=
  let p := if !p.fresh || indent < p.column || (p.column == indent && !p.spaced)
    then p.newLine '\n' else p
  { p.putAll (List.replicate (indent - p.column) ' ') with spaced := true, fresh := true }

/-- A gap, unless there is one. -/
def gap (p : Pen) : Pen :=
  if p.spaced then p else p.put ' '

/-- An indicator. Only those of block collections leave a line fresh. -/
def indicator (p : Pen) (cs : List Char) (needsGap givesGap staysFresh : Bool) : Pen :=
  let p := (if needsGap then p.gap else p).putAll cs
  { p with spaced := givesGap, fresh := p.fresh && staysFresh }

/-- The end of a scalar. -/
def closed (p : Pen) : Pen :=
  { p with spaced := false, fresh := false }

/-- After an indentation the pen stands exactly at that column. -/
theorem column_indentTo (p : Pen) (indent : Nat) : (p.indentTo indent).column = indent := by
  simp only [indentTo, putAll]
  split
  · simp [newLine]
  next h =>
    simp only [Bool.or_eq_true, Bool.not_eq_true', decide_eq_true_eq, Bool.and_eq_true,
      beq_iff_eq, not_or] at h
    simp only [List.length_replicate]
    omega

end Pen

/-! ### Tags -/

/-- The characters of a tag that are written as they are. -/
def isPlainTagChar (c : Char) : Bool :=
  isNameChar c || ";/?:@&=+$,_.~*'()[]".toList.contains c

/-- The characters of a tag with the others as escaped bytes. -/
def tagText (tag : String) : List Char :=
  tag.toList.flatMap fun c =>
    if isPlainTagChar c then [c]
    else (String.singleton c).toUTF8.toList.flatMap fun b => '%' :: hexDigits 2 b.toNat

/-- A tag as it is written: a handle of one exclamation mark and a suffix, or the mark alone in
brackets. -/
structure WrittenTag where
  handle : Bool
  suffix : String

/-- How the tag of a value is written. -/
def WrittenTag.of (tag : String) : WrittenTag :=
  let name := tagName tag
  let full := if name.toList.head? == some '!' then name else "!" ++ name
  if full = "!" then ⟨false, "!"⟩ else ⟨true, String.ofList (full.toList.drop 1)⟩

/-- The length of a tag, for the limit of short keys. -/
def WrittenTag.size (t : WrittenTag) : Nat :=
  (if t.handle then 1 else 0) + t.suffix.utf8ByteSize

/-- A tag. -/
def Pen.tag (p : Pen) (t : WrittenTag) : Pen :=
  if t.handle then
    (p.gap.putAll ('!' :: tagText t.suffix)).closed
  else
    (((p.indicator ['!', '<'] true false false).putAll (tagText t.suffix)).indicator ['>'] false
      false false)

/-! ### Scalars -/

/-- What the characters of a scalar allow. -/
structure Shape where
  multiline : Bool
  plain : Bool
  single : Bool
  block : Bool
  deriving DecidableEq, Repr

/-- The traits of a scalar that decide on its shape. -/
structure Traits where
  indicator : Bool := false
  special : Bool := false
  breaks : Bool := false
  breakSpace : Bool := false
  spaceBreak : Bool := false

/-- The traits of the characters behind `before`, if there are any before. -/
def traitsFrom (t : Traits) : Option Char → List Char → Traits
  | _, [] => t
  | before, c :: rest =>
    let gapBefore := match before with
      | none => true
      | some b => isGap b || isBreak b
    let ind :=
      (match before with
        | none => "#,[]&*!|>'\"%@".toList.contains c || c == '\x60' || c == '\x7b' || c == '\x7d' ||
            ((c == '?' || c == '-') && atGapOrEnd rest)
        | some _ => c == '#' && gapBefore) ||
      (c == ':' && atGapOrEnd rest)
    traitsFrom
      { indicator := t.indicator || ind
        special := t.special || !isPrintable c
        breaks := t.breaks || isBreak c
        breakSpace := t.breakSpace || (c == ' ' && before.any isBreak)
        spaceBreak := t.spaceBreak || (isBreak c && before == some ' ') }
      (some c) rest

/-- Whether a scalar looks like a mark between documents. -/
def looksLikeMark (cs : List Char) : Bool :=
  ['-', '-', '-'].isPrefixOf cs || ['.', '.', '.'].isPrefixOf cs

/-- Whether a space or a break stands at an end of a scalar. -/
def isEdge (c : Char) : Bool :=
  c == ' ' || isBreak c

/-- The **shape** of a scalar. -/
def Shape.of (cs : List Char) : Shape :=
  if cs = [] then ⟨false, true, true, false⟩
  else
    let t := traitsFrom {} none cs
    let edges := cs.head?.any isEdge || cs.getLast?.any isEdge
    { multiline := t.breaks
      plain := !(edges || t.breakSpace || t.spaceBreak || t.special || t.breaks || t.indicator ||
        looksLikeMark cs)
      single := !(t.breakSpace || t.spaceBreak || t.special)
      block := !(cs.getLast? == some ' ' || t.spaceBreak || t.special) }

/-- How a scalar is to be written. -/
inductive Writing where
  | plain
  | single
  | double
  | literal
  deriving DecidableEq, Repr

/-- The nearest way to the wished one that the shape of a scalar allows. -/
def Writing.allowed (wish : Writing) (shape : Shape) (empty simpleKey : Bool) : Writing :=
  let w := if wish = .plain && (!shape.plain || (empty && simpleKey)) then .single else wish
  let w := if w = .single && !shape.single then .double else w
  if w = .literal && (!shape.block || simpleKey) then .double else w

/-- The short escape of a character between double quotes. -/
def escapeLetter? (c : Char) : Option Char :=
  match c with
  | '\x00' => some '0'
  | '\x07' => some 'a'
  | '\x08' => some 'b'
  | '\t' => some 't'
  | '\n' => some 'n'
  | '\x0b' => some 'v'
  | '\x0c' => some 'f'
  | '\r' => some 'r'
  | '\x1b' => some 'e'
  | '"' => some '"'
  | '\\' => some '\\'
  | '\u0085' => some 'N'
  | '\u00a0' => some '_'
  | '\u2028' => some 'L'
  | '\u2029' => some 'P'
  | _ => none

/-- A character between double quotes. -/
def doubleQuotedChar (c : Char) : List Char :=
  if isPrintable c && !isBreak c && c != '"' && c != '\\' then [c]
  else match escapeLetter? c with
    | some letter => ['\\', letter]
    | none =>
      let n := c.toNat
      if n ≤ 0xFF then '\\' :: 'x' :: hexDigits 2 n
      else if n ≤ 0xFFFF then '\\' :: 'u' :: hexDigits 4 n
      else '\\' :: 'U' :: hexDigits 8 n

/-- Some lines, each of them indented. -/
def Pen.lines (indent : Nat) (p : Pen) : Bool → List Char → Pen × Bool
  | breaks, [] => (p, breaks)
  | breaks, c :: cs =>
    if isBreak c then Pen.lines indent { p.newLine c with fresh := true } true cs
    else
      let p := if breaks then p.indentTo indent else p
      Pen.lines indent { p.put c with fresh := false } false cs

/-- A scalar between single quotes; a quote inside is written twice. -/
def Pen.singleQuoted (p : Pen) (indent : Nat) (cs : List Char) : Pen :=
  let doubled := cs.flatMap fun c => if c = '\'' then ['\'', '\''] else [c]
  let (p, breaks) := (p.indicator ['\''] true false false).lines indent false doubled
  let p := if breaks then p.indentTo indent else p
  (p.indicator ['\''] false false false).closed

/-- The marks of a block of lines: its indentation if the lines begin with a space or a break, and
what becomes of the breaks at its end. -/
def blockHints (cs : List Char) : List Char :=
  let indentation := if cs.head?.any isEdge then ['2'] else []
  let chomping := match cs.reverse with
    | [] => ['-']
    | [c] => if isBreak c then ['+'] else ['-']
    | c :: d :: _ => if !isBreak c then ['-'] else if isBreak d then ['+'] else []
  indentation ++ chomping

/-- A scalar as a block of lines. -/
def Pen.literal (p : Pen) (indent : Nat) (cs : List Char) : Pen :=
  let p := (p.indicator ['|'] true false false).putAll (blockHints cs)
  let p := { p.newLine '\n' with spaced := true, fresh := true }
  (p.lines indent true cs).1

/-- A scalar in a given writing. -/
def Pen.scalar (p : Pen) (w : Writing) (indent : Nat) (cs : List Char) : Pen :=
  match w with
  | .plain => ((if cs = [] then p else p.gap).putAll cs).closed
  | .single => p.singleQuoted indent cs
  | .double =>
    (((p.indicator ['"'] true false false).putAll (cs.flatMap doubleQuotedChar)).indicator ['"']
      false false false).closed
  | .literal => p.literal indent cs

namespace Value

/-- How a string is best written: as a block if it has line feeds, between quotes if it would be
read as something else. -/
def stringWriting (s : String) : Writing :=
  if s.toList.contains '\n' then .literal
  else if isPaddedDigits s.toList then .single
  else match ofPlain s with
    | .ok (.string _) => .plain
    | _ => .single

/-- The text of a scalar and how it is best written; a collection has none. -/
def scalarText? : Value → Option (List Char × Writing)
  | .null => some ("null".toList, .plain)
  | .bool b => some ((if b then "true" else "false").toList, .plain)
  | .number n => some ((numberText n).toList, .plain)
  | .string s => some (s.toList, stringWriting s)
  | .tagged _ v => v.scalarText?
  | _ => none

/-- The tag of a value as it is written. -/
def writtenTag? : Value → Option WrittenTag
  | .tagged tag _ => some (.of tag)
  | _ => none

/-- How many bytes a key may take on the line of its value. -/
abbrev shortKey : Nat := 128

/-- Whether a value has no members. -/
def isEmptyCollection : Value → Bool
  | .sequence items => items.isEmpty
  | .mapping entries => entries.isEmpty
  | .tagged _ v => v.isEmptyCollection
  | _ => false

/-- Whether a key can stand on the line of its value. -/
def isSimpleKey (k : Value) : Bool :=
  let tagSize := (k.writtenTag?.map WrittenTag.size).getD 0
  match k.scalarText? with
  | some (cs, _) =>
    !(Shape.of cs).multiline && tagSize + (String.ofList cs).utf8ByteSize ≤ shortKey
  | none => k.isEmptyCollection && tagSize ≤ shortKey

/-- The indentation one level further in. -/
def deeper (indent : Option Nat) : Nat :=
  match indent with
  | none => 0
  | some n => n + 2

/-- The indentation of the lines of a scalar. -/
def lineIndent (indent : Option Nat) : Nat :=
  match indent with
  | none => 2
  | some n => n + 2

mutual

/-- A value, inside a collection with a given indentation, if there is one. `inMapping` says whether
that is a mapping, and `simpleKey` whether the value is a key on the line of its own value. -/
def write (indent : Option Nat) (inMapping simpleKey : Bool) : Value → Pen → Pen
  | .tagged tag v, p => write indent inMapping simpleKey v (p.tag (.of tag))
  | .sequence [], p =>
    (p.indicator ['['] true true false).indicator [']'] false false false
  | .mapping [], p =>
    (p.indicator ['\x7b'] true true false).indicator ['\x7d'] false false false
  | .sequence (v :: vs), p =>
    let inner := if inMapping && !p.fresh then indent.getD 0 else deeper indent
    writeItems inner (v :: vs) p
  | .mapping (e :: es), p => writeEntries (deeper indent) (e :: es) p
  | .null, p => writeScalar .null p
  | .bool b, p => writeScalar (.bool b) p
  | .number n, p => writeScalar (.number n) p
  | .string s, p => writeScalar (.string s) p
where
  /-- A scalar. -/
  writeScalar (v : Value) (p : Pen) : Pen :=
    match v.scalarText? with
    | some (cs, wish) =>
      p.scalar (wish.allowed (Shape.of cs) cs.isEmpty simpleKey) (lineIndent indent) cs
    | none => p

/-- The members of a sequence. -/
def writeItems (indent : Nat) : List Value → Pen → Pen
  | [], p => p
  | v :: vs, p =>
    writeItems indent vs
      (write (some indent) false false v ((p.indentTo indent).indicator ['-'] true false true))

/-- The entries of a mapping. -/
def writeEntries (indent : Nat) : List (Value × Value) → Pen → Pen
  | [], p => p
  | (k, v) :: rest, p =>
    let p := p.indentTo indent
    let p :=
      if k.isSimpleKey then
        (write (some indent) true true k p).indicator [':'] false false false
      else
        let p := write (some indent) true false k (p.indicator ['?'] true false true)
        (p.indentTo indent).indicator [':'] true false true
    writeEntries indent rest (write (some indent) true false v p)

end

/-- The **text** of a value as a data file. -/
def render (v : Value) : String :=
  ((write none false false v {}).indentTo 0).text

end Value

end GeoBench.Yaml
