import GeoBench.Yaml.ScalarText
import GeoBench.Yaml.TagText

/-!
# The tokens of a text

Cutting the text of a data file into tokens. Where a block collection begins and ends follows from
columns: a collection is open as long as its lines start right of the one around it. That a scalar
is a key shows only at the colon behind it; so a place where a key may have begun is **pending**
until the colon comes or can come no more, and the key token is put in there afterwards.

A key has to stand on one line and to be no longer than 1024 characters. Where only a key can stand,
the colon has to follow.

When the text has a fault, the tokens before the first pending place can be used all the same.

## Faults

A text may be at fault behind the place where the reader of a document has all that it needs, and a
document that lacks a field is told so before anything that comes behind. So a scan gives the tokens
that can be used together with the fault, and not one of the two.

## Steps

One step of the tokenizer passes over blanks and comments, closes the blocks that end at the column
of the next character, and then reads one token by that character. Everything that later steps have
to know is in the `Lexer`: the columns of the open blocks, the open brackets, and the places where a
key may have begun, one for each bracket and one for the block.
-/

namespace GeoBench.Yaml

/-- A place where a key may have begun: the number of the token there, whether a key is needed, and
the position. -/
structure Pending where
  number : Nat
  needed : Bool
  index : Nat
  line : Nat
  column : Nat

/-- The state of the cutting. There is one place for a pending key in each collection with brackets
and one outside of all of them, the innermost first. -/
structure Lexer where
  cursor : Cursor
  tokens : Array Token := #[]
  indent : Int := -1
  indents : List Int := []
  keyAllowed : Bool := true
  flowDepth : Nat := 0
  pending : List (Option Pending) := [none]

/-- What was cut: the tokens that can be used, and the fault that came after them. -/
structure Scan where
  tokens : List Token
  fault? : Option Fault

namespace Lexer

/-- Whether a collection with brackets is open. -/
def inFlow (l : Lexer) : Bool := l.flowDepth != 0

/-- One more token. -/
def push (l : Lexer) (t : Token) : Lexer :=
  { l with tokens := l.tokens.push t }

/-- A token put in before the one with a given number. -/
def insert (l : Lexer) (number : Nat) (t : Token) : Lexer :=
  { l with tokens := (l.tokens.extract 0 number).push t ++ l.tokens.extract number l.tokens.size }

/-- How long a key may be, in characters. -/
abbrev longestKey : Nat := 1024

/-- Whether a pending key can no longer become one. -/
def isStale (l : Lexer) (p : Pending) : Bool :=
  p.line < l.cursor.line || p.index + longestKey < l.cursor.index

/-- Pending keys that can no longer become keys are given up; a needed one may not be. -/
def dropStale (l : Lexer) : Except Fault Lexer :=
  if l.pending.any fun p? => match p? with
      | some p => l.isStale p && p.needed
      | none => false then .error .token
  else .ok { l with pending := l.pending.map fun p? => p?.filter fun p => !l.isStale p }

/-- The innermost pending key is given up. -/
def dropPending (l : Lexer) : Except Fault Lexer :=
  match l.pending with
  | some p :: others =>
    if p.needed then .error .token else .ok { l with pending := none :: others }
  | _ => .ok l

/-- The next token may begin a key. -/
def savePending (l : Lexer) : Except Fault Lexer := do
  if l.keyAllowed then
    let l ← l.dropPending
    let p : Pending := {
      number := l.tokens.size
      needed := !l.inFlow && l.indent == l.cursor.column
      index := l.cursor.index, line := l.cursor.line, column := l.cursor.column }
    return { l with pending := some p :: l.pending.drop 1 }
  else return l

/-- The block collections that start right of a column are closed. -/
def closeBlocksTo (column : Int) : List Int → Int → Array Token → Int × List Int × Array Token
  | [], indent, tokens =>
    if column < indent then (-1, [], tokens.push .blockEnd) else (indent, [], tokens)
  | outer :: others, indent, tokens =>
    if column < indent then closeBlocksTo column others outer (tokens.push .blockEnd)
    else (indent, outer :: others, tokens)

/-- The block collections that start right of a column end here. -/
def unrollTo (l : Lexer) (column : Int) : Lexer :=
  if l.inFlow then l
  else
    let (indent, indents, tokens) := closeBlocksTo column l.indents l.indent l.tokens
    { l with indent, indents, tokens }

/-- A block collection begins at a column, if that is right of the one around it. Its token goes in
at the given number, or at the end. -/
def rollTo (l : Lexer) (column : Nat) (number? : Option Nat) (t : Token) : Lexer :=
  if l.inFlow || (column : Int) ≤ l.indent then l
  else
    let l := { l with indents := l.indent :: l.indents, indent := column }
    match number? with
    | some number => l.insert number t
    | none => l.push t

/-- The position of the next token, behind gaps, comments and breaks. Where a key may stand outside
of brackets, a tab is no gap. -/
def toNextToken : Nat → Lexer → Lexer
  | 0, l => l
  | fuel + 1, l =>
    let c := if l.cursor.column == 0 && l.cursor.rest.head? == some byteOrderMark
      then l.cursor.next else l.cursor
    let tabs := l.inFlow || !l.keyAllowed
    let c := (c.skipWhile fun ch => ch == ' ' || (tabs && ch == '\t')).skipComment
    match c.rest with
    | ch :: _ =>
      if isBreak ch then
        toNextToken fuel { l with cursor := c.nextLine, keyAllowed := l.keyAllowed || !l.inFlow }
      else { l with cursor := c }
    | [] => { l with cursor := c }

/-- The end of the text: every block collection is closed. -/
def finish (l : Lexer) : Except Fault Lexer := do
  let l ← (l.unrollTo (-1)).dropPending
  return l.push .streamEnd

/-- A token of one character. -/
def single (l : Lexer) (t : Token) : Lexer :=
  { l.push t with cursor := l.cursor.next }

/-- A mark between documents. -/
def documentMark (l : Lexer) (t : Token) : Except Fault Lexer := do
  let l ← (l.unrollTo (-1)).dropPending
  return { l.push t with keyAllowed := false, cursor := l.cursor.skip 3 }

/-- A directive. -/
def directiveLine (l : Lexer) : Except Fault Lexer := do
  let l ← (l.unrollTo (-1)).dropPending
  let (t, cursor) ← directive l.cursor
  return { l.push t with keyAllowed := false, cursor }

/-- The opening bracket of a collection. It may begin a key itself. -/
def openFlow (l : Lexer) (t : Token) : Except Fault Lexer := do
  let l ← l.savePending
  return { l.single t with
    pending := none :: l.pending, flowDepth := l.flowDepth + 1, keyAllowed := true }

/-- The closing bracket of a collection. -/
def closeFlow (l : Lexer) (t : Token) : Except Fault Lexer := do
  let l ← l.dropPending
  let pending := if l.inFlow then l.pending.drop 1 else l.pending
  return { l.single t with pending, flowDepth := l.flowDepth - 1, keyAllowed := false }

/-- The comma between two members of a collection with brackets. -/
def flowEntry (l : Lexer) : Except Fault Lexer := do
  let l ← l.dropPending
  return { l.single .flowEntry with keyAllowed := true }

/-- The dash before a member of a block sequence. -/
def blockEntry (l : Lexer) : Except Fault Lexer := do
  if !l.inFlow && !l.keyAllowed then .error .token
  else
    let l ← (l.rollTo l.cursor.column none .blockSequenceStart).dropPending
    return { l.single .blockEntry with keyAllowed := true }

/-- The question mark before a key. -/
def explicitKey (l : Lexer) : Except Fault Lexer := do
  if !l.inFlow && !l.keyAllowed then .error .token
  else
    let l ← (l.rollTo l.cursor.column none .blockMappingStart).dropPending
    return { l.single .key with keyAllowed := !l.inFlow }

/-- The colon before a value. A pending key becomes a key by it. -/
def colon (l : Lexer) : Except Fault Lexer :=
  match l.pending with
  | some p :: others =>
    let l := (l.insert p.number .key).rollTo p.column (some p.number) .blockMappingStart
    .ok { l.single .value with pending := none :: others, keyAllowed := false }
  | _ =>
    if !l.inFlow && !l.keyAllowed then .error .token
    else
      let l := l.rollTo l.cursor.column none .blockMappingStart
      .ok { l.single .value with keyAllowed := !l.inFlow }

/-- A token that may begin a key, cut by a reader of its own. -/
def keyable (l : Lexer) (cut : Cursor → Except Fault (Token × Bool × Cursor)) :
    Except Fault Lexer := do
  let l ← l.savePending
  let (t, keyAllowed, cursor) ← cut l.cursor
  return { l.push t with keyAllowed, cursor }

/-- A block scalar. -/
def block (l : Lexer) (literal : Bool) : Except Fault Lexer := do
  let l ← l.dropPending
  let (text, cursor) ← blockScalar literal l.indent l.cursor
  return { l.push (.scalar text .block) with keyAllowed := true, cursor }

/-- The characters that begin no plain scalar. -/
def isIndicator (c : Char) : Bool :=
  "-?:,[]#&*!|>'\"%@".toList.contains c || c == '\x60' || c == '\x7b' || c == '\x7d'

/-- Whether a plain scalar begins with these characters. -/
def beginsPlain (inFlow : Bool) (c : Char) (rest : List Char) : Bool :=
  !(isGap c || isBreak c || isIndicator c) ||
    (c == '-' && !(match rest with | d :: _ => isGap d | [] => false)) ||
    (!inFlow && (c == '?' || c == ':') && !atGapOrEnd rest)

/-- One more token, at its first character. -/
def token (l : Lexer) (c : Char) (rest : List Char) : Except Fault Lexer :=
  let opensBlock := atGapOrEnd rest
  let cursor := l.cursor
  if cursor.column == 0 && c == '%' then l.directiveLine
  else if cursor.atDocumentMark then
    l.documentMark (if c == '-' then .documentStart else .documentEnd)
  else if c == '[' then l.openFlow .flowSequenceStart
  else if c == '\x7b' then l.openFlow .flowMappingStart
  else if c == ']' then l.closeFlow .flowSequenceEnd
  else if c == '\x7d' then l.closeFlow .flowMappingEnd
  else if c == ',' then l.flowEntry
  else if c == '-' && opensBlock then l.blockEntry
  else if c == '?' && (l.inFlow || opensBlock) then l.explicitKey
  else if c == ':' && (l.inFlow || opensBlock) then l.colon
  else if c == '*' then l.keyable fun k => do
    let (name, after) ← anchorName k
    return (.alias name, false, after)
  else if c == '&' then l.keyable fun k => do
    let (name, after) ← anchorName k
    return (.anchor name, false, after)
  else if c == '!' then l.keyable fun k => do
    let (t, after) ← tagToken l.inFlow k
    return (t, false, after)
  else if c == '|' && !l.inFlow then l.block true
  else if c == '>' && !l.inFlow then l.block false
  else if c == '\'' || c == '"' then l.keyable fun k => do
    let (text, after) ← quotedScalar (c == '\'') k
    return (.scalar text .quoted, false, after)
  else if beginsPlain l.inFlow c rest then l.keyable fun k => do
    let (text, broken, after) ← plainScalar l.inFlow (l.indent + 1) k
    return (.scalar text .plain, broken, after)
  else .error .token

/-- One more token, or the end of the text. -/
def step (l : Lexer) : Except Fault Lexer := do
  let l ← (toNextToken (l.cursor.rest.length + 1) l).dropStale
  match l.cursor.rest with
  | [] => l.finish
  | c :: rest => (l.unrollTo l.cursor.column).token c rest

/-- The tokens before the first pending place. -/
def usable (l : Lexer) : List Token :=
  let limit := l.pending.foldl (fun m p? => match p? with
    | some p => min m p.number
    | none => m) l.tokens.size
  l.tokens.toList.take limit

/-- Tokens up to the end of the text or the first fault. -/
def run : Nat → Lexer → Scan
  | 0, l => ⟨l.tokens.toList, none⟩
  | fuel + 1, l =>
    if l.tokens.back? == some .streamEnd then ⟨l.tokens.toList, none⟩
    else
      match l.dropStale with
      | .error fault => ⟨l.usable, some fault⟩
      | .ok l =>
        match l.step with
        | .error fault => ⟨l.usable, some fault⟩
        | .ok l' => run fuel l'

end Lexer

/-- The **tokens** of a text. A character that no data file may hold is a fault at once. -/
def Scan.ofText (text : String) : Scan :=
  let cs := text.toList
  if cs.all isAllowed then Lexer.run (cs.length + 2) { cursor := { rest := cs } }
  else ⟨[], some .character⟩

end GeoBench.Yaml
