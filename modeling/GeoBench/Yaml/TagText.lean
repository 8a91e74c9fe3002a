import GeoBench.Number.Integer
import GeoBench.Text.Utf8
import GeoBench.Yaml.Cursor
import GeoBench.Yaml.Fault
import GeoBench.Yaml.Token

/-!
# Tags, anchors and directives

The tokens that say something about other tokens: a tag names the kind of a value, an anchor gives a
value a name, and a directive at the start of a document fixes the version and short forms of tags.

## Faults

A tag, an anchor or a directive that is not well-formed is no token, and the text is refused for
that. Characters of a tag may be escaped as bytes, and the bytes of one character have to follow one
another and to spell it; so a tag is a text and no bytes are left in it.
-/

namespace GeoBench.Yaml

open GeoBench.Number

/-! ### Anchors -/

/-- What may follow the name of an anchor or a reference. -/
def endsName (cs : List Char) : Bool :=
  atGapOrEnd cs ||
    match cs with
    | c :: _ => ['?', ':', ',', ']', '\x7d', '%', '@', '\x60'].contains c
    | [] => true

/-- The **name** of an anchor or a reference, at its indicator. -/
def anchorName (c : Cursor) : Except Fault (String × Cursor) :=
  let (name, after) := c.next.takeWhile isNameChar
  if name = [] || !endsName after.rest then .error .token
  else .ok (String.ofList name, after)

/-! ### Tags -/

/-- The byte of an escaped character of a tag. -/
def escapedByte? (cs : List Char) : Option Nat :=
  match cs with
  | '%' :: a :: b :: _ => readDigits 16 [a, b]
  | _ => none

/-- How many bytes the character with a given first byte has. -/
def byteWidth? (b : Nat) : Option Nat :=
  if b < 0x80 then some 1
  else if 0xC0 ≤ b && b < 0xE0 then some 2
  else if 0xE0 ≤ b && b < 0xF0 then some 3
  else if 0xF0 ≤ b && b < 0xF8 then some 4
  else none

/-- The further escaped bytes of a character. -/
def escapedTail : Nat → Cursor → Except Fault (List UInt8 × Cursor)
  | 0, c => .ok ([], c)
  | n + 1, c =>
    match escapedByte? c.rest with
    | some b =>
      if 0x80 ≤ b && b < 0xC0 then do
        let (bs, after) ← escapedTail n (c.skip 3)
        return (UInt8.ofNat b :: bs, after)
      else .error .token
    | none => .error .token

/-- An escaped character of a tag. -/
def escapedChars (c : Cursor) : Except Fault (List Char × Cursor) :=
  match escapedByte? c.rest with
  | none => .error .token
  | some b =>
    match byteWidth? b with
    | none => .error .token
    | some width => do
      let (bs, after) ← escapedTail (width - 1) (c.skip 3)
      match Text.decode? ⟨(UInt8.ofNat b :: bs).toArray⟩ with
      | some s => return (s.toList, after)
      | none => .error .token

/-- The characters of a tag, reversed, behind the ones that were read. -/
def tagCharsFrom (brackets : Bool) : Nat → List Char → Cursor → Except Fault (List Char × Cursor)
  | 0, text, c => .ok (text, c)
  | fuel + 1, text, c =>
    match c.rest with
    | ch :: _ =>
      if !isTagChar brackets ch then .ok (text, c)
      else if ch == '%' then
        match escapedChars c with
        | .ok (cs, after) => tagCharsFrom brackets fuel (cs.reverse ++ text) after
        | .error fault => .error fault
      else tagCharsFrom brackets fuel (ch :: text) c.next
    | [] => .ok (text, c)

/-- The characters of a tag after `start`. There is at least one, unless `start` is more than
nothing. -/
def tagChars (brackets : Bool) (start : List Char) (c : Cursor) :
    Except Fault (List Char × Cursor) := do
  let (text, after) ← tagCharsFrom brackets (c.rest.length + 1) [] c
  if start = [] && after.index = c.index then .error .token
  else return (start.drop 1 ++ text.reverse, after)

/-- A **handle**: an exclamation mark, name characters, and another exclamation mark if there is
one. -/
def tagHandle (c : Cursor) : Except Fault (List Char × Cursor) :=
  match c.rest with
  | '!' :: _ =>
    let (name, after) := c.next.takeWhile isNameChar
    match after.rest with
    | '!' :: _ => .ok ('!' :: name ++ ['!'], after.next)
    | _ => .ok ('!' :: name, after)
  | _ => .error .token

/-- Whether a handle is closed by a second exclamation mark. -/
def isClosedHandle (handle : List Char) : Bool :=
  2 ≤ handle.length && handle.getLast? == some '!'

/-- The handle and the suffix of a tag: a verbatim one has no handle, a name after a closed handle
has that handle, and any other has the handle of one mark. The single mark is a suffix alone. -/
def tagParts (c : Cursor) : Except Fault (List Char × List Char × Cursor) :=
  match c.rest with
  | '!' :: '<' :: _ => do
    let (suffix, after) ← tagChars true [] (c.skip 2)
    match after.rest with
    | '>' :: _ => return ([], suffix, after.next)
    | _ => .error .token
  | _ => do
    let (handle, after) ← tagHandle c
    if isClosedHandle handle then
      let (suffix, after) ← tagChars false [] after
      return (handle, suffix, after)
    else
      let (suffix, after) ← tagChars false handle after
      if suffix = [] then return ([], ['!'], after) else return (['!'], suffix, after)

/-- A **tag**. A gap, a break or the end follows it, or a comma inside a collection. -/
def tagToken (inFlow : Bool) (c : Cursor) : Except Fault (Token × Cursor) := do
  let (handle, suffix, after) ← tagParts c
  let comma := inFlow && after.rest.head? == some ','
  if comma || atGapOrEnd after.rest then
    return (.tag (String.ofList handle) (String.ofList suffix), after)
  else .error .token

/-! ### Directives -/

/-- The digits of a version number, nine at most. -/
def versionNumber (c : Cursor) : Except Fault (Nat × Cursor) :=
  let (digits, after) := c.takeWhile Char.isDigit
  match readDigits 10 digits with
  | some n => if digits.length ≤ 9 then .ok (n, after) else .error .token
  | none => .error .token

/-- What a version directive says. -/
def versionValue (c : Cursor) : Except Fault (Token × Cursor) := do
  let (major, c) ← versionNumber (c.skipWhile isGap)
  match c.rest with
  | '.' :: _ =>
    let (minor, c) ← versionNumber c.next
    return (.version major minor, c)
  | _ => .error .token

/-- What a tag directive says. -/
def tagDirectiveValue (c : Cursor) : Except Fault (Token × Cursor) := do
  let (handle, c) ← tagHandle (c.skipWhile isGap)
  if !(isClosedHandle handle || handle = ['!']) then .error .token
  else if !(match c.rest with | ch :: _ => isGap ch | [] => false) then .error .token
  else
    let (lead, c) ← tagChars true [] (c.skipWhile isGap)
    if atGapOrEnd c.rest then
      return (.tagDirective (String.ofList handle) (String.ofList lead), c)
    else .error .token

/-- A **directive**, at its percent sign, up to the start of the next line. -/
def directive (c : Cursor) : Except Fault (Token × Cursor) := do
  let (name, c) := c.next.takeWhile isNameChar
  if name = [] || !atGapOrEnd c.rest then .error .token
  else
    let (token, c) ←
      if name = "YAML".toList then versionValue c
      else if name = "TAG".toList then tagDirectiveValue c
      else .error .token
    let c := (c.skipWhile isGap).skipComment
    if atBreakOrEnd c.rest then return (token, c.nextLine) else .error .token

end GeoBench.Yaml
