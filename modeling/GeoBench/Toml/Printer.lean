import GeoBench.Toml.Lexeme

/-!
# Writing a settings file

The text of a table. The plain values of a table come first, one on a line; then follow its tables,
each with a section of its own, and its arrays of tables, each row with a section. A section without
plain values is left out unless it is a row or has nothing in it at all. A text is written in the
first of four forms that needs no escape; texts that need one are between double quotes. A key is
written without quotes if it is not empty and has only the characters of such keys.

## Order

The entries of a table are in the order of their keys, whatever the order was in which they were
read. A table inside a table has the path of both in its section. Nothing depends on how a value was
written before: a number in another base, a text in other quotes and a table in braces come out in
the one form that this module gives them.

## Forms of a text

The four forms are between single quotes, between double quotes, and both with three quotes for
texts of several lines. Which of them needs no escape is decided by a few traits of the text
(`TextTraits`): whether it has control characters, backslashes or line feeds, and how many quotes of
either kind come in a row.
-/

namespace GeoBench.Toml

open GeoBench.Number

/-! ### Texts -/

/-- What decides on the form of a text. -/
structure TextTraits where
  control : Bool
  backslash : Bool
  lineFeed : Bool
  doubleRun : Nat
  singleRun : Nat
  deriving DecidableEq, Repr

/-- A control character that only an escape can write; a tab and a line feed are none. -/
def isControl (c : Char) : Bool :=
  (c.toNat < 0x20 && c != '\t' && c != '\n') || c.toNat == 0x7F

/-- The longest run of a character, when `current` of them come right before. -/
def longestRun (c : Char) : Nat → List Char → Nat
  | current, [] => current
  | current, d :: ds => if d = c then longestRun c (current + 1) ds
      else max current (longestRun c 0 ds)

/-- The traits of a text. -/
def TextTraits.of (cs : List Char) : TextTraits where
  control := cs.any isControl
  backslash := cs.contains '\\'
  lineFeed := cs.contains '\n'
  doubleRun := longestRun '"' 0 cs
  singleRun := longestRun '\'' 0 cs

/-- The escape of a character, when line feeds may stay or not. -/
def escapeOf? (multiline : Bool) (c : Char) : Option (List Char) :=
  match c with
  | '\x08' => some ['\\', 'b']
  | '\t' => some ['\\', 't']
  | '\n' => if multiline then none else some ['\\', 'n']
  | '\x0c' => some ['\\', 'f']
  | '\r' => some ['\\', 'r']
  | '\\' => some ['\\', '\\']
  | c => if isControl c then some ('\\' :: 'u' :: hexDigits 4 c.toNat) else none

/-- Characters between double quotes; a quote is escaped when it follows `allowed` quotes
already. -/
def escapedFrom (multiline : Bool) (allowed : Nat) : Nat → List Char → List Char
  | _, [] => []
  | run, c :: cs =>
    if c = '"' then
      if run < allowed then '"' :: escapedFrom multiline allowed (run + 1) cs
      else '\\' :: '"' :: escapedFrom multiline allowed 0 cs
    else (escapeOf? multiline c).getD [c] ++ escapedFrom multiline allowed 0 cs

/-- A text between double quotes on one line. -/
def basicText (cs : List Char) : List Char :=
  '"' :: escapedFrom false 0 0 cs ++ ['"']

/-- A text between single quotes on one line. -/
def literalText (cs : List Char) : List Char :=
  '\'' :: cs ++ ['\'']

/-- A text between three quotes on each side; one with line feeds begins on a line of its own. -/
def multilineText (quote : Char) (lineFeed : Bool) (body : List Char) : List Char :=
  List.replicate 3 quote ++ (if lineFeed then ['\n'] else []) ++ body ++ List.replicate 3 quote

/-- A **text** in the form that fits it. -/
def textForm (cs : List Char) : List Char :=
  let t := TextTraits.of cs
  let lines := multilineText '"' t.lineFeed (escapedFrom true 2 0 cs)
  if !t.control && !t.backslash && t.doubleRun == 0 && !t.lineFeed then basicText cs
  else if !t.control && t.singleRun == 0 && !t.lineFeed then literalText cs
  else if !t.control && !t.backslash && t.doubleRun ≤ 2 then lines
  else if !t.control && t.singleRun ≤ 2 then multilineText '\'' t.lineFeed cs
  else if t.lineFeed then lines
  else basicText cs

/-! ### Keys -/

/-- Whether a key is written without quotes. -/
def isBareKey (cs : List Char) : Bool :=
  cs != [] && cs.all isBareKeyChar

/-- One part of a **key**. -/
def keyForm (key : String) : List Char :=
  let cs := key.toList
  let t := TextTraits.of cs
  if isBareKey cs then cs
  else if !t.control && !t.lineFeed && !t.backslash && t.doubleRun == 0 then basicText cs
  else if !t.control && !t.lineFeed && t.singleRun == 0 then literalText cs
  else basicText cs

/-- The parts of a key with points between. -/
def pathForm (path : List String) : String :=
  String.intercalate "." (path.map fun k => String.ofList (keyForm k))

/-! ### Values -/

/-- A number in at least `width` digits. -/
def padded (width n : Nat) : String :=
  let ds := decimalDigits n
  String.ofList (List.replicate (width - ds.length) '0' ++ ds)

/-- A date. -/
def Date.text (d : Date) : String :=
  padded 4 d.year ++ "-" ++ padded 2 d.month ++ "-" ++ padded 2 d.day

/-- The fraction of a second, without zeros at its end. -/
def fractionText (nanosecond : Nat) : String :=
  if nanosecond = 0 then ""
  else
    let ds := (padded 9 nanosecond).toList.reverse.dropWhile (· == '0')
    "." ++ String.ofList ds.reverse

/-- A time of day. -/
def Time.text (t : Time) : String :=
  padded 2 t.hour ++ ":" ++ padded 2 t.minute ++ ":" ++ padded 2 t.second ++
    fractionText t.nanosecond

/-- The distance from universal time. -/
def Offset.text : Offset → String
  | zulu => "Z"
  | minutes n =>
    (if n < 0 then "-" else "+") ++ padded 2 (n.natAbs / 60) ++ ":" ++ padded 2 (n.natAbs % 60)

/-- A moment. -/
def Moment.text : Moment → String
  | date d => d.text
  | time t => t.text
  | dateTime d t offset? => d.text ++ "T" ++ t.text ++ (offset?.map Offset.text).getD ""

/-- A float. -/
def floatText : Binary64 → String
  | .nan => "nan"
  | .infinite negative => signText negative ++ "inf"
  | .finite negative rank => plainText ".0" negative rank

mutual

/-- A value **on one line**. -/
def Value.inline : Value → String
  | .string s => String.ofList (textForm s.toList)
  | .integer n => toString n
  | .float x => floatText x
  | .boolean b => if b then "true" else "false"
  | .moment m => m.text
  | .array items => "[" ++ inlineItems items ++ "]"
  | .table [] => "\x7b\x7d"
  | .table (e :: es) => "\x7b " ++ inlineEntries (e :: es) ++ " \x7d"

/-- The members of an array on one line. -/
def inlineItems : List Value → String
  | [] => ""
  | [v] => v.inline
  | v :: w :: rest => v.inline ++ ", " ++ inlineItems (w :: rest)

/-- The entries of a table on one line. -/
def inlineEntries : List (String × Value) → String
  | [] => ""
  | [(k, v)] => String.ofList (keyForm k) ++ " = " ++ v.inline
  | (k, v) :: e :: rest =>
    String.ofList (keyForm k) ++ " = " ++ v.inline ++ ", " ++ inlineEntries (e :: rest)

end

/-! ### Sections -/

/-- Whether a value is a table. -/
def Value.isTable : Value → Bool
  | .table _ => true
  | _ => false

/-- Whether a value has sections of its own: a table, or an array of nothing but tables. -/
def Value.hasSections : Value → Bool
  | .table _ => true
  | .array items => !items.isEmpty && items.all Value.isTable
  | _ => false

/-- The lines of the plain values of a table. -/
def plainLines (entries : Entries) : String :=
  String.join (entries.map fun (k, v) =>
    if v.hasSections then "" else String.ofList (keyForm k) ++ " = " ++ v.inline ++ "\n")

/-- A text that grows by sections. -/
structure Page where
  text : String := ""
  /-- Whether nothing was written yet. -/
  blank : Bool := true

/-- A section with its head and its plain lines. An empty line comes before it, unless it is at the
top. -/
def Page.add (p : Page) (head lines : String) : Page :=
  ⟨p.text ++ (if p.blank then "" else "\n") ++ head ++ "\n" ++ lines, false⟩

mutual

/-- The sections of a value under a path. -/
def Value.sections (path : List String) : Value → Page → Page
  | .table entries, p =>
    let lines := plainLines entries
    let shown := entries.isEmpty || entries.any fun e => !e.2.hasSections
    tableSections path entries (if shown then p.add ("[" ++ pathForm path ++ "]") lines else p)
  | .array items, p =>
    if Value.hasSections (.array items) then rowSections path items p else p
  | _, p => p

/-- The sections of the values of a table. -/
def tableSections (path : List String) : List (String × Value) → Page → Page
  | [], p => p
  | (k, v) :: rest, p => tableSections path rest (v.sections (path ++ [k]) p)

/-- The sections of the rows of an array of tables. -/
def rowSections (path : List String) : List Value → Page → Page
  | [], p => p
  | .table entries :: rest, p =>
    rowSections path rest
      (tableSections path entries (p.add ("[[" ++ pathForm path ++ "]]") (plainLines entries)))
  | _ :: rest, p => rowSections path rest p

end

/-- The **text** of a table as a settings file. -/
def render (entries : Entries) : String :=
  let lines := plainLines entries
  (tableSections [] entries ⟨lines, lines.isEmpty⟩).text

end GeoBench.Toml
