import GeoBench.Number.Integer
import GeoBench.Toml.Value

/-!
# The words of a settings file

Reading keys, texts, numbers, dates and times. Each reader takes the characters to come and gives
what it read and the characters behind it. None of them looks further than the word it reads, so a
word is the same whatever follows it.

## What is refused

A number may have single underscores between its digits and no zero in front; a number that does not
fit into 64 bits is refused, as is a date that is not in the calendar and a time that is not on the
clock, where the second of a leap is allowed. A text on one line may hold no control character but
the tab, and its escapes have to name a character.

## Longest readings

A reader takes as many characters as belong to its word and refuses none that come behind. Whether
what comes behind may stand there is for the reader of lines to say, which asks for a gap, a comment
or the end of the line. So `1.2.3` is a number with characters behind it, and is refused there.
-/

namespace GeoBench.Toml

open GeoBench.Number

/-- A space or a tab. -/
def isGap (c : Char) : Bool :=
  c == ' ' || c == '\t'

/-- The characters behind gaps. -/
def skipGaps (cs : List Char) : List Char :=
  cs.dropWhile isGap

/-- A character inside a line: a tab, or one that is no control. -/
def isLineChar (c : Char) : Bool :=
  c == '\t' || (0x20 ≤ c.toNat && c.toNat != 0x7F)

/-- The characters behind a line feed, with a carriage return before it or not. -/
def lineFeed? : List Char → Option (List Char)
  | '\n' :: rest => some rest
  | '\r' :: '\n' :: rest => some rest
  | _ => none

/-- The characters behind a comment, if one begins here. -/
def skipComment : List Char → List Char
  | '#' :: rest => rest.dropWhile isLineChar
  | cs => cs

/-- The characters behind the end of a line: gaps, a comment, and a line feed unless the text
ends. -/
def lineEnd (cs : List Char) : Except Fault (List Char) :=
  match skipComment (skipGaps cs) with
  | [] => .ok []
  | rest =>
    match lineFeed? rest with
    | some after => .ok after
    | none => .error .grammar

/-- The characters behind gaps, comments and line feeds; `fuel` bounds how many lines. -/
def skipLines : Nat → List Char → List Char
  | 0, cs => cs
  | fuel + 1, cs =>
    let rest := skipComment (skipGaps cs)
    match lineFeed? rest with
    | some after => skipLines fuel after
    | none => rest

/-! ### Texts -/

/-- The character that a short escape stands for. -/
def shortEscape? (c : Char) : Option Char :=
  match c with
  | 'b' => some '\x08'
  | 't' => some '\t'
  | 'n' => some '\n'
  | 'f' => some '\x0c'
  | 'r' => some '\r'
  | '"' => some '"'
  | '\\' => some '\\'
  | _ => none

/-- The character with a number in hexadecimal digits, if there is one. -/
def charOfHex? (digits : List Char) : Option Char :=
  (readDigits 16 digits).bind fun n =>
    if h : n.isValidChar then some (Char.ofNatAux n h) else none

/-- The character of an escape, behind its backslash. -/
def escape (cs : List Char) : Except Fault (Char × List Char) :=
  match cs with
  | [] => .error .grammar
  | c :: rest =>
    let width := if c = 'u' then 4 else if c = 'U' then 8 else 0
    if width = 0 then
      match shortEscape? c with
      | some d => .ok (d, rest)
      | none => .error .grammar
    else if (rest.take width).length = width then
      match charOfHex? (rest.take width) with
      | some d => .ok (d, rest.drop width)
      | none => .error .grammar
    else .error .grammar

/-- The rest of a text between **double quotes** on one line, behind some reversed characters. -/
def basicFrom : Nat → List Char → List Char → Except Fault (List Char × List Char)
  | 0, _, _ => .error .grammar
  | fuel + 1, text, cs =>
    match cs with
    | '"' :: rest => .ok (text.reverse, rest)
    | '\\' :: rest =>
      match escape rest with
      | .ok (c, rest) => basicFrom fuel (c :: text) rest
      | .error fault => .error fault
    | c :: rest => if isLineChar c then basicFrom fuel (c :: text) rest else .error .grammar
    | [] => .error .grammar

/-- The rest of a text between **single quotes** on one line. -/
def literalRest (cs : List Char) : Except Fault (List Char × List Char) :=
  let text := cs.takeWhile fun c => isLineChar c && c != '\''
  match cs.drop text.length with
  | '\'' :: rest => .ok (text, rest)
  | _ => .error .grammar

/-- The characters behind blanks of every kind, with the line feeds among them. -/
def skipBlankLines : Nat → List Char → List Char
  | 0, cs => cs
  | fuel + 1, cs =>
    let rest := skipGaps cs
    match lineFeed? rest with
    | some after => skipBlankLines fuel after
    | none => rest

/-- The end of a text over several lines at a run of quotes, if the run is long enough: how many of
its quotes belong to the text. -/
def closingQuotes? (run : Nat) : Option Nat :=
  if run < 3 then none else some (min run 5 - 3)

/-- The rest of a text over **several lines** between three quotes, behind some reversed characters.
`quote` is the kind of quote, and only double ones know escapes. -/
def multilineFrom (quote : Char) :
    Nat → List Char → List Char → Except Fault (List Char × List Char)
  | 0, _, _ => .error .grammar
  | fuel + 1, text, cs =>
    match cs with
    | [] => .error .grammar
    | c :: rest =>
      if c = quote then
        let run := (cs.takeWhile (· == quote)).length
        match closingQuotes? run with
        | some extra =>
          .ok ((List.replicate extra quote ++ text).reverse, cs.drop (extra + 3))
        | none => multilineFrom quote fuel (List.replicate run quote ++ text) (cs.drop run)
      else if c = '\\' && quote == '"' then
        match lineFeed? (skipGaps rest) with
        | some after => multilineFrom quote fuel text (skipBlankLines (after.length + 1) after)
        | none =>
          match escape rest with
          | .ok (d, rest) => multilineFrom quote fuel (d :: text) rest
          | .error fault => .error fault
      else
        match lineFeed? cs with
        | some after => multilineFrom quote fuel ('\n' :: text) after
        | none =>
          if isLineChar c then multilineFrom quote fuel (c :: text) rest else .error .grammar

/-- A **text** in any of its four forms. -/
def string (cs : List Char) : Except Fault (List Char × List Char) :=
  let multiline (quote : Char) (rest : List Char) : Except Fault (List Char × List Char) :=
    multilineFrom quote (rest.length + 1) [] ((lineFeed? rest).getD rest)
  match cs with
  | '"' :: '"' :: '"' :: rest => multiline '"' rest
  | '\'' :: '\'' :: '\'' :: rest => multiline '\'' rest
  | '"' :: rest => basicFrom (rest.length + 1) [] rest
  | '\'' :: rest => literalRest rest
  | _ => .error .grammar

/-! ### Keys -/

/-- A character of a key without quotes. -/
def isBareKeyChar (c : Char) : Bool :=
  c.isAlphanum || c == '_' || c == '-'

/-- One part of a key. -/
def keyPart (cs : List Char) : Except Fault (String × List Char) :=
  match cs with
  | '"' :: rest => do
    let (text, rest) ← basicFrom (rest.length + 1) [] rest
    return (String.ofList text, rest)
  | '\'' :: rest => do
    let (text, rest) ← literalRest rest
    return (String.ofList text, rest)
  | _ =>
    let part := cs.takeWhile isBareKeyChar
    if part = [] then .error .grammar else .ok (String.ofList part, cs.drop part.length)

/-- The further parts of a key. -/
def keyTail : Nat → List Char → Except Fault (List String × List Char)
  | 0, _ => .error .grammar
  | fuel + 1, cs =>
    match skipGaps cs with
    | '.' :: rest => do
      let (part, rest) ← keyPart (skipGaps rest)
      let (parts, rest) ← keyTail fuel rest
      return (part :: parts, rest)
    | rest => .ok ([], rest)

/-- How many parts a key may have, and how deep values may stand inside one another, less one. -/
abbrev depthLimit : Nat := 80

/-- A **key**: parts with points between, and gaps around all of them. -/
def key (cs : List Char) : Except Fault (List String × List Char) := do
  let (first, rest) ← keyPart (skipGaps cs)
  let (others, rest) ← keyTail (rest.length + 1) rest
  if others.length + 1 < depthLimit then return (first :: others, rest) else .error .nesting

/-! ### Numbers -/

/-- Digits with single underscores between them, of which the first passes a test of its own; the
digits and the characters behind. -/
def digitsFrom (isDigit : Char → Bool) : Nat → List Char → List Char × List Char
  | 0, cs => ([], cs)
  | fuel + 1, cs =>
    match cs with
    | '_' :: d :: rest =>
      if isDigit d then
        let (ds, rest) := digitsFrom isDigit fuel rest
        (d :: ds, rest)
      else ([], cs)
    | d :: rest =>
      if isDigit d then
        let (ds, rest) := digitsFrom isDigit fuel rest
        (d :: ds, rest)
      else ([], cs)
    | [] => ([], [])

/-- A run of digits that starts with one. -/
def digitRun (isDigit : Char → Bool) (cs : List Char) : Except Fault (List Char × List Char) :=
  match cs with
  | d :: _ =>
    if isDigit d then .ok (digitsFrom isDigit (cs.length + 1) cs) else .error .grammar
  | [] => .error .grammar

/-- An optional sign. -/
def sign : List Char → List Char × List Char
  | '+' :: rest => ([], rest)
  | '-' :: rest => (['-'], rest)
  | cs => ([], cs)

/-- A decimal whole number: its sign if that is a minus, and its digits, of which the first is no
superfluous zero. -/
def decimal (cs : List Char) : Except Fault (List Char × List Char) := do
  let (minus, rest) := sign cs
  match rest with
  | '0' :: rest => return (minus ++ ['0'], rest)
  | _ =>
    let (ds, rest) ← digitRun Char.isDigit rest
    return (minus ++ ds, rest)

/-- A **whole number** in one of the four bases, in the range of 64 bits. -/
def integer (cs : List Char) : Except Fault (Value × List Char) :=
  let based (base : Nat) (rest : List Char) : Except Fault (Value × List Char) := do
    let (ds, rest) ← digitRun (fun c => (digitValue? base c).isSome) rest
    match readSigned 64 base ds with
    | some n => return (.integer n, rest)
    | none => .error .range
  match cs with
  | '0' :: 'x' :: rest => based 16 rest
  | '0' :: 'o' :: rest => based 8 rest
  | '0' :: 'b' :: rest => based 2 rest
  | _ => do
    let (ds, rest) ← decimal cs
    match readSigned 64 10 ds with
    | some n => return (.integer n, rest)
    | none => .error .range

/-- The exponent of a float. -/
def exponentPart : List Char → Option (List Char × List Char)
  | e :: rest =>
    if e = 'e' || e = 'E' then
      let (minus, rest) := sign rest
      match digitRun Char.isDigit rest with
      | .ok (ds, rest) => some ('e' :: minus ++ ds, rest)
      | .error _ => none
    else none
  | [] => none

/-- The fraction of a float. -/
def fractionPart : List Char → Option (List Char × List Char)
  | '.' :: rest =>
    match digitRun Char.isDigit rest with
    | .ok (ds, rest) => some ('.' :: ds, rest)
    | .error _ => none
  | _ => none

/-- A **float**: a decimal number with a fraction or an exponent or both, or a word for what is not
finite. -/
def float (cs : List Char) : Except Fault (Value × List Char) :=
  let (minus, unsigned) := sign cs
  match unsigned with
  | 'i' :: 'n' :: 'f' :: rest => .ok (.float (.infinite (minus ≠ [])), rest)
  | 'n' :: 'a' :: 'n' :: rest => .ok (.float .nan, rest)
  | _ => do
    let (whole, rest) ← decimal cs
    let (tail, rest) ←
      match fractionPart rest with
      | some (fraction, rest) =>
        match exponentPart rest with
        | some (exponent, rest) => Except.ok (fraction ++ exponent, rest)
        | none => Except.ok (fraction, rest)
      | none =>
        match exponentPart rest with
        | some (exponent, rest) => Except.ok (exponent, rest)
        | none => Except.error .grammar
    match readSignedNumeral (whole ++ tail) with
    | some (.infinite false) => .error .range
    | some x => return (.float x, rest)
    | none => .error .grammar

/-! ### Dates and times -/

/-- A number of exactly `width` digits within bounds. -/
def fixed (width lowest highest : Nat) (cs : List Char) : Except Fault (Nat × List Char) :=
  let ds := cs.take width
  if ds.length = width && ds.all Char.isDigit then
    match readDigits 10 ds with
    | some n => if lowest ≤ n && n ≤ highest then .ok (n, cs.drop width) else .error .range
    | none => .error .grammar
  else .error .grammar

/-- A given character. -/
def expect (c : Char) : List Char → Except Fault (List Char)
  | d :: rest => if d = c then .ok rest else .error .grammar
  | [] => .error .grammar

/-- Whether a year has a day more. -/
def isLeapYear (year : Nat) : Bool :=
  year % 4 == 0 && (year % 100 != 0 || year % 400 == 0)

/-- How many days a month has. -/
def daysIn (year month : Nat) : Nat :=
  if month = 2 then (if isLeapYear year then 29 else 28)
  else if month = 4 || month = 6 || month = 9 || month = 11 then 30
  else 31

/-- A date. -/
def date (cs : List Char) : Except Fault (Date × List Char) := do
  let (year, cs) ← fixed 4 0 9999 cs
  let cs ← expect '-' cs
  let (month, cs) ← fixed 2 1 12 cs
  let cs ← expect '-' cs
  let (day, cs) ← fixed 2 1 (daysIn year month) cs
  return (⟨year, month, day⟩, cs)

/-- The nanoseconds that the digits of a fraction give; digits from the tenth on count for
nothing. -/
def nanoseconds (digits : List Char) : Nat :=
  ((readDigits 10 ((digits ++ List.replicate 9 '0').take 9)).getD 0)

/-- A time of day. A minute may have a second more. -/
def time (cs : List Char) : Except Fault (Time × List Char) := do
  let (hour, cs) ← fixed 2 0 23 cs
  let cs ← expect ':' cs
  let (minute, cs) ← fixed 2 0 59 cs
  let cs ← expect ':' cs
  let (second, cs) ← fixed 2 0 60 cs
  match cs with
  | '.' :: rest =>
    let digits := rest.takeWhile Char.isDigit
    if digits = [] then .error .grammar
    else return (⟨hour, minute, second, nanoseconds digits⟩, rest.drop digits.length)
  | _ => return (⟨hour, minute, second, 0⟩, cs)

/-- The distance from universal time, if one is given. -/
def offset? (cs : List Char) : Except Fault (Option Offset × List Char) :=
  let distance (negative : Bool) (rest : List Char) :
      Except Fault (Option Offset × List Char) := do
    let (hours, rest) ← fixed 2 0 23 rest
    let rest ← expect ':' rest
    let (minutes, rest) ← fixed 2 0 59 rest
    let total : Int := hours * 60 + minutes
    return (some (.minutes (if negative then -total else total)), rest)
  match cs with
  | 'Z' :: rest => .ok (some .zulu, rest)
  | 'z' :: rest => .ok (some .zulu, rest)
  | '+' :: rest => distance false rest
  | '-' :: rest => distance true rest
  | _ => .ok (none, cs)

/-- The time behind a date, if there is one. -/
def timeAfterDate? (cs : List Char) : Option (Time × List Char) :=
  match cs with
  | c :: rest =>
    if c = 'T' || c = 't' || c = ' ' then
      match time rest with
      | .ok found => some found
      | .error _ => none
    else none
  | [] => none

/-- A **moment**. -/
def moment (cs : List Char) : Except Fault (Value × List Char) :=
  match date cs with
  | .ok (d, rest) =>
    match timeAfterDate? rest with
    | some (t, rest) => do
      let (o?, rest) ← offset? rest
      return (.moment (.dateTime d t o?), rest)
    | none => .ok (.moment (.date d), rest)
  | .error _ => do
    let (t, rest) ← time cs
    return (.moment (.time t), rest)

/-- A **number**, or a date or time: what begins with a digit or a sign. -/
def number (cs : List Char) : Except Fault (Value × List Char) :=
  match moment cs with
  | .ok found => .ok found
  | .error _ =>
    match float cs with
    | .ok found => .ok found
    | .error .range => .error .range
    | .error _ => integer cs

end GeoBench.Toml
