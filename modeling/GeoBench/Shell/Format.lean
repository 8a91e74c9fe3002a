import GeoBench.Shell.Arithmetic

/-!
# Formats

The two ways in which a script writes: its arguments one after the other, with escapes in them, or
by a format with conversions, which is used again as long as arguments are left.

## Conversions

A conversion has flags, a width, a precision and a letter. It takes the next argument, or an empty
one if none is left; a number that is no number is told on standard error and counts as what could
be read of it. Conversions of numbers with places are left out, and so are those that depend on a
language.

A format that takes no argument is used once, however many arguments there are.

## Main results

* `padded_length` — a padded text has at least the width.
-/

namespace GeoBench.Shell

/-- A text with its escapes taken away. -/
structure Unescaped where
  text : Octets
  /-- Whether an escape said that nothing more is to be written. -/
  stopped : Bool := false

/-- The octet of an escape of one letter. -/
def letterEscape? : Char → Option Char
  | 'a' => some '\x07'
  | 'b' => some '\x08'
  | 'f' => some '\x0c'
  | 'n' => some '\n'
  | 'r' => some '\r'
  | 't' => some '\t'
  | 'v' => some '\x0b'
  | '\\' => some '\\'
  | _ => none

/-- Whether an octet is an octal digit. -/
def isOctal (c : Char) : Bool := '0' ≤ c && c ≤ '7'

/-- The octet that octal digits name. -/
def octalChar (ds : Octets) : Char :=
  Char.ofNat (ds.foldl (fun n d => n * 8 + (d.toNat - 48)) 0 % 256)

/-- A text with the escapes of **echo** taken away. -/
def unescapeWith : Nat → Octets → Unescaped
  | 0, _ | _, [] => ⟨[], false⟩
  | _ + 1, '\\' :: 'c' :: _ => ⟨[], true⟩
  | fuel + 1, '\\' :: '0' :: rest =>
    let ds := (rest.takeWhile isOctal).take 3
    let u := unescapeWith fuel (rest.drop ds.length)
    { u with text := octalChar ds :: u.text }
  | fuel + 1, '\\' :: c :: rest =>
    match letterEscape? c with
    | some d =>
      let u := unescapeWith fuel rest
      { u with text := d :: u.text }
    | none =>
      let ds := ((c :: rest).takeWhile isOctal).take 3
      if ds.isEmpty then
        let u := unescapeWith fuel (c :: rest)
        { u with text := '\\' :: u.text }
      else
        let u := unescapeWith fuel ((c :: rest).drop ds.length)
        { u with text := octalChar ds :: u.text }
  | fuel + 1, c :: rest =>
    let u := unescapeWith fuel rest
    { u with text := c :: u.text }

/-- A text with the escapes of echo taken away. -/
def unescape (cs : Octets) : Unescaped :=
  unescapeWith (cs.length + 1) cs

/-- What **echo** writes for its arguments. -/
def echoText (arguments : List Octets) : Octets :=
  let (bare, words) := match arguments with
    | ['-', 'n'] :: rest => (true, rest)
    | rest => (false, rest)
  let u := unescape ([' '].intercalate words)
  if u.stopped || bare then u.text else u.text ++ ['\n']

/-! ### Conversions -/

/-- The flags, the width and the precision of a **conversion**. -/
structure Shape where
  left : Bool := false
  zero : Bool := false
  plus : Bool := false
  space : Bool := false
  alternate : Bool := false
  width : Nat := 0
  precision? : Option Nat := none

/-- A text brought to a width. -/
def padded (s : Shape) (cs : Octets) : Octets :=
  let gap := s.width - cs.length
  if s.left then cs ++ List.replicate gap ' ' else List.replicate gap ' ' ++ cs

/-- A padded text has at least the width. -/
theorem padded_length (s : Shape) (cs : Octets) : s.width ≤ (padded s cs).length := by
  simp only [padded]
  split <;> simp <;> omega

/-- The digits of a number with a sign or a mark before them, brought to a precision and a width. -/
def numberText (s : Shape) (mark : Octets) (digits : Octets) : Octets :=
  let digits := List.replicate (s.precision?.getD 1 - digits.length) '0' ++ digits
  if s.zero && !s.left && s.precision?.isNone then
    mark ++ List.replicate (s.width - (mark.length + digits.length)) '0' ++ digits
  else padded s (mark ++ digits)

/-- The value of an argument that should be a number, and whether it is one. -/
def argumentValue (cs : Octets) : Int × Bool :=
  match cs with
  | '\'' :: c :: _ | '"' :: c :: _ => (c.toNat, true)
  | _ =>
    match Arithmetic.readValue cs with
    | some n => (n, !cs.isEmpty)
    | none =>
      let sign := if cs.head? == some '-' then ['-'] else []
      let digits := (cs.drop sign.length).takeWhile Char.isDigit
      ((Arithmetic.readValue (sign ++ digits)).getD 0, false)

/-- What a format gave so far: what is written, the arguments that are left, whether one was taken,
the complaints about them, and whether nothing more is to be written. -/
structure Formatted where
  text : Octets := []
  arguments : List Octets
  taken : Bool := false
  complaints : List Octets := []
  stopped : Bool := false

namespace Formatted

/-- More is written. -/
def write (f : Formatted) (cs : Octets) : Formatted := { f with text := f.text ++ cs }

/-- The next argument, if one is left. -/
def next (f : Formatted) : Option Octets × Formatted :=
  match f.arguments with
  | [] => (none, { f with taken := true })
  | a :: rest => (some a, { f with arguments := rest, taken := true })

/-- The next argument as a number. -/
def nextNumber (f : Formatted) : Int × Formatted :=
  match f.next with
  | (none, f) => (0, f)
  | (some a, f) =>
    let (n, fine) := argumentValue a
    (n, if fine then f else { f with complaints := f.complaints ++ [a] })

/-- A conversion is carried out. -/
def convert (f : Formatted) (s : Shape) (letter : Char) : Formatted :=
  match letter with
  | '%' => f.write ['%']
  | 's' =>
    let (a?, f) := f.next
    let a := a?.getD []
    f.write (padded s (match s.precision? with | some n => a.take n | none => a))
  | 'b' =>
    let (a?, f) := f.next
    let u := unescape (a?.getD [])
    { f.write (padded s (match s.precision? with | some n => u.text.take n | none => u.text)) with
      stopped := u.stopped }
  | 'c' =>
    let (a?, f) := f.next
    f.write (padded s ((a?.getD []).take 1))
  | 'd' | 'i' =>
    let (n, f) := f.nextNumber
    let mark := if n < 0 then ['-'] else if s.plus then ['+'] else if s.space then [' '] else []
    f.write (numberText s mark (Nat.toDigits 10 n.natAbs))
  | 'u' =>
    let (n, f) := f.nextNumber
    f.write (numberText s [] (Nat.toDigits 10 (Arithmetic.bits n)))
  | 'o' =>
    let (n, f) := f.nextNumber
    f.write (numberText s (if s.alternate then ['0'] else []) (Nat.toDigits 8 (Arithmetic.bits n)))
  | 'x' =>
    let (n, f) := f.nextNumber
    f.write (numberText s (if s.alternate && n ≠ 0 then ['0', 'x'] else [])
      (Nat.toDigits 16 (Arithmetic.bits n)))
  | 'X' =>
    let (n, f) := f.nextNumber
    f.write (numberText s (if s.alternate && n ≠ 0 then ['0', 'X'] else [])
      (Number.hexDigits 1 (Arithmetic.bits n)))
  | other => f.write ['%', other]

end Formatted

/-- The flags of a conversion, and what follows them. -/
def flags (s : Shape) : Octets → Shape × Octets
  | '-' :: rest => flags { s with left := true } rest
  | '0' :: rest => flags { s with zero := true } rest
  | '+' :: rest => flags { s with plus := true } rest
  | ' ' :: rest => flags { s with space := true } rest
  | '#' :: rest => flags { s with alternate := true } rest
  | rest => (s, rest)

/-- A number in a conversion, or the next argument for a star. -/
def conversionNumber (cs : Octets) (f : Formatted) : Int × Octets × Formatted :=
  match cs with
  | '*' :: rest =>
    let (n, f) := f.nextNumber
    (n, rest, f)
  | _ =>
    let ds := cs.takeWhile Char.isDigit
    ((Number.readDigits 10 ds).getD 0, cs.drop ds.length, f)

/-- A format is used once. -/
def formatOnce : Nat → Octets → Formatted → Formatted
  | 0, _, f | _, [], f => f
  | fuel + 1, '%' :: rest, f =>
    let (s, rest) := flags {} rest
    let (width, rest, f) := conversionNumber rest f
    let s := if width < 0 then { s with left := true, width := width.natAbs }
      else { s with width := width.natAbs }
    let (s, rest, f) := match rest with
      | '.' :: more =>
        let (n, more, f) := conversionNumber more f
        ({ s with precision? := if n < 0 then none else some n.natAbs }, more, f)
      | other => (s, other, f)
    match rest with
    | [] => f.write ['%']
    | letter :: rest =>
      let f := f.convert s letter
      if f.stopped then f else formatOnce fuel rest f
  | fuel + 1, '\\' :: c :: rest, f =>
    match letterEscape? c with
    | some d => formatOnce fuel rest (f.write [d])
    | none =>
      let ds := ((c :: rest).takeWhile isOctal).take 3
      if ds.isEmpty then formatOnce fuel (c :: rest) (f.write ['\\'])
      else formatOnce fuel ((c :: rest).drop ds.length) (f.write [octalChar ds])
  | fuel + 1, c :: rest, f => formatOnce fuel rest (f.write [c])

/-- A format is used as long as it takes arguments and some are left. -/
def formatWith (format : Octets) : Nat → Formatted → Formatted
  | 0, f => f
  | fuel + 1, f =>
    let f := formatOnce (format.length + 1) format { f with taken := false }
    if f.stopped || !f.taken || f.arguments.isEmpty then f else formatWith format fuel f

/-- What a **format** gives for some arguments. -/
def formatted (format : Octets) (arguments : List Octets) : Formatted :=
  formatWith format (arguments.length + 1) { arguments }

end GeoBench.Shell
