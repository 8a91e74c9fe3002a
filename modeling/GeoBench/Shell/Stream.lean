import GeoBench.Shell.Expression

/-!
# Editing streams

The stream editor: a script of commands, each with the lines that it is for, is run on every line of
the input. A command that is for a range of lines is under way from the first of them to the last,
so what a line becomes may hang on the lines before it. A line that no command deletes is written
when all commands were run on it, behind what they wrote themselves.

## Conventions

A script is read into its commands before any line is looked at, and a script with a part that is no
command is refused as a whole. Addresses are numbers, the last line, or expressions; two of them
make a range, which may begin again behind its end. A replacement knows the whole match and the
groups of its expression, and replaces the first match of a line, a numbered one, or all of them.
-/

namespace GeoBench.Shell

/-- The lines of octets; a last line may lack its line feed. -/
def octetLines (cs : Octets) : List Octets :=
  go [] cs
where
  /-- The lines behind the start of one, the latest octet first. -/
  go (line : Octets) : Octets → List Octets
    | [] => if line.isEmpty then [] else [line.reverse]
    | '\n' :: rest => line.reverse :: go [] rest
    | c :: rest => go (c :: line) rest

/-- Whether octets end with a line feed, or are none. -/
def endsLine (cs : Octets) : Bool :=
  cs.isEmpty || cs.getLast? == some '\n'

namespace Editor

/-- The **address** of a line. -/
inductive Address where
  | number (n : Nat)
  | last
  | found (e : Regex)

/-- The part of a replacement. -/
inductive Inserted where
  | text (c : Char)
  | group (n : Nat)

/-- What is done with a line. -/
inductive Action where
  | replace (e : Regex) (by_ : List Inserted) (every : Bool) (nth : Nat) (print ignoreCase : Bool)
  | print
  | delete
  | quit
  | number
  | exchange (pairs : List (Char × Char))

/-- A **command**: the lines that it is for, and what is done with them. -/
structure Command where
  from? : Option Address
  to? : Option Address
  negated : Bool
  action : Action

/-! ### Reading -/

/-- Octets up to a delimiter that has no backslash before it, and what follows the delimiter. -/
def upTo (delimiter : Char) : Octets → Option (Octets × Octets)
  | [] => none
  | '\\' :: c :: rest =>
    (upTo delimiter rest).map fun (found, after) =>
      (if c == delimiter && delimiter != '\\' then (c :: found, after)
        else ('\\' :: c :: found, after))
  | c :: rest =>
    if c == delimiter then some ([], rest)
    else (upTo delimiter rest).map fun (found, after) => (c :: found, after)

/-- The parts of a replacement. -/
def insertedParts : Octets → List Inserted
  | [] => []
  | '\\' :: 'n' :: rest => .text '\n' :: insertedParts rest
  | '\\' :: 't' :: rest => .text '\t' :: insertedParts rest
  | '\\' :: c :: rest =>
    (if c.isDigit then .group (c.toNat - 48) else .text c) :: insertedParts rest
  | '&' :: rest => .group 0 :: insertedParts rest
  | c :: rest => .text c :: insertedParts rest

/-- An address, and what follows it. -/
def address (extended : Bool) (cs : Octets) : Option (Option Address × Octets) :=
  match cs with
  | '$' :: rest => some (some .last, rest)
  | '/' :: rest => do
    let (text, after) ← upTo '/' rest
    let e ← Regex.ofOctets? extended text
    return (some (.found e), after)
  | _ =>
    let digits := cs.takeWhile Char.isDigit
    if digits.isEmpty then some (none, cs)
    else
      let n := digits.foldl (fun n d => n * 10 + (d.toNat - 48)) 0
      some (some (.number n), cs.drop digits.length)

/-- A blank between the parts of a script. -/
def isGap (c : Char) : Bool := c == ' ' || c == '\t'

/-- An action, and what follows it. -/
def action (extended : Bool) (cs : Octets) : Option (Action × Octets) :=
  match cs with
  | 's' :: delimiter :: rest => do
    let (pattern, rest) ← upTo delimiter rest
    let (replacement, rest) ← upTo delimiter rest
    let e ← Regex.ofOctets? extended pattern
    let flags := rest.takeWhile fun c => c.isAlphanum
    let digits := flags.filter Char.isDigit
    let nth := digits.foldl (fun n d => n * 10 + (d.toNat - 48)) 0
    return (.replace e (insertedParts replacement) (flags.contains 'g') (max nth 1)
      (flags.contains 'p') (flags.contains 'i' || flags.contains 'I'), rest.drop flags.length)
  | 'y' :: delimiter :: rest => do
    let (source, rest) ← upTo delimiter rest
    let (target, rest) ← upTo delimiter rest
    return (.exchange (source.zip target), rest)
  | 'p' :: rest => some (.print, rest)
  | 'd' :: rest => some (.delete, rest)
  | 'q' :: rest => some (.quit, rest)
  | '=' :: rest => some (.number, rest)
  | _ => none

/-- The commands of a script. -/
def commandsWith (extended : Bool) : Nat → Octets → Option (List Command)
  | 0, _ => none
  | fuel + 1, cs => do
    let cs := cs.dropWhile fun c => isGap c || c == ';' || c == '\n'
    if cs.isEmpty then return []
    else
      let (from?, rest) ← address extended cs
      let (to?, rest) ← match from?, rest with
        | some _, ',' :: more => address extended more
        | _, _ => some (none, rest)
      let rest := rest.dropWhile isGap
      let (negated, rest) := match rest with
        | '!' :: more => (true, more.dropWhile isGap)
        | _ => (false, rest)
      let (a, rest) ← action extended rest
      let rest := rest.dropWhile isGap
      match rest with
      | [] | ';' :: _ | '\n' :: _ =>
        return { from?, to?, negated, action := a } :: (← commandsWith extended fuel rest)
      | _ => none

/-- The commands of a **script**, if it is one. -/
def commandsOf? (extended : Bool) (script : Octets) : Option (List Command) :=
  commandsWith extended (script.length + 1) script

/-! ### Running -/

/-- A line with its number and whether it is the last one. -/
structure Line where
  number : Nat
  isLast : Bool
  text : Octets

/-- Whether an address is that of a line. -/
def Address.isOf (l : Line) : Address → Bool
  | number n => l.number == n
  | last => l.isLast
  | found e => (Regex.search false e l.text 0).isSome

/-- Whether a command is for a line, when it was or was not under way before, and whether it stays
under way. -/
def Command.applies (c : Command) (under : Bool) (l : Line) : Bool × Bool :=
  match c.from?, c.to? with
  | none, _ => (!c.negated, false)
  | some a, none => (a.isOf l != c.negated, false)
  | some a, some b =>
    if under then (!c.negated, !b.isOf l)
    else if a.isOf l then
      (!c.negated, match b with
        | .number n => l.number < n
        | .last => !l.isLast
        | .found _ => true)
    else (c.negated, false)

/-- The text of a replacement for a match. -/
def insertedText (line : Octets) (f : Regex.Found) (parts : List Inserted) : Octets :=
  parts.flatMap fun
    | .text c => [c]
    | .group 0 => (line.drop f.start).take f.length
    | .group n => (f.groups.lookup n).getD []

/-- A line with matches replaced from a place on: the `nth` of them, and those behind it with
`every`. The result is the line and whether something was replaced. -/
def replaced (e : Regex) (parts : List Inserted) (every ignoreCase : Bool) (line : Octets) :
    Nat → Nat → Nat → Octets × Bool
  | 0, _, start => (line.drop start, false)
  | tries + 1, nth, start =>
    match Regex.search ignoreCase e line start with
    | none => (line.drop start, false)
    | some f =>
      let before := (line.drop start).take (f.start - start)
      let own := (line.drop f.start).take f.length
      let after := f.start + f.length
      let step := if f.length = 0 then (line.drop after).take 1 else []
      let next := after + step.length
      if nth ≤ 1 then
        let new := insertedText line f parts
        if every && next ≤ line.length && !(f.length = 0 && step.isEmpty) then
          let (rest, _) := replaced e parts every ignoreCase line tries nth next
          (before ++ new ++ step ++ rest, true)
        else (before ++ new ++ line.drop after, true)
      else if f.length = 0 && step.isEmpty then (line.drop start, false)
      else
        let (rest, done) := replaced e parts every ignoreCase line tries (nth - 1) next
        (before ++ own ++ step ++ rest, done)

/-- What running commands on a line gives: the line, what was written before it, and whether it is
deleted or the last one to be read. -/
structure Edited where
  text : Octets
  written : List Octets := []
  deleted : Bool := false
  stopped : Bool := false

/-- An action is carried out on a line. -/
def Action.perform (l : Line) (s : Edited) : Action → Edited
  | replace e parts every nth shown ignoreCase =>
    let (text, done) := replaced e parts every ignoreCase s.text (s.text.length + 2) nth 0
    { s with text, written := if done && shown then s.written ++ [text] else s.written }
  | print => { s with written := s.written ++ [s.text] }
  | delete => { s with deleted := true }
  | quit => { s with stopped := true }
  | number => { s with written := s.written ++ [Nat.toDigits 10 l.number] }
  | exchange pairs => { s with text := s.text.map fun c => (pairs.lookup c).getD c }

/-- The commands are run on a line; each of them may be under way. -/
def editLine (l : Line) : List (Command × Bool) → Edited → Edited × List (Command × Bool)
  | [], s => (s, [])
  | (c, under) :: rest, s =>
    if s.deleted || s.stopped then (s, (c, under) :: rest)
    else
      let (now, under) := c.applies under { l with text := s.text }
      let s := if now then c.action.perform l s else s
      let (s, rest) := editLine l rest s
      (s, (c, under) :: rest)

/-- The lines that commands make of lines; `quiet` writes only what a command writes. -/
def editLines (quiet : Bool) : List (Command × Bool) → List Line → List Octets
  | _, [] => []
  | cs, l :: rest =>
    let (s, cs) := editLine l cs { text := l.text }
    let own := if quiet || s.deleted then s.written else s.written ++ [s.text]
    if s.stopped then own else own ++ editLines quiet cs rest

/-- The lines of a text with their numbers. -/
def numbered (texts : List Octets) : List Line :=
  texts.zipIdx.map fun (text, i) => ⟨i + 1, i + 1 = texts.length, text⟩

/-- What an **editor** makes of its input. -/
def edit (quiet : Bool) (commands : List Command) (input : Octets) : Octets :=
  let lines := editLines quiet (commands.map (·, false)) (numbered (octetLines input))
  let text := ['\n'].intercalate lines
  if lines.isEmpty then [] else if endsLine input then text ++ ['\n'] else text

end Editor

end GeoBench.Shell
