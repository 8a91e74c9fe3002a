import GeoBench.Shell.Pattern

/-!
# Regular expressions

The expressions that stream tools search with, in their basic and in their extended form: single
octets, sets, both ends of a line, repetitions, groups, references to groups and alternatives. A
search takes the leftmost match, and of several the one that its repetitions make longest first.

## Matching

A match is found by trying: at a place, every way in which the expression may begin is tried in
turn, and what follows the expression is tried behind it. A repetition tries to go on before it
tries to end, so the first way that succeeds has the longest repetitions in front. What a group held
is part of the place (`Spot`), so a reference to the group knows it. A turn of a repetition that
takes nothing is no turn, so none goes on for ever, and the steps of a search are bounded by the
length of the line.

## Main results

* `Found.parts_eq` — what is before a match, the match and what is behind it make up the line.
-/

namespace GeoBench.Shell

/-- A **regular expression**. -/
inductive Regex where
  | nothing
  | exactly (c : Char)
  | any
  | oneOf (negated : Bool) (members : List Member)
  | atStart
  | atEnd
  | sequence (first second : Regex)
  | either (first second : Regex)
  | repeated (least : Nat) (most? : Option Nat) (body : Regex)
  | group (number : Nat) (body : Regex)
  | same (number : Nat)
  deriving Inhabited

namespace Regex

/-! ### Reading -/

/-- What is left of an expression, and how many groups were opened. -/
structure Rest where
  text : Octets
  groups : Nat := 0

/-- The mark of an operator: plain in the extended form, behind a backslash in the basic one. -/
def mark (extended : Bool) (c : Char) : Octets :=
  if extended then [c] else ['\\', c]

/-- The numbers of a repetition between braces, up to its closing mark. -/
def bounds (extended : Bool) (cs : Octets) : Option (Nat × Option Nat × Octets) :=
  let digits (cs : Octets) : Octets := cs.takeWhile Char.isDigit
  let number (cs : Octets) : Nat := cs.foldl (fun n d => n * 10 + (d.toNat - 48)) 0
  let close := mark extended '\x7d'
  let least := digits cs
  let rest := cs.drop least.length
  match rest with
  | ',' :: more =>
    let most := digits more
    let after := more.drop most.length
    if close.isPrefixOf after then
      some (number least, if most.isEmpty then none else some (number most),
        after.drop close.length)
    else none
  | _ =>
    if close.isPrefixOf rest then some (number least, some (number least), rest.drop close.length)
    else none

mutual

/-- Alternatives. -/
def alternatives (extended : Bool) : Nat → Rest → Option (Regex × Rest)
  | 0, _ => none
  | fuel + 1, r => do
    let (first, r) ← sequenceOf extended fuel true r
    let bar := mark extended '|'
    if bar.isPrefixOf r.text then
      let (second, r) ← alternatives extended fuel { r with text := r.text.drop bar.length }
      return (either first second, r)
    else return (first, r)

/-- One part after the other. -/
def sequenceOf (extended : Bool) : Nat → Bool → Rest → Option (Regex × Rest)
  | 0, _, _ => none
  | fuel + 1, first, r => do
    if r.text.isEmpty || (mark extended '|').isPrefixOf r.text ||
        ((mark extended ')').isPrefixOf r.text) then
      return (nothing, r)
    else
      let (a, r) ← part extended fuel first r
      let (b, r) ← sequenceOf extended fuel false r
      return (sequence a b, r)

/-- A part with the repetitions behind it. -/
def part (extended : Bool) : Nat → Bool → Rest → Option (Regex × Rest)
  | 0, _, _ => none
  | fuel + 1, first, r => do
    let (a, r) ← single extended fuel first r
    let anchored := match a with | .atStart => true | _ => false
    if anchored && !extended then
      match r.text with
      | '*' :: rest => return (sequence a (exactly '*'), { r with text := rest })
      | _ => return (a, r)
    else repetitions extended fuel a r

/-- The repetitions behind a part. -/
def repetitions (extended : Bool) : Nat → Regex → Rest → Option (Regex × Rest)
  | 0, _, _ => none
  | fuel + 1, a, r =>
    let plus := mark extended '+'
    let question := mark extended '?'
    let brace := mark extended '\x7b'
    if r.text.head? == some '*' then
      repetitions extended fuel (repeated 0 none a) { r with text := r.text.drop 1 }
    else if plus.isPrefixOf r.text then
      repetitions extended fuel (repeated 1 none a) { r with text := r.text.drop plus.length }
    else if question.isPrefixOf r.text then
      repetitions extended fuel (repeated 0 (some 1) a)
        { r with text := r.text.drop question.length }
    else if brace.isPrefixOf r.text then
      match bounds extended (r.text.drop brace.length) with
      | some (least, most?, rest) =>
        repetitions extended fuel (repeated least most? a) { r with text := rest }
      | none => none
    else some (a, r)

/-- A single part. -/
def single (extended : Bool) : Nat → Bool → Rest → Option (Regex × Rest)
  | 0, _, _ => none
  | fuel + 1, first, r => do
    let opening := mark extended '('
    if opening.isPrefixOf r.text then
      let number := r.groups + 1
      let (body, r) ← alternatives extended fuel ⟨r.text.drop opening.length, number⟩
      let closing := mark extended ')'
      if closing.isPrefixOf r.text then
        return (group number body, { r with text := r.text.drop closing.length })
      else none
    else
      match r.text with
      | [] => none
      | '.' :: rest => return (any, { r with text := rest })
      | '^' :: rest =>
        if first || extended then return (atStart, { r with text := rest })
        else return (exactly '^', { r with text := rest })
      | '$' :: rest =>
        if rest.isEmpty || extended || (mark extended ')').isPrefixOf rest ||
            (mark extended '|').isPrefixOf rest then
          return (atEnd, { r with text := rest })
        else return (exactly '$', { r with text := rest })
      | '[' :: rest =>
        let inked := rest.map fun c => (⟨c, false⟩ : Glob.Inked)
        match rest with
        | '^' :: more =>
          let (ms, after) ← Glob.members true (more.map fun c => ⟨c, false⟩)
          return (oneOf true ms, { r with text := after.map Glob.Inked.char })
        | _ =>
          let (ms, after) ← Glob.members true inked
          return (oneOf false ms, { r with text := after.map Glob.Inked.char })
      | '\\' :: c :: rest =>
        if c.isDigit && c != '0' then return (same (c.toNat - 48), { r with text := rest })
        else
          match c with
          | 'n' => return (exactly '\n', { r with text := rest })
          | 't' => return (exactly '\t', { r with text := rest })
          | _ => return (exactly c, { r with text := rest })
      | c :: rest => return (exactly c, { r with text := rest })

end

/-- The expression that octets spell. -/
def ofOctets? (extended : Bool) (text : Octets) : Option Regex :=
  match alternatives extended (8 * text.length + 8) ⟨text, 0⟩ with
  | some (e, r) => if r.text.isEmpty then some e else none
  | none => none

/-- The expression for the octets as they are. -/
def verbatim (text : Octets) : Regex :=
  text.foldr (fun c e => sequence (exactly c) e) nothing

/-- The expression for one of several strings of octets. -/
def alternativesOf (texts : List Octets) : Regex :=
  match texts.map verbatim with
  | [] => nothing
  | e :: es => es.foldl either e

/-! ### Searching -/

/-- A place in a line: how far it is, what follows, and what the groups hold. -/
structure Spot where
  done : Nat
  rest : Octets
  groups : List (Nat × Octets) := []

/-- A match at a place, continued; `fuel` bounds the steps. -/
def step (ignoreCase : Bool) : Nat → Regex → Spot → (Spot → Option Spot) → Option Spot
  | 0, _, _, _ => none
  | fuel + 1, e, s, next =>
    let folded (c : Char) : Char := if ignoreCase then c.toLower else c
    match e with
    | nothing => next s
    | exactly c =>
      match s.rest with
      | d :: rest =>
        if folded c == folded d then next { s with done := s.done + 1, rest } else none
      | [] => none
    | any =>
      match s.rest with
      | _ :: rest => next { s with done := s.done + 1, rest }
      | [] => none
    | oneOf negated ms =>
      match s.rest with
      | d :: rest =>
        let held := ms.any fun m =>
          m.holds d || (ignoreCase && (m.holds d.toLower || m.holds d.toUpper))
        if held != negated then next { s with done := s.done + 1, rest } else none
      | [] => none
    | atStart => if s.done = 0 then next s else none
    | atEnd => if s.rest.isEmpty then next s else none
    | sequence a b => step ignoreCase fuel a s fun s => step ignoreCase fuel b s next
    | either a b =>
      match step ignoreCase fuel a s next with
      | some found => some found
      | none => step ignoreCase fuel b s next
    | repeated least most? a =>
      let again : Option Spot :=
        if most? = some 0 then none
        else step ignoreCase fuel a s fun t =>
          if t.done = s.done then none
          else step ignoreCase fuel (repeated (least - 1) (most?.map (· - 1)) a) t next
      match again with
      | some found => some found
      | none => if least = 0 then next s else none
    | group n a =>
      step ignoreCase fuel a s fun t =>
        next { t with groups := (n, s.rest.take (t.done - s.done)) :: t.groups }
    | same n =>
      let held := (s.groups.lookup n).getD []
      if held.isPrefixOf s.rest then
        next { s with done := s.done + held.length, rest := s.rest.drop held.length }
      else none

/-- What a search **found**. -/
structure Found where
  start : Nat
  length : Nat
  groups : List (Nat × Octets)

/-- The leftmost match in a line from a place on. -/
def searchFrom (ignoreCase : Bool) (e : Regex) (line : Octets) : Nat → Nat → Option Found
  | 0, _ => none
  | tries + 1, start =>
    match step ignoreCase (64 * line.length + 4096) e ⟨start, line.drop start, []⟩ some with
    | some s => some ⟨start, s.done - start, s.groups⟩
    | none => searchFrom ignoreCase e line tries (start + 1)

/-- The leftmost **match** in a line that does not start before a place. -/
def search (ignoreCase : Bool) (e : Regex) (line : Octets) (start : Nat) : Option Found :=
  searchFrom ignoreCase e line (line.length + 1 - start) start

/-- What is before a match, the match and what is behind it make up the line. -/
theorem Found.parts_eq (f : Found) (line : Octets) :
    line.take f.start ++ (line.drop f.start).take f.length ++
      (line.drop f.start).drop f.length = line := by
  rw [List.append_assoc, List.take_append_drop, List.take_append_drop]

end Regex

end GeoBench.Shell
