import GeoBench.Toml.Draft
import GeoBench.Toml.Lexeme

/-!
# Reading a settings file

The table that a settings file holds. A file is read line by line: an entry goes into the section
that was opened last, and a line in brackets opens a section. Arrays and tables in braces are values
themselves, and may stand inside one another to a fixed depth.

## Order of faults

A file is refused for its first fault, and nothing is kept of what was read before it. A key that
was given a value is not given a second one, and a section that was opened is not opened again, so
the order of the lines matters for which of two is at fault.
-/

namespace GeoBench.Toml

namespace Document

mutual

/-- A **value**, inside `depth` arrays and tables in braces. -/
def value : Nat → Nat → List Char → Except Fault (Value × List Char)
  | 0, _, _ => .error .nesting
  | fuel + 1, depth, cs =>
    match cs with
    | [] => .error .grammar
    | '[' :: rest =>
      if depth + 1 < depthLimit then do
        let (items, rest) ← arrayItems fuel (depth + 1) (skipLines (rest.length + 1) rest)
        return (.array items, rest)
      else .error .nesting
    | '\x7b' :: rest =>
      if depth + 1 < depthLimit then
        match skipGaps rest with
        | '\x7d' :: rest => .ok (.table [], rest)
        | rest => do
          let (layer, rest) ← tableEntries fuel (depth + 1) [] rest
          return (.table (Draft.layerValue layer), rest)
      else .error .nesting
    | c :: _ =>
      if c = '"' || c = '\'' then do
        let (text, rest) ← string cs
        return (.string (String.ofList text), rest)
      else if c.isDigit || c = '+' || c = '-' then number cs
      else
        match cs with
        | 't' :: 'r' :: 'u' :: 'e' :: rest => .ok (.boolean true, rest)
        | 'f' :: 'a' :: 'l' :: 's' :: 'e' :: rest => .ok (.boolean false, rest)
        | 'i' :: _ => float cs
        | 'n' :: _ => float cs
        | _ => .error .grammar

/-- The members of an array up to its closing bracket. A comma may follow the last one. -/
def arrayItems : Nat → Nat → List Char → Except Fault (List Value × List Char)
  | 0, _, _ => .error .nesting
  | fuel + 1, depth, cs =>
    match cs with
    | ']' :: rest => .ok ([], rest)
    | _ => do
      let (v, rest) ← value fuel depth cs
      match skipLines (rest.length + 1) rest with
      | ']' :: rest => return ([v], rest)
      | ',' :: rest =>
        let (vs, rest) ← arrayItems fuel depth (skipLines (rest.length + 1) rest)
        return (v :: vs, rest)
      | _ => .error .grammar

/-- The entries of a table in braces up to its closing brace, behind the ones in a layer. -/
def tableEntries : Nat → Nat → Draft.Layer → List Char → Except Fault (Draft.Layer × List Char)
  | 0, _, _, _ => .error .nesting
  | fuel + 1, depth, layer, cs => do
    let (path, rest) ← key cs
    let rest ← expect '=' rest
    let (v, rest) ← value fuel depth (skipGaps rest)
    let layer ← Draft.assign path v false layer
    match skipGaps rest with
    | '\x7d' :: rest => return (layer, rest)
    | ',' :: rest => tableEntries fuel depth layer rest
    | _ => .error .grammar

end

/-- A file that is being read: its table so far, and the path of the section that is open. -/
structure State where
  root : Draft.Layer := []
  current : List String := []

/-- One more line of a file, at its first character that is no gap: the state after it and the
characters of the lines behind. -/
def line (s : State) (cs : List Char) : Except Fault (State × List Char) :=
  match cs with
  | '[' :: '[' :: rest => do
    let (path, rest) ← key rest
    match rest with
    | ']' :: ']' :: rest =>
      return ({ root := ← Draft.openRow path s.root, current := path }, ← lineEnd rest)
    | _ => .error .grammar
  | '[' :: rest => do
    let (path, rest) ← key rest
    let rest ← expect ']' rest
    return ({ root := ← Draft.openSection path s.root, current := path }, ← lineEnd rest)
  | _ => do
    let (path, rest) ← key cs
    let rest := skipGaps (← expect '=' rest)
    let (v, rest) ← value (rest.length + 2) 0 rest
    let rest ← lineEnd rest
    let root ← Draft.alter false (Draft.assign path v) s.current false s.root
    return ({ s with root }, rest)

/-- The table of the lines to come; `fuel` bounds how many. -/
def linesFrom : Nat → State → List Char → Except Fault Draft.Layer
  | 0, _, _ => .error .grammar
  | fuel + 1, s, cs =>
    match skipLines (cs.length + 1) cs with
    | [] => .ok s.root
    | rest => do
      let (s, rest) ← line s rest
      linesFrom fuel s rest

/-- The **entries** of the table that a text holds. A byte order mark in front counts for
nothing. -/
def read (text : String) : Except Fault Entries := do
  let cs := match text.toList with
    | '\uFEFF' :: rest => rest
    | cs => cs
  return Draft.layerValue (← linesFrom (cs.length + 1) {} cs)

end Document

end GeoBench.Toml
