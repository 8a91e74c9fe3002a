import GeoBench.Shell.Script

/-!
# Reading scripts

A script is read one line of commands at a time, so that the lines before a fault can still be run.
The grammar is that of the portable shell: simple commands with assignments and redirections,
pipelines, lists, the compound commands, and functions.

## How far a reader looks

The grammar of a shell is not told from its tokens alone: the same word closes a loop where a
command may begin, and is an argument elsewhere. A reader therefore asks for the words of the
grammar only at the places where they count, and takes everything else for the pieces of a word.
Which characters end a piece depends on what encloses it (`Enclosure`), so quotes, braces and
documents within a script are read by one function with the enclosure as a parameter.

## Lines and faults

A script that breaks off in the middle runs up to the line of the fault, as one that is read from a
file does. The lines of commands in front of the fault are therefore given beside it, and the number
of the line in which a fault was found is part of its wording.

Documents within a script stand behind the line that names them. They are noted when the redirection
is read and taken in at the next line feed, so a reader carries those that are still due.

## Main results

* `Reader.continuesName_of_isMeta` — what ends a word ends a name.
-/

namespace GeoBench.Shell

/-- Where a reader stands: what is left of the script, the number of the line, and the lines that
were taken out from behind the current one. -/
structure ScriptCursor where
  rest : Octets
  line : Nat := 1
  owed : Nat := 0

namespace Reader

/-- What **encloses** the pieces that are read. -/
inductive Enclosure where
  | word
  | quotes
  | braces (inQuotes : Bool)
  | parens (depth : Nat)
  | document

/-- Whether pieces in an enclosure are taken as if they stood between double quotes. -/
def Enclosure.isQuoting : Enclosure → Bool
  | .word => false
  | .braces inQuotes => inQuotes
  | _ => true

/-- Whether the pieces are those of a document within a script. -/
def Enclosure.isDocument : Enclosure → Bool
  | .document => true
  | _ => false

/-- Whether the pieces stand between braces. -/
def Enclosure.isBraces : Enclosure → Bool
  | .braces _ => true
  | _ => false

/-- An octet that ends a word. -/
def isMeta (c : Char) : Bool :=
  c == ' ' || c == '\t' || c == '\n' || c == ';' || c == '&' || c == '|' || c == '<' || c == '>' ||
    c == '(' || c == ')'

/-- An octet that may start a name. -/
def startsName (c : Char) : Bool := c.isAlpha || c == '_'

/-- An octet of a name. -/
def continuesName (c : Char) : Bool := c.isAlphanum || c == '_'

/-- What ends a word ends a name. -/
theorem continuesName_of_isMeta {c : Char} (h : isMeta c) : continuesName c = false := by
  simp only [isMeta, Bool.or_eq_true, beq_iff_eq, or_assoc] at h
  rcases h with h | h | h | h | h | h | h | h | h | h <;> subst h <;> decide

/-- A parameter whose name is one octet that is no letter. -/
def isSpecialName (c : Char) : Bool :=
  c == '@' || c == '*' || c == '#' || c == '?' || c == '-' || c == '$' || c == '!'

/-- Whether octets are a name. -/
def isName : Octets → Bool
  | [] => false
  | c :: cs => startsName c && cs.all continuesName

/-- The words that close a part of a compound command. -/
def closingWords : List String :=
  ["then", "else", "elif", "fi", "do", "done", "esac", "\x7d"]

/-- The words that open a compound command. -/
def openingWords : List String :=
  ["if", "while", "until", "for", "case", "\x7b", "!"]

section

/-- The next octet. -/
def take? : StateT ScriptCursor (Except ScriptFault) (Option Char) := do
  let s ← get
  match s.rest with
  | [] => return none
  | '\n' :: rest =>
    set { s with rest, line := s.line + 1 + s.owed, owed := 0 }
    return some '\n'
  | c :: rest =>
    set { s with rest }
    return some c

/-- Some octets are passed over, none of which is a line feed. -/
def drop (n : Nat) : StateT ScriptCursor (Except ScriptFault) Unit :=
  modify fun s => { s with rest := s.rest.drop n }

/-- A fault at the current line. -/
def refuse {α : Type} (text : String) : StateT ScriptCursor (Except ScriptFault) α := do
  throw ⟨(← get).line, text⟩

/-- Whether some octets come next. -/
def comes (text : String) : StateT ScriptCursor (Except ScriptFault) Bool :=
  return text.toList.isPrefixOf (← get).rest

/-- The blanks and the comment that may come next are passed over. -/
def skipBlanks : StateT ScriptCursor (Except ScriptFault) Unit :=
  modify fun s => go s.rest.length s
where
  /-- The place behind the blanks. -/
  go : Nat → ScriptCursor → ScriptCursor
    | 0, s => s
    | fuel + 1, s =>
      match s.rest with
      | ' ' :: rest | '\t' :: rest => go fuel { s with rest }
      | '\\' :: '\n' :: rest => go fuel { s with rest, line := s.line + 1 + s.owed, owed := 0 }
      | '#' :: rest => { s with rest := rest.dropWhile (· != '\n') }
      | _ => s

/-- The blanks, comments and line feeds that may come next are passed over. -/
def skipLines : StateT ScriptCursor (Except ScriptFault) Unit := do
  go (← get).rest.length
where
  /-- Line after line. -/
  go : Nat → StateT ScriptCursor (Except ScriptFault) Unit
    | 0 => skipBlanks
    | fuel + 1 => do
      skipBlanks
      if ← comes "\n" then
        let _ ← take?
        go fuel

/-- The octets of the word that comes next, as far as they could be a word of the grammar. -/
def peekWord : StateT ScriptCursor (Except ScriptFault) String := do
  return Octets.key ((← get).rest.takeWhile fun c => !isMeta c)

/-- What comes next, as it is named in a fault. -/
def nextToken : StateT ScriptCursor (Except ScriptFault) String := do
  skipBlanks
  let rest := (← get).rest
  let operators := ["&&", "||", ";;", ">>", "<<", ";", "&", "|", "<", ">", "(", ")"]
  match rest with
  | [] => return "end of file"
  | '\n' :: _ => return "newline"
  | _ =>
    match operators.find? fun o => o.toList.isPrefixOf rest with
    | some o => return "\"" ++ o ++ "\""
    | none =>
      let w ← peekWord
      if (closingWords ++ openingWords).contains w then return "\"" ++ w ++ "\""
      else return "word"

/-- The fault of something unexpected. -/
def unexpected {α : Type} (expecting? : Option String) :
    StateT ScriptCursor (Except ScriptFault) α := do
  let token ← nextToken
  refuse ("Syntax error: " ++ token ++ " unexpected" ++
    match expecting? with
    | some e => " (expecting \"" ++ e ++ "\")"
    | none => "")

/-- A word of the grammar has to come next. -/
def expectWord (w : String) : StateT ScriptCursor (Except ScriptFault) Unit := do
  skipBlanks
  if (← peekWord) = w then drop w.length else unexpected (some w)

/-- The octets up to a single quote. -/
def singleQuoted : Nat → StateT ScriptCursor (Except ScriptFault) Octets
  | 0 => refuse "Syntax error: Unterminated quoted string"
  | fuel + 1 => do
    match ← take? with
    | none => refuse "Syntax error: Unterminated quoted string"
    | some '\'' => return []
    | some c => return c :: (← singleQuoted fuel)

/-- The octets up to a closing back quote, with the backslashes before back quotes, backslashes and
dollar signs taken away. -/
def backQuoted (inQuotes : Bool) : Nat → StateT ScriptCursor (Except ScriptFault) Octets
  | 0 => refuse "Syntax error: EOF in backquote substitution"
  | fuel + 1 => do
    match ← take? with
    | none => refuse "Syntax error: EOF in backquote substitution"
    | some '\x60' => return []
    | some '\\' =>
      match ← take? with
      | none => return ['\\']
      | some c =>
        let rest ← backQuoted inQuotes fuel
        if c = '\x60' || c = '\\' || c = '$' || (inQuotes && c = '"') then return c :: rest
        else return '\\' :: c :: rest
    | some c => return c :: (← backQuoted inQuotes fuel)

/-- The descriptor and the operator of a redirection, if one comes next. -/
def redirectionAhead (rest : Octets) : Option (Option Nat × String) :=
  let digits := rest.takeWhile Char.isDigit
  let after := rest.drop digits.length
  let operators := ["<<-", "<<", "<&", ">&", ">>", ">|", "<>", "<", ">"]
  (operators.find? fun o => o.toList.isPrefixOf after).map fun o =>
    (if digits.isEmpty then none else (Octets.key digits).toNat?, o)

/-- The lines of a text up to a line that is equal to a delimiter, and the text behind that line;
`stripped` takes the tabs away from the start of each line. -/
def documentLines (delimiter : Octets) (stripped : Bool) : Nat → Octets → List Octets × Octets
  | 0, cs => ([], cs)
  | _, [] => ([], [])
  | fuel + 1, cs =>
    let full := cs.takeWhile (· != '\n')
    let rest := (cs.drop full.length).drop 1
    let line := if stripped then full.dropWhile (· == '\t') else full
    if line == delimiter then ([], rest)
    else
      let (lines, after) := documentLines delimiter stripped fuel rest
      (line :: lines, after)

mutual

/-- The **pieces** inside an enclosure. -/
def pieces : Nat → Enclosure → StateT ScriptCursor (Except ScriptFault) Word
  | 0, _ => refuse "Syntax error: word too deep"
  | fuel + 1, e => do
    let rest := (← get).rest
    match e, rest with
    | .word, [] => return []
    | .document, [] => return []
    | .quotes, [] => refuse "Syntax error: Unterminated quoted string"
    | .braces _, [] => refuse "Syntax error: Missing '\x7d'"
    | .parens _, [] => refuse "Syntax error: Missing '))'"
    | .quotes, '"' :: _ => drop 1; return []
    | .braces _, '\x7d' :: _ => drop 1; return []
    | .parens 0, ')' :: ')' :: _ => drop 2; return []
    | _, c :: _ =>
      if (match e with | .word => isMeta c | _ => false) then return []
      else
        let _ ← take?
        let q := e.isQuoting
        match c with
        | '\\' =>
          match ← take? with
          | none => return [.quoted ['\\']]
          | some '\n' => pieces fuel e
          | some d =>
            if q && !(d == '$' || d == '\x60' || d == '\\' || (d == '"' && !e.isDocument) ||
                (d == '\x7d' && e.isBraces)) then
              return .quoted ['\\'] :: .quoted [d] :: (← pieces fuel e)
            else return .quoted [d] :: (← pieces fuel e)
        | '$' =>
          let p ← dollar fuel q
          return p :: (← pieces fuel e)
        | '\x60' =>
          let text ← backQuoted q fuel
          let line := (← get).line
          match (commands fuel).run { rest := text, line } with
          | .ok (script, _) => return .substitution script q :: (← pieces fuel e)
          | .error fault => throw fault
        | '\'' =>
          if q then return .quoted [c] :: (← pieces fuel e)
          else
            let text ← singleQuoted fuel
            return .quoted text :: (← pieces fuel e)
        | '"' =>
          if e.isDocument then return .quoted [c] :: (← pieces fuel e)
          else
            let inner ← pieces fuel .quotes
            let opening : Word := match inner with
              | [.parameter ['@'] .value _] => []
              | _ => [.quoted []]
            return opening ++ inner ++ (← pieces fuel e)
        | '(' =>
          let e' := match e with | .parens depth => .parens (depth + 1) | other => other
          return (if q then .quoted [c] else .plain [c]) :: (← pieces fuel e')
        | ')' =>
          let e' := match e with | .parens depth => .parens (depth - 1) | other => other
          return (if q then .quoted [c] else .plain [c]) :: (← pieces fuel e')
        | _ => return (if q then .quoted [c] else .plain [c]) :: (← pieces fuel e)

/-- The piece behind a dollar sign. -/
def dollar : Nat → Bool → StateT ScriptCursor (Except ScriptFault) Piece
  | 0, _ => refuse "Syntax error: word too deep"
  | fuel + 1, q => do
    match (← get).rest with
    | '\x7b' :: _ =>
      drop 1
      braced fuel q
    | '(' :: '(' :: _ =>
      drop 2
      return .arithmetic (← pieces fuel (.parens 0)) q
    | '(' :: _ =>
      drop 1
      let script ← commands fuel
      skipLines
      if ← comes ")" then drop 1 else unexpected (some ")")
      return .substitution script q
    | c :: rest =>
      if startsName c then
        let name := c :: rest.takeWhile continuesName
        drop name.length
        return .parameter name .value q
      else if c.isDigit || isSpecialName c then
        drop 1
        return .parameter [c] .value q
      else return if q then .quoted ['$'] else .plain ['$']
    | [] => return if q then .quoted ['$'] else .plain ['$']

/-- The piece behind a dollar sign and an opening brace. -/
def braced : Nat → Bool → StateT ScriptCursor (Except ScriptFault) Piece
  | 0, _ => refuse "Syntax error: word too deep"
  | fuel + 1, q => do
    let rest := (← get).rest
    let nameIn (cs : Octets) : Octets := match cs with
      | c :: more =>
        if startsName c then c :: more.takeWhile continuesName
        else if c.isDigit then c :: more.takeWhile Char.isDigit
        else if isSpecialName c then [c]
        else []
      | [] => []
    match rest with
    | '#' :: more =>
      let name := nameIn more
      if !name.isEmpty && (more.drop name.length).head? == some '\x7d' then
        drop (name.length + 2)
        return .parameter name .length q
      else treated fuel q ['#']
    | _ => treated fuel q (nameIn rest)

/-- A parameter with what is made of its value, from its name to the closing brace. -/
def treated : Nat → Bool → Octets → StateT ScriptCursor (Except ScriptFault) Piece
  | 0, _, _ => refuse "Syntax error: word too deep"
  | fuel + 1, q, name => do
    drop name.length
    let rest := (← get).rest
    let colon := rest.head? == some ':'
    let operator := (if colon then rest.drop 1 else rest).head?
    let doubled := (rest.drop 1).head?
    let word (n : Nat) : StateT ScriptCursor (Except ScriptFault) Word := do
      drop n
      pieces fuel (.braces q)
    let n := if colon then 2 else 1
    if name.isEmpty then
      let _ ← word 0
      return .parameter [] .bad q
    else match operator with
      | some '\x7d' =>
        if colon then
          let _ ← word 1
          return .parameter name .bad q
        else
          drop 1
          return .parameter name .value q
      | some '-' => return .parameter name (.usual colon (← word n)) q
      | some '=' => return .parameter name (.assign colon (← word n)) q
      | some '?' => return .parameter name (.demand colon (← word n)) q
      | some '+' => return .parameter name (.instead colon (← word n)) q
      | some '#' =>
        if doubled == some '#' then
          return .parameter name (.withoutStart true (← pattern fuel 2)) q
        else return .parameter name (.withoutStart false (← pattern fuel 1)) q
      | some '%' =>
        if doubled == some '%' then
          return .parameter name (.withoutEnd true (← pattern fuel 2)) q
        else return .parameter name (.withoutEnd false (← pattern fuel 1)) q
      | _ =>
        let _ ← word 0
        return .parameter name .bad q

/-- A pattern up to the closing brace. -/
def pattern : Nat → Nat → StateT ScriptCursor (Except ScriptFault) Word
  | 0, _ => refuse "Syntax error: word too deep"
  | fuel + 1, n => do
    drop n
    pieces fuel (.braces false)

/-- A **list** of commands, up to what closes it. -/
def commands : Nat → StateT ScriptCursor (Except ScriptFault) Command
  | 0 => refuse "Syntax error: commands too deep"
  | fuel + 1 => do
    skipLines
    let rest := (← get).rest
    if rest.isEmpty || rest.head? == some ')' || (← comes ";;") ||
        closingWords.contains (← peekWord) then
      return .nothing
    else
      let c ← andOr fuel
      skipBlanks
      if ← comes ";;" then return c
      else match (← get).rest with
        | ';' :: _ | '\n' :: _ =>
          let _ ← take?
          return .sequence c (← commands fuel)
        | '&' :: _ =>
          drop 1
          return .sequence (.background c) (← commands fuel)
        | _ => return c

/-- A list of commands in which there has to be one. -/
def someCommands : Nat → StateT ScriptCursor (Except ScriptFault) Command
  | 0 => refuse "Syntax error: commands too deep"
  | fuel + 1 => do
    match ← commands fuel with
    | .nothing =>
      skipLines
      if (← get).rest.isEmpty then return .nothing else unexpected none
    | c => return c

/-- Pipelines that depend on each other's success. -/
def andOr : Nat → StateT ScriptCursor (Except ScriptFault) Command
  | 0 => refuse "Syntax error: commands too deep"
  | fuel + 1 => do
    let first ← pipeline fuel
    andOrFrom fuel first

/-- What follows a pipeline that others may depend on. -/
def andOrFrom : Nat → Command → StateT ScriptCursor (Except ScriptFault) Command
  | 0, _ => refuse "Syntax error: commands too deep"
  | fuel + 1, first => do
    skipBlanks
    if ← comes "&&" then
      drop 2
      skipLines
      let second ← pipeline fuel
      andOrFrom fuel (.andThen first second)
    else if ← comes "||" then
      drop 2
      skipLines
      let second ← pipeline fuel
      andOrFrom fuel (.orElse first second)
    else return first

/-- A **pipeline**. -/
def pipeline : Nat → StateT ScriptCursor (Except ScriptFault) Command
  | 0 => refuse "Syntax error: commands too deep"
  | fuel + 1 => do
    skipBlanks
    if (← peekWord) = "!" then
      drop 1
      return .negated (← pipeline fuel)
    else
      let first ← command fuel
      skipBlanks
      if (← comes "|") && !(← comes "||") then
        drop 1
        skipLines
        return .pipe first (← pipeline fuel)
      else return first

/-- One **command**. -/
def command : Nat → StateT ScriptCursor (Except ScriptFault) Command
  | 0 => refuse "Syntax error: commands too deep"
  | fuel + 1 => do
    skipBlanks
    if ← comes "(" then
      drop 1
      let body ← someCommands fuel
      skipLines
      if ← comes ")" then drop 1 else unexpected (some ")")
      withRedirections fuel (.subshell body)
    else
      match ← peekWord with
      | "if" =>
        drop 2
        withRedirections fuel (← choice fuel)
      | "while" =>
        drop 5
        withRedirections fuel (← loop fuel false)
      | "until" =>
        drop 5
        withRedirections fuel (← loop fuel true)
      | "for" =>
        drop 3
        withRedirections fuel (← each fuel)
      | "case" =>
        drop 4
        withRedirections fuel (← branch fuel)
      | "\x7b" =>
        drop 1
        let body ← someCommands fuel
        expectWord "\x7d"
        withRedirections fuel body
      | w =>
        if closingWords.contains w then unexpected none
        else
          let line := (← get).line
          simple fuel line [] [] []

/-- A compound command with the redirections that follow it. -/
def withRedirections : Nat → Command → StateT ScriptCursor (Except ScriptFault) Command
  | 0, _ => refuse "Syntax error: commands too deep"
  | fuel + 1, body => do
    match ← redirections fuel with
    | [] => return body
    | rs => return .redirected body rs

/-- The redirections that come next. -/
def redirections : Nat → StateT ScriptCursor (Except ScriptFault) (List Redirection)
  | 0 => refuse "Syntax error: commands too deep"
  | fuel + 1 => do
    skipBlanks
    match redirectionAhead (← get).rest with
    | none => return []
    | some (descriptor?, operator) =>
      let r ← redirection fuel descriptor? operator
      return r :: (← redirections fuel)

/-- A **redirection** from its descriptor and its operator on. -/
def redirection : Nat → Option Nat → String → StateT ScriptCursor (Except ScriptFault) Redirection
  | 0, _, _ => refuse "Syntax error: commands too deep"
  | fuel + 1, descriptor?, operator => do
    modify fun s => { s with rest := s.rest.dropWhile Char.isDigit }
    drop operator.length
    skipBlanks
    let target := Word.joined (← pieces fuel .word)
    if target.isEmpty then unexpected none
    else match operator with
      | "<" => return .file (descriptor?.getD 0) .reading target
      | "<>" => return .file (descriptor?.getD 0) .reading target
      | ">" | ">|" => return .file (descriptor?.getD 1) .writing target
      | ">>" => return .file (descriptor?.getD 1) .appending target
      | "<&" => return .duplicate (descriptor?.getD 0) target
      | ">&" => return .duplicate (descriptor?.getD 1) target
      | _ =>
        let s ← get
        let current := s.rest.takeWhile (· != '\n')
        let behind := (s.rest.drop current.length).drop 1
        let (lines, after) :=
          documentLines (Word.bareText target) (operator = "<<-") (behind.length + 1) behind
        set { s with rest := current ++ '\n' :: after, owed := s.owed + lines.length + 1 }
        let text := lines.flatMap (· ++ ['\n'])
        if Word.isQuoted target then return .here (descriptor?.getD 0) [.quoted text]
        else
          match (pieces fuel .document).run { rest := text, line := s.line } with
          | .ok (word, _) => return .here (descriptor?.getD 0) word
          | .error fault => throw fault

/-- A **simple** command, from what was read of it on. -/
def simple : Nat → Nat → List (Octets × Word) → List Word → List Redirection →
    StateT ScriptCursor (Except ScriptFault) Command
  | 0, _, _, _, _ => refuse "Syntax error: commands too deep"
  | fuel + 1, line, assignments, words, rs => do
    skipBlanks
    let rest := (← get).rest
    match redirectionAhead rest with
    | some (descriptor?, operator) =>
      let r ← redirection fuel descriptor? operator
      simple fuel line assignments words (rs ++ [r])
    | none =>
      let w := Word.joined (← pieces fuel .word)
      if w.isEmpty then
        if ← comes "(" then
          match assignments, words, rs with
          | [], [name], [] => functionBody fuel name
          | _, _, _ => unexpected none
        else if assignments.isEmpty && words.isEmpty && rs.isEmpty then unexpected none
        else return .simple line assignments words rs
      else
        let assigned : Option (Octets × Word) := match words, w with
          | [], .plain text :: more =>
            let name := text.takeWhile (· != '=')
            let value := text.drop (name.length + 1)
            if isName name && name.length < text.length then
              some (name, if value.isEmpty then more else .plain value :: more)
            else none
          | _, _ => none
        match assigned with
        | some a => simple fuel line (assignments ++ [a]) words rs
        | none => simple fuel line assignments (words ++ [w]) rs

/-- The body of a function behind its name. -/
def functionBody : Nat → Word → StateT ScriptCursor (Except ScriptFault) Command
  | 0, _ => refuse "Syntax error: commands too deep"
  | fuel + 1, name => do
    drop 1
    skipBlanks
    if ← comes ")" then drop 1 else unexpected (some ")")
    match Word.plainText? name with
    | some text =>
      if isName text then
        skipLines
        return .define text (← command fuel)
      else refuse "Syntax error: Bad function name"
    | none => refuse "Syntax error: Bad function name"

/-- A choice behind its first word. -/
def choice : Nat → StateT ScriptCursor (Except ScriptFault) Command
  | 0 => refuse "Syntax error: commands too deep"
  | fuel + 1 => do
    let condition ← someCommands fuel
    expectWord "then"
    let yes ← someCommands fuel
    skipBlanks
    match ← peekWord with
    | "elif" =>
      drop 4
      return .choice condition yes (← choice fuel)
    | "else" =>
      drop 4
      let no ← someCommands fuel
      expectWord "fi"
      return .choice condition yes no
    | _ =>
      expectWord "fi"
      return .choice condition yes .nothing

/-- A loop behind its first word. -/
def loop : Nat → Bool → StateT ScriptCursor (Except ScriptFault) Command
  | 0, _ => refuse "Syntax error: commands too deep"
  | fuel + 1, stopsWhen => do
    let condition ← someCommands fuel
    expectWord "do"
    let body ← someCommands fuel
    expectWord "done"
    return .loop stopsWhen condition body

/-- A loop over words behind its first word. -/
def each : Nat → StateT ScriptCursor (Except ScriptFault) Command
  | 0 => refuse "Syntax error: commands too deep"
  | fuel + 1 => do
    skipBlanks
    let name := Word.joined (← pieces fuel .word)
    match Word.plainText? name with
    | none => refuse "Syntax error: Bad for loop variable"
    | some text =>
      if !isName text then refuse "Syntax error: Bad for loop variable"
      else
        skipLines
        let words? ←
          if (← peekWord) = "in" then do
            drop 2
            let words ← wordList fuel
            skipBlanks
            if (← comes ";") || (← comes "\n") then
              let _ ← take?
              pure (some words)
            else unexpected none
          else do
            if ← comes ";" then drop 1
            pure none
        skipLines
        expectWord "do"
        let body ← someCommands fuel
        expectWord "done"
        return .each text words? body

/-- The words up to the end of a command. -/
def wordList : Nat → StateT ScriptCursor (Except ScriptFault) (List Word)
  | 0 => refuse "Syntax error: commands too deep"
  | fuel + 1 => do
    skipBlanks
    match Word.joined (← pieces fuel .word) with
    | [] => return []
    | w => return w :: (← wordList fuel)

/-- A branching behind its first word. -/
def branch : Nat → StateT ScriptCursor (Except ScriptFault) Command
  | 0 => refuse "Syntax error: commands too deep"
  | fuel + 1 => do
    skipBlanks
    let subject := Word.joined (← pieces fuel .word)
    if subject.isEmpty then unexpected none
    else
      skipLines
      expectWord "in"
      return .branch subject (← branches fuel)

/-- The branches up to the last word of a branching. -/
def branches : Nat → StateT ScriptCursor (Except ScriptFault) (List (List Word × Command))
  | 0 => refuse "Syntax error: commands too deep"
  | fuel + 1 => do
    skipLines
    if (← peekWord) = "esac" then
      drop 4
      return []
    else
      if ← comes "(" then drop 1
      let ps ← patterns fuel
      let body ← commands fuel
      skipLines
      if ← comes ";;" then
        drop 2
        return (ps, body) :: (← branches fuel)
      else
        expectWord "esac"
        return [(ps, body)]

/-- The patterns of a branch up to their closing parenthesis. -/
def patterns : Nat → StateT ScriptCursor (Except ScriptFault) (List Word)
  | 0 => refuse "Syntax error: commands too deep"
  | fuel + 1 => do
    skipBlanks
    let p := Word.joined (← pieces fuel .word)
    if p.isEmpty then unexpected (some ")")
    else
      skipBlanks
      if ← comes "|" then
        drop 1
        return p :: (← patterns fuel)
      else if ← comes ")" then
        drop 1
        return [p]
      else unexpected (some ")")

end

end

/-- The **lines** of commands of a script, from a place on, and the fault that ends them. -/
def linesFrom : Nat → ScriptCursor → List Command × Option ScriptFault
  | 0, _ => ([], none)
  | fuel + 1, s =>
    let line : StateT ScriptCursor (Except ScriptFault) (Option Command) := do
      skipLines
      if (← get).rest.isEmpty then return none
      else
        let c ← commandLine fuel
        return some c
    match line.run s with
    | .error fault => ([], some fault)
    | .ok (none, _) => ([], none)
    | .ok (some c, s') =>
      let (cs, fault?) := linesFrom fuel s'
      (c :: cs, fault?)
where
  /-- The commands up to the end of a line. -/
  commandLine : Nat → StateT ScriptCursor (Except ScriptFault) Command
    | 0 => refuse "Syntax error: commands too deep"
    | fuel + 1 => do
      let c ← andOr fuel
      skipBlanks
      match (← get).rest with
      | [] => return c
      | '\n' :: _ =>
        let _ ← take?
        return c
      | ';' :: ';' :: _ => unexpected none
      | ';' :: _ =>
        drop 1
        more fuel c
      | '&' :: _ =>
        drop 1
        more fuel (.background c)
      | _ => unexpected none
  /-- What follows a command on its line. -/
  more (fuel : Nat) (c : Command) : StateT ScriptCursor (Except ScriptFault) Command := do
    skipBlanks
    match (← get).rest with
    | [] => return c
    | '\n' :: _ =>
      let _ ← take?
      return c
    | _ => return .sequence c (← commandLine fuel)

end Reader

/-- A **script** as it is run: line after line, up to a fault. -/
structure Script where
  lines : List Command
  fault? : Option ScriptFault

/-- The script that octets spell. -/
def Script.ofOctets (text : Octets) : Script :=
  let (lines, fault?) := Reader.linesFrom (4 * text.length + 16) { rest := text }
  ⟨lines, fault?⟩

end GeoBench.Shell
