import GeoBench.Machine.Invocation
import GeoBench.Shell.Field
import GeoBench.Shell.Reader

/-!
# Running scripts

A shell carries out the commands of a script one after the other. Words are expanded, redirections
are applied, and then a command is carried out by the shell itself, by a function of the script or
by a program. Pipelines, substitutions and subshells run in a copy of the shell; what they do to the
file tree and to what is written stays.

Every step uses up some fuel, so that a script that would not end is ended.

## Leaving the normal course

A loop may be broken off, a function may return, a script may end, and a signal may end the process.
A part of a run is therefore a state with an exception (`Act`): the exception is a `Turn`, which
every construct either takes for itself or passes on. What was written and what became of the file
tree is kept in the state, so it stays whichever turn a run takes.

## Copies of the shell

In a copy of the shell, variables, options and the working directory may be changed without a trace.
A copy is run on the same state, and behind it only the file tree, the input that is left, what was
written and the status are taken over (`State.absorb`). There are no processes beside one another:
the parts of a pipeline are run one after the other, and each one reads what the one before it
wrote.

## Fuel

The functions of this module call each other in the way in which commands stand inside one another,
and a loop calls its own body again. Each call takes one off a bound that is fixed for a process
(`processFuel`), and a process that has used it up ends as one that was killed.

## Main results

* `isolated_bindings` — what a copy of the shell does to its variables is lost.
-/

namespace GeoBench.Shell

open GeoBench.Machine

/-- A part of a run: it may leave the normal course of the script. -/
abbrev Act (α : Type) := ExceptT Turn (StateM State) α

namespace Act

/-- A remark, and the end of the script. -/
def abort {α : Type} (text : Octets) : Act α := do
  modify fun s => { s.remark text with status := 2 }
  throw .finish

/-- The status of the last command is set. -/
def conclude (status : Nat) : Act Unit :=
  modify fun s => { s with status }

/-- A remark, and a status. -/
def complain (status : Nat) (text : Octets) : Act Unit :=
  modify fun s => { s.remark text with status }

/-- A part of a run, and how it left the normal course. -/
def caught (body : Act Unit) : Act (Option Turn) :=
  ExceptT.mk fun s =>
    match body s with
    | (.ok _, s) => (.ok none, s)
    | (.error turn, s) => (.ok (some turn), s)

/-- What stays of a copy of a shell: the file tree, the input that is left, what was written, and
the status. -/
def State.absorb (before after : State) : State :=
  { before with
    tree := after.tree, input := after.input, buffers := after.buffers
    nextBuffer := after.nextBuffer, status := after.status }

/-- A part of a run in a **copy** of the shell. -/
def isolated (body : Act Unit) : Act Unit :=
  ExceptT.mk fun s =>
    match body s with
    | (.error (.killed signal), after) => (.error (.killed signal), State.absorb s after)
    | (_, after) => (.ok (), State.absorb s after)

/-- What a copy of the shell does to its variables is lost. -/
theorem isolated_bindings (body : Act Unit) (s : State) :
    ((isolated body).run s).2.bindings = s.bindings := by
  simp only [isolated, ExceptT.run, ExceptT.mk]
  split <;> rfl

/-- A part of a run whose failure the script looks at itself. -/
def guarded (body : Act Unit) : Act Unit := do
  let before := (← get).guarded
  modify fun s => { s with guarded := true }
  let turn? ← caught body
  modify fun s => { s with guarded := before }
  match turn? with
  | some turn => throw turn
  | none => pure ()

/-- A failure ends the script, if the script says so. -/
def heedFailure : Act Unit := do
  let s ← get
  if s.status ≠ 0 && s.stopsOnFailure && !s.guarded then throw .finish

/-- What a part of a run writes to standard output. -/
def captured (body : Act Unit) : Act Octets := do
  let n := (← get).nextBuffer
  modify fun s => { s with nextBuffer := n + 1 }
  isolated do
    modify fun s => s.direct 1 (.buffer n)
    body
  return (← get).written n

/-! ### Redirections -/

/-- The sink of a path, made or emptied; or added to. -/
def openSink (path : Octets) (adding : Bool) : Act (Except Octets Sink) := do
  let s ← get
  match Octets.toText path with
  | "/dev/null" => return .ok .nowhere
  | "/dev/stdout" => return .ok ((s.sinks.lookup 1).getD .nowhere)
  | "/dev/stderr" => return .ok ((s.sinks.lookup 2).getD .nowhere)
  | text =>
    let p : Path := ⟨text⟩
    let refused (fault : Fault) : Except Octets Sink :=
      .error (Octets.ofText "cannot create " ++ path ++
        Octets.ofText (": " ++ State.fileWording true fault))
    let made := if adding && s.tree.isFile s.cwd p then .ok s.tree
      else s.tree.writeBytes s.cwd p ByteArray.empty false false
    match made with
    | .error fault => return refused fault
    | .ok tree =>
      match tree.find s.cwd p with
      | .ok (place, _) =>
        set { s with tree }
        return .ok (.file place)
      | .error fault => return refused fault

/-- The input of a path. -/
def openSource (path : Octets) : Act (Except Octets Octets) := do
  let s ← get
  match Octets.toText path with
  | "/dev/null" => return .ok []
  | "/dev/stdin" => return .ok s.input
  | text =>
    match s.tree.readBytes s.cwd ⟨text⟩ with
    | .ok content => return .ok (Octets.ofBytes content)
    | .error fault =>
      if fault = .isADirectory then return .ok []
      else return .error (Octets.ofText "cannot open " ++ path ++
        Octets.ofText (": " ++ State.fileWording false fault))

/-! ### Commands of the shell itself -/

/-- A number among the arguments of a command. -/
def numberArgument (name : String) (a : Octets) : Act Nat := do
  if !a.isEmpty && a.all Char.isDigit then return Tool.natOf a
  else abort (Octets.ofText (name ++ ": Illegal number: ") ++ a)

/-- **cd**: another working directory. -/
def changeDirectory (arguments : List Octets) : Act Unit := do
  let s ← get
  let target := match arguments with
    | [] => (s.valueOf? "HOME".toList).getD []
    | ['-'] :: _ => (s.valueOf? "OLDPWD".toList).getD []
    | a :: _ => a
  match s.tree.find s.cwd (Condition.pathOf target) with
  | .ok (place, .directory) =>
    let old := Octets.ofText (placePath s.cwd).text
    let s := { s with cwd := place, status := 0 }
    let s := s.assign "OLDPWD".toList old
    let s := s.assign "PWD".toList (Octets.ofText (placePath place).text)
    set (if arguments.head? == some ['-'] then
      s.write 1 (Octets.ofText (placePath place).text ++ ['\n']) else s)
  | _ => complain 2 (Octets.ofText "cd: can't cd to " ++ target)

/-- The options that **set** changes. -/
def setOption (on : Bool) (letter : Char) (s : State) : State :=
  match letter with
  | 'e' => { s with stopsOnFailure := on }
  | 'u' => { s with stopsOnUnset := on }
  | 'x' => { s with tells := on }
  | 'f' => { s with plainNames := on }
  | _ => s

/-- The long names of options. -/
def longOptions : List (String × Char) :=
  [("errexit", 'e'), ("nounset", 'u'), ("xtrace", 'x'), ("noglob", 'f'), ("noclobber", 'C'),
   ("allexport", 'a'), ("verbose", 'v'), ("monitor", 'm')]

/-- **set**: options and arguments of the shell. -/
def setArguments : List Octets → Act Unit
  | [] => conclude 0
  | ['-', '-'] :: rest => modify fun s => { s with arguments := rest, status := 0 }
  | ['-', 'o'] :: name :: rest => do
    match longOptions.lookup (Octets.key name) with
    | some letter => modify fun s => setOption true letter s
    | none => abort (Octets.ofText "set: Illegal option -o " ++ name)
    setArguments rest
  | ('-' :: c :: cs) :: rest => do
    modify fun s => (c :: cs).foldl (fun s c => setOption true c s) s
    setArguments rest
  | ('+' :: c :: cs) :: rest => do
    modify fun s => (c :: cs).foldl (fun s c => setOption false c s) s
    setArguments rest
  | arguments => modify fun s => { s with arguments, status := 0 }

/-- An argument that names a variable, with the value that it may give. -/
def assignment (a : Octets) : Octets × Option Octets :=
  let name := a.takeWhile (· != '=')
  (name, if name.length < a.length then some (a.drop (name.length + 1)) else none)

/-- Variables are set and may be exported. -/
def declare (exports : Bool) (arguments : List Octets) : Act Unit := do
  modify fun s => arguments.foldl (fun s a =>
    let (name, value?) := assignment a
    let s := match value? with
      | some value => s.assign name value
      | none => s
    if exports then s.exportVariable name else s) s
  conclude 0

/-- A line of the input, and whether it was ended; a backslash takes the special sense from what
follows it, unless the line is `raw`. -/
def readLine (raw : Bool) : Octets → Octets × Octets × Bool
  | [] => ([], [], false)
  | '\n' :: rest => ([], rest, true)
  | '\\' :: '\n' :: rest =>
    if raw then (['\\'], rest, true) else readLine raw rest
  | '\\' :: c :: rest =>
    if raw then
      let (line, after, ended) := readLine raw (c :: rest)
      ('\\' :: line, after, ended)
    else
      let (line, after, ended) := readLine raw rest
      (c :: line, after, ended)
  | c :: rest =>
    let (line, after, ended) := readLine raw rest
    (c :: line, after, ended)
termination_by cs => cs.length

/-- The values of names for a line: one field each, and the rest of the line for the last. -/
def readFields (separators : Octets) : List Octets → Octets → List (Octets × Octets)
  | [], _ => []
  | [name], line =>
    let blank := Splitting.isBlankSeparator separators
    [(name, ((line.dropWhile blank).reverse.dropWhile blank).reverse)]
  | name :: names, line =>
    let blank := Splitting.isBlankSeparator separators
    let line := line.dropWhile blank
    let field := line.takeWhile fun c => !separators.contains c
    let rest := (line.drop field.length).dropWhile blank
    let rest := match rest with
      | c :: more => if separators.contains c && !blank c then more else rest
      | [] => []
    (name, field) :: readFields separators names rest

/-- **read**: a line of the input. -/
def readInput (arguments : List Octets) : Act Unit := do
  let (options, names) := Tool.split arguments
  let s ← get
  let (line, rest, ended) := readLine (Tool.has options 'r') s.input
  let separators := (s.valueOf? "IFS".toList).getD [' ', '\t', '\n']
  let names := if names.isEmpty then ["REPLY".toList] else names
  set ((readFields separators names line).foldl (fun s (name, value) => s.assign name value)
    { s with input := rest, status := if ended then 0 else 1 })

/-- The signals that end a process unless it says otherwise. -/
def isDeadly (signal : Nat) : Bool :=
  signal ≠ 0 && !([17, 18, 19, 20, 21, 22, 23, 28].contains signal)

/-- The number of a signal. -/
def signalNumber? (cs : Octets) : Option Nat :=
  let name := Octets.key cs
  let name := if name.startsWith "SIG" then (name.drop 3).toString else name
  if !cs.isEmpty && cs.all Char.isDigit then some (Tool.natOf cs)
  else (WaitStatus.signalNames.idxOf? name).map (· + 1)

/-- **kill**: a signal to a process; there is none but this one. -/
def sendSignal (arguments : List Octets) : Act Unit := do
  let (signal?, targets) := match arguments with
    | ['-', 's'] :: name :: rest => (signalNumber? name, rest)
    | ('-' :: c :: cs) :: rest => (signalNumber? (c :: cs), rest)
    | rest => (some 15, rest)
  match signal? with
  | none => complain 1 (Octets.ofText "kill: bad signal")
  | some signal =>
    match targets with
    | [] =>
      complain 2 (Octets.ofText
        "kill: Usage: kill [-s sigspec | -signum | -sigspec] [pid | job]...")
    | _ =>
      if targets.contains (Nat.toDigits 10 State.pid) then
        if isDeadly signal then throw (.killed signal) else conclude 0
      else complain 1 (Octets.ofText "kill: No such process\n")

/-- The names of the commands that the shell carries out itself, and whose assignments stay. -/
def specialNames : List String :=
  [":", "exit", "return", "break", "continue", "shift", "set", "export", "readonly", "unset",
   "eval", ".", "exec", "trap", "times"]

/-- The names of the other commands that the shell carries out itself. -/
def regularNames : List String :=
  ["cd", "echo", "printf", "test", "[", "true", "false", "pwd", "read", "kill", "wait", "umask",
   "ulimit", "command", "type", "local", "hash", "jobs", "alias", "unalias"]

/-- A command of the shell that needs no other command. -/
def plainBuiltin (name : String) (arguments : List Octets) : Act Unit := do
  let s ← get
  match name with
  | ":" | "true" | "times" | "wait" | "umask" | "ulimit" | "hash" | "jobs" | "alias"
  | "unalias" => conclude 0
  | "false" => conclude 1
  | "exit" =>
    match arguments with
    | [] => pure ()
    | a :: _ => conclude ((← numberArgument "exit" a) % 256)
    throw .finish
  | "return" =>
    match arguments with
    | [] => pure ()
    | a :: _ => conclude ((← numberArgument "return" a) % 256)
    throw .back
  | "break" =>
    conclude 0
    throw (.leave (match arguments with | a :: _ => Tool.natOf a | [] => 1))
  | "continue" =>
    conclude 0
    throw (.again (match arguments with | a :: _ => Tool.natOf a | [] => 1))
  | "shift" =>
    let n := match arguments with | a :: _ => Tool.natOf a | [] => 1
    if n ≤ s.arguments.length then
      set { s with arguments := s.arguments.drop n, status := 0 }
    else abort (Octets.ofText "shift: can't shift that many")
  | "set" =>
    conclude 0
    setArguments arguments
  | "trap" =>
    match arguments with
    | action :: names =>
      if names.any fun n => n == "EXIT".toList || n == ['0'] then
        set { s with lastWords := if action == ['-'] then [] else action, status := 0 }
      else conclude 0
    | [] => conclude 0
  | "export" => declare true (Tool.split arguments).2
  | "readonly" => declare false (Tool.split arguments).2
  | "local" =>
    let names := arguments.map fun a => (assignment a).1
    set { s with hidden := names.map (fun n => (n, s.bindings.lookup n)) ++ s.hidden }
    declare false arguments
  | "unset" =>
    let (options, names) := Tool.split arguments
    if Tool.has options 'f' then
      set { s with functions := s.functions.filter fun f => !names.contains f.1, status := 0 }
    else set { names.foldl State.unset s with status := 0 }
  | "cd" => changeDirectory arguments
  | "echo" => set { s.write 1 (echoText arguments) with status := 0 }
  | "printf" =>
    match arguments with
    | [] => complain 2 (Octets.ofText "printf: usage: printf format [arg ...]")
    | format :: rest =>
      let f := formatted format rest
      let s := f.complaints.foldl (fun (s : State) a =>
        s.remark (Octets.ofText "printf: " ++ a ++ Octets.ofText ": expected numeric value")) s
      set { s.write 1 f.text with status := if f.complaints.isEmpty then 0 else 1 }
  | "test" | "[" =>
    let closed := name = "test" || arguments.getLast? == some [']']
    let operands := if name = "[" then arguments.dropLast else arguments
    if !closed then complain 2 (Octets.ofText "[: missing ]")
    else match Condition.verdict s.tree s.cwd operands with
      | .ok v => conclude (if v then 0 else 1)
      | .error text => complain 2 (Octets.ofText (name ++ ": ") ++ text)
  | "pwd" => set { s.write 1 (Octets.ofText (placePath s.cwd).text ++ ['\n']) with status := 0 }
  | "read" => readInput arguments
  | "kill" => sendSignal arguments
  | _ => conclude 0

/-! ### Parameters -/

/-- The marks of a value. -/
def valueMarks (q : Bool) (cs : Octets) : List Mark :=
  Mark.inked (if q then .verbatim else .expanded) cs

/-- The marks of all arguments, each an own field. -/
def argumentMarks (q : Bool) (arguments : List Octets) : List Mark :=
  let one (a : Octets) : List Mark := (if q then [.anchor] else []) ++ valueMarks q a
  [Mark.gap].intercalate (arguments.map one)

/-- The marks of the value of a parameter. -/
def plainMarks (name : Octets) (q : Bool) : Act (List Mark) := do
  let s ← get
  if name == ['@'] then return argumentMarks q s.arguments
  else if name == ['*'] then
    if q then
      let separator := match s.valueOf? "IFS".toList with
        | some [] => []
        | some (c :: _) => [c]
        | none => [' ']
      return valueMarks true (separator.intercalate s.arguments)
    else return argumentMarks false s.arguments
  else match s.parameter? name with
    | some value => return valueMarks q value
    | none =>
      if s.stopsOnUnset then abort (name ++ Octets.ofText ": parameter not set")
      else return []

/-- Line feeds at the end are taken away. -/
def withoutLineEnds (cs : Octets) : Octets :=
  (cs.reverse.dropWhile (· == '\n')).reverse

/-- The remark on an expression without a value. -/
def arithmeticRemark : Arithmetic.ArithmeticFault → Octets
  | .divisionByZero => Octets.ofText "arithmetic expression: division by zero: "
  | .malformed => Octets.ofText "arithmetic expression: expecting primary: "
  | .badNumber text => Octets.ofText "Illegal number: " ++ text

/-- The value of an expression; the variables that it sets are set. -/
def arithmetic (text : Octets) : Act Octets := do
  let s ← get
  match Arithmetic.evaluate s.valueOf? text with
  | .error (.badNumber name) => abort (arithmeticRemark (.badNumber name))
  | .error fault => abort (arithmeticRemark fault ++ '"' :: text ++ ['"'])
  | .ok (n, changes) =>
    set (changes.foldr (fun (name, n) s => s.assign name (toString n).toList) s)
    return (toString n).toList

/-- How loops see a turn: whether it is theirs, and if so, whether they go on; or the turn for the
loop outside. -/
def loopTurn : Turn → Except Turn Bool
  | .leave n => if n ≤ 1 then .ok false else .error (.leave (n - 1))
  | .again n => if n ≤ 1 then .ok true else .error (.again (n - 1))
  | other => .error other

end Act

namespace Run

open Act

mutual

/-- The marks of an expanded **word**. -/
def wordMarks : Nat → Word → Act (List Mark)
  | 0, _ => throw (.killed 9)
  | fuel + 1, w =>
    match w with
    | .plain ('~' :: cs) :: rest => do
      if cs.isEmpty && rest.isEmpty || cs.head? == some '/' then
        let home := ((← get).valueOf? "HOME".toList).getD ['~']
        let more ← piecesMarks fuel (.plain cs :: rest)
        return Mark.inked .verbatim home ++ more
      else piecesMarks fuel w
    | _ => piecesMarks fuel w

/-- The marks of pieces one after the other. -/
def piecesMarks : Nat → Word → Act (List Mark)
  | 0, _ => throw (.killed 9)
  | _ + 1, [] => return []
  | fuel + 1, p :: rest => do
    let here ← match p with
      | .plain text => pure (Mark.inked .literal text)
      | .quoted text => pure (Mark.anchor :: Mark.inked .verbatim text)
      | .parameter name treatment q => parameterMarks fuel name treatment q
      | .substitution script q => do
        let text ← captured (run fuel script)
        modify fun s => { s with substituted? := some s.status }
        pure (valueMarks q (withoutLineEnds text))
      | .arithmetic expression q => do
        let text := Mark.text (← piecesMarks fuel expression)
        pure (valueMarks q (← arithmetic text))
    return here ++ (← piecesMarks fuel rest)

/-- The marks of a **parameter** and what is made of it. -/
def parameterMarks : Nat → Octets → Treatment → Bool → Act (List Mark)
  | 0, _, _, _ => throw (.killed 9)
  | fuel + 1, name, treatment, q => do
    let s ← get
    let value? := s.parameter? name
    let isSet (colon : Bool) : Bool := match value? with
      | some value => !colon || !value.isEmpty
      | none => false
    let instead (word : Word) : Act (List Mark) := do
      let ms ← wordMarks fuel word
      return if q then Mark.quoted ms else Mark.unquoted ms
    match treatment with
    | .value => plainMarks name q
    | .length => return valueMarks q (Nat.toDigits 10 (value?.getD []).length)
    | .bad => abort (Octets.ofText "Bad substitution")
    | .usual colon word => if isSet colon then plainMarks name q else instead word
    | .instead colon word => if isSet colon then instead word else return []
    | .assign colon word =>
      if isSet colon then plainMarks name q
      else
        let text := Mark.text (← wordMarks fuel word)
        modify fun s => s.assign name text
        return valueMarks q text
    | .demand colon word =>
      if isSet colon then plainMarks name q
      else
        let text := Mark.text (← wordMarks fuel word)
        let usual := if colon then "parameter not set or null" else "parameter not set"
        abort (name ++ Octets.ofText ": " ++ if text.isEmpty then Octets.ofText usual else text)
    | .withoutStart longest word =>
      let ps := Mark.pattern (← wordMarks fuel word)
      return valueMarks q (Glob.dropStart longest ps (value?.getD []))
    | .withoutEnd longest word =>
      let ps := Mark.pattern (← wordMarks fuel word)
      return valueMarks q (Glob.dropEnd longest ps (value?.getD []))

/-- The octets of a word that is not split. -/
def wordText : Nat → Word → Act Octets
  | 0, _ => throw (.killed 9)
  | fuel + 1, w => return Mark.text (← wordMarks fuel w)

/-- The **fields** of words. -/
def wordFields : Nat → List Word → Act (List Octets)
  | 0, _ => throw (.killed 9)
  | _ + 1, [] => return []
  | fuel + 1, w :: rest => do
    let ms ← wordMarks fuel w
    let s ← get
    let separators := (s.valueOf? "IFS".toList).getD [' ', '\t', '\n']
    let fields := Splitting.fields separators ms
    let here := fields.flatMap fun f =>
      if s.plainNames then [inkedText f] else fileNames s.tree s.cwd f
    return here ++ (← wordFields fuel rest)

/-- Redirections are applied one after the other; the result tells whether all could be, and whether
the input is another one. -/
def redirect : Nat → List Redirection → Act (Bool × Bool)
  | 0, _ => throw (.killed 9)
  | _ + 1, [] => return (true, false)
  | fuel + 1, r :: rest => do
    let refused (text : Octets) : Act (Bool × Bool) := do
      complain 2 text
      return (false, false)
    match r with
    | .here descriptor word =>
      let text ← wordText fuel word
      if descriptor = 0 then modify fun s => { s with input := text }
      let (fine, _) ← redirect fuel rest
      return (fine, true)
    | .duplicate descriptor word =>
      let target ← wordText fuel word
      if target == ['-'] then
        modify fun s => s.direct descriptor .nowhere
        redirect fuel rest
      else if !target.isEmpty && target.all Char.isDigit then
        let s ← get
        match s.sinks.lookup (Tool.natOf target) with
        | some sink =>
          set (s.direct descriptor sink)
          redirect fuel rest
        | none =>
          if target == ['0'] then redirect fuel rest
          else refused (target ++ Octets.ofText ": Bad file descriptor")
      else abort (Octets.ofText "Syntax error: Bad fd number")
    | .file descriptor use word =>
      let path ← wordText fuel word
      match use with
      | .reading =>
        match ← openSource path with
        | .error text => refused text
        | .ok text =>
          if descriptor = 0 then modify fun s => { s with input := text }
          let (fine, other) ← redirect fuel rest
          return (fine, other || descriptor = 0)
      | .writing | .appending =>
        match ← openSink path (use = .appending) with
        | .error text => refused text
        | .ok sink =>
          modify fun s => s.direct descriptor sink
          redirect fuel rest

/-- A part of a run with redirections. -/
def redirected : Nat → List Redirection → Act Unit → Act Unit
  | 0, _, _ => throw (.killed 9)
  | fuel + 1, rs, body => do
    let before ← get
    let (fine, other) ← redirect fuel rs
    let turn? ← if fine then caught body else pure none
    modify fun s => { s with
      sinks := before.sinks, input := if other then before.input else s.input }
    match turn? with
    | some turn => throw turn
    | none => pure ()

/-- Variables are set, one after the other. -/
def assignAll : Nat → Bool → List (Octets × Word) → Act Unit
  | 0, _, _ => throw (.killed 9)
  | _ + 1, _, [] => pure ()
  | fuel + 1, exports, (name, w) :: rest => do
    let text ← wordText fuel w
    modify fun s =>
      let s := s.assign name text
      if exports then s.exportVariable name else s
    assignAll fuel exports rest

/-- A **command** is carried out. -/
def run : Nat → Command → Act Unit
  | 0, _ => throw (.killed 9)
  | fuel + 1, c =>
    match c with
    | .nothing => pure ()
    | .sequence first second => do
      run fuel first
      run fuel second
    | .andThen first second => do
      guarded (run fuel first)
      if (← get).status = 0 then run fuel second
    | .orElse first second => do
      guarded (run fuel first)
      if (← get).status ≠ 0 then run fuel second
    | .negated body => do
      guarded (run fuel body)
      conclude (if (← get).status = 0 then 1 else 0)
    | .pipe first second => do
      let text ← captured (run fuel first)
      let left := (← get).input
      isolated do
        modify fun s => { s with input := text }
        run fuel second
      modify fun s => { s with input := left }
      heedFailure
    | .background body => do
      let left := (← get).input
      isolated do
        modify fun s => { s with input := [] }
        run fuel body
      modify fun s => { s with input := left, status := 0 }
    | .subshell body => do
      isolated (run fuel body)
      heedFailure
    | .choice condition yes no => do
      guarded (run fuel condition)
      if (← get).status = 0 then run fuel yes
      else
        conclude 0
        run fuel no
    | .loop stopsWhen condition body => loop fuel stopsWhen condition body 0
    | .each name words? body => do
      let fields ← match words? with
        | some words => wordFields fuel words
        | none => do pure (← get).arguments
      conclude 0
      each fuel name body fields
    | .branch subject branches => do
      let text ← wordText fuel subject
      conclude 0
      branch fuel text branches
    | .define name body =>
      modify fun s => { s with
        functions := (name, body) :: s.functions.filter (·.1 != name), status := 0 }
    | .redirected body rs => redirected fuel rs (run fuel body)
    | .simple line assignments words rs => do
      modify fun s => { s with line, substituted? := none }
      simple fuel assignments words rs
      heedFailure

/-- A loop; `last` is the status that it ends with. -/
def loop : Nat → Bool → Command → Command → Nat → Act Unit
  | 0, _, _, _, _ => throw (.killed 9)
  | fuel + 1, stopsWhen, condition, body, last => do
    guarded (run fuel condition)
    if ((← get).status = 0) = (stopsWhen = true) then conclude last
    else
      match ← caught (run fuel body) with
      | none => loop fuel stopsWhen condition body (← get).status
      | some turn =>
        match loopTurn turn with
        | .error outer => throw outer
        | .ok true => loop fuel stopsWhen condition body 0
        | .ok false => conclude 0

/-- A loop over fields. -/
def each : Nat → Octets → Command → List Octets → Act Unit
  | 0, _, _, _ => throw (.killed 9)
  | _ + 1, _, _, [] => pure ()
  | fuel + 1, name, body, field :: rest => do
    modify fun s => s.assign name field
    match ← caught (run fuel body) with
    | none => each fuel name body rest
    | some turn =>
      match loopTurn turn with
      | .error outer => throw outer
      | .ok true => each fuel name body rest
      | .ok false => conclude 0

/-- The first branch with a pattern that matches. -/
def branch : Nat → Octets → List (List Word × Command) → Act Unit
  | 0, _, _ => throw (.killed 9)
  | _ + 1, _, [] => pure ()
  | fuel + 1, text, (ps, body) :: rest => do
    if ← anyMatches fuel text ps then run fuel body else branch fuel text rest

/-- Whether one of some patterns matches. -/
def anyMatches : Nat → Octets → List Word → Act Bool
  | 0, _, _ => throw (.killed 9)
  | _ + 1, _, [] => return false
  | fuel + 1, text, p :: rest => do
    let ps := Mark.pattern (← wordMarks fuel p)
    if Glob.isMatch ps text then return true else anyMatches fuel text rest

/-- A **simple** command. -/
def simple : Nat → List (Octets × Word) → List Word → List Redirection → Act Unit
  | 0, _, _, _ => throw (.killed 9)
  | fuel + 1, assignments, words, rs => do
    let fields ← wordFields fuel words
    match fields with
    | [] =>
      assignAll fuel false assignments
      redirected fuel rs do
        modify fun s => { s with status := s.substituted?.getD 0 }
    | name :: arguments =>
      if (← get).tells then
        modify fun s => s.write 2 (Octets.ofText "+ " ++ [' '].intercalate fields ++ ['\n'])
      let key := Octets.key name
      if key = "exec" then
        let (fine, _) ← redirect fuel rs
        if fine && !arguments.isEmpty then
          assignAll fuel true assignments
          execute fuel (Octets.ofText "exec: ") arguments
          throw .finish
        else if fine then conclude 0
        else throw .finish
      else if specialNames.contains key then
        assignAll fuel false assignments
        redirected fuel rs (invoke fuel name arguments)
      else
        let before := (← get).bindings
        assignAll fuel true assignments
        let turn? ← caught (redirected fuel rs (invoke fuel name arguments))
        if !assignments.isEmpty then
          let named (v : Octets × Variable) : Bool := (assignments.map Prod.fst).contains v.1
          modify fun s =>
            let kept := s.bindings.filter (fun v => !named v) ++ before.filter named
            { s with bindings := kept }
        match turn? with
        | some turn => throw turn
        | none => pure ()

/-- A name with arguments: a function, a command of the shell itself, or a program. -/
def invoke : Nat → Octets → List Octets → Act Unit
  | 0, _, _ => throw (.killed 9)
  | fuel + 1, name, arguments => do
    let s ← get
    let key := Octets.key name
    match s.functions.lookup name with
    | some body =>
      if specialNames.contains key then builtin fuel key arguments
      else
        set { s with arguments, hidden := [] }
        let turn? ← caught (run fuel body)
        modify fun after =>
          let after := after.hidden.foldl (fun a (name, was?) => a.restore name was?) after
          { after with arguments := s.arguments, hidden := s.hidden }
        match turn? with
        | none | some .back => pure ()
        | some turn => throw turn
    | none =>
      if specialNames.contains key || regularNames.contains key then builtin fuel key arguments
      else execute fuel [] (name :: arguments)

/-- A command of the shell itself. -/
def builtin : Nat → String → List Octets → Act Unit
  | 0, _, _ => throw (.killed 9)
  | fuel + 1, key, arguments => do
    match key, arguments with
    | "eval", _ =>
      conclude 0
      runLines fuel (Script.ofOctets ([' '].intercalate arguments))
    | ".", [] => conclude 0
    | ".", path :: _ =>
      let s ← get
      match s.tree.readBytes s.cwd (Condition.pathOf path) with
      | .ok content =>
        conclude 0
        match ← caught (runLines fuel (Script.ofOctets (Octets.ofBytes content))) with
        | none | some .back => pure ()
        | some turn => throw turn
      | .error fault =>
        abort (Octets.ofText ".: cannot open " ++ path ++
          Octets.ofText (": " ++ State.fileWording false fault))
    | "command", ['-', 'v'] :: name :: _ | "type", name :: _ =>
      let s ← get
      let missing : Octets := if key = "type" then name ++ Octets.ofText ": not found\n" else []
      if regularNames.contains (Octets.key name) || specialNames.contains (Octets.key name) then
        set { s.write 1 (name ++ ['\n']) with status := 0 }
      else
        match Program.find s.tree s.cwd (s.valueOf? "PATH".toList) name with
        | .ok _ => set { s.write 1 (name ++ ['\n']) with status := 0 }
        | .error _ => set { s.write 1 missing with status := 127 }
    | "command", name :: rest =>
      if regularNames.contains (Octets.key name) || specialNames.contains (Octets.key name) then
        builtin fuel (Octets.key name) rest
      else execute fuel [] (name :: rest)
    | _, _ => plainBuiltin key arguments

/-- A **program** is executed as an own process; a remark on its name starts with `lead`. -/
def execute : Nat → Octets → List Octets → Act Unit
  | 0, _, _ => throw (.killed 9)
  | _ + 1, _, [] => conclude 0
  | fuel + 1, lead, name :: arguments => do
    let s ← get
    let program : Except Fault Program :=
      match Program.find s.tree s.cwd (s.valueOf? "PATH".toList) name with
      | .error fault => if fault = .notAProgram then .ok (.shell [name]) else .error fault
      | ok => ok
    match program with
    | .error fault =>
      complain (if fault = .notFound || fault = .notADirectory then 127 else 126)
        (lead ++ name ++ Octets.ofText (": " ++ State.programWording fault))
    | .ok p =>
      match ← caught (launch fuel p name arguments s.environment) with
      | some (.killed signal) => conclude (128 + signal)
      | _ => pure ()

/-- A program runs with a name, arguments and an environment. -/
def launch : Nat → Program → Octets → List Octets → List (Octets × Octets) → Act Unit
  | 0, _, _, _, _ => throw (.killed 9)
  | fuel + 1, p, name, arguments, environment => do
    match p with
    | .tool tool before =>
      let s ← get
      let left := tool
        { arguments := before ++ arguments, environment, input := s.input, cwd := s.cwd
          tree := s.tree }
      set { (({ s with tree := left.tree }).write 2 left.complaint).write 1 left.output with
        status := left.code, input := if left.tookInput then [] else s.input }
    | .shell before => shell fuel name (before ++ arguments) environment
    | .environment before => changed fuel (before ++ arguments) environment

/-- A program runs in a changed environment. -/
def changed : Nat → List Octets → List (Octets × Octets) → Act Unit
  | 0, _, _ => throw (.killed 9)
  | fuel + 1, arguments, environment => do
    match arguments with
    | [] =>
      modify fun s => { s.write 1 (Tool.unlines (environment.map fun (k, v) => k ++ '=' :: v)) with
        status := 0 }
    | ['-', 'i'] :: rest => changed fuel rest []
    | ['-', 'u'] :: name :: rest => changed fuel rest (environment.filter (·.1 != name))
    | a :: rest =>
      match assignment a with
      | (name, some value) =>
        changed fuel rest ((name, value) :: environment.filter (·.1 != name))
      | (_, none) =>
        let s ← get
        match Program.find s.tree s.cwd (environment.lookup "PATH".toList) a with
        | .ok p => launch fuel p a rest environment
        | .error fault =>
          modify fun s => { s.write 2 (Octets.ofText
              ("env: '" ++ Octets.toText a ++ "': " ++ Tool.wording fault ++ "\n")) with
            status := if fault = .notFound then 127 else 126 }

/-- A **shell** runs as an own process, by its arguments. -/
def shell : Nat → Octets → List Octets → List (Octets × Octets) → Act Unit
  | 0, _, _, _ => throw (.killed 9)
  | fuel + 1, name, arguments, environment =>
    isolated do
      modify fun s => { s with
        name, arguments := [], functions := [], status := 0, substituted? := none, line := 0
        bindings := environment.map fun (k, v) => (k, ⟨v, true⟩)
        stopsOnFailure := false, stopsOnUnset := false, tells := false, plainNames := false
        guarded := false, lastWords := [], hidden := [] }
      modify fun s => s.assign "PWD".toList (Octets.ofText (placePath s.cwd).text)
      match ← caught (shellBody fuel false arguments) with
      | some (.killed signal) => throw (.killed signal)
      | _ =>
        let s ← get
        match s.lastWords with
        | [] => pure ()
        | words =>
          set { s with lastWords := [] }
          match ← caught (runLines fuel (Script.ofOctets words)) with
          | some .finish => pure ()
          | some (.killed signal) => throw (.killed signal)
          | _ => conclude s.status

/-- What a shell does by its arguments: it runs a text, a file or its input. -/
def shellBody : Nat → Bool → List Octets → Act Unit
  | 0, _, _ => throw (.killed 9)
  | fuel + 1, asText, arguments => do
    match arguments with
    | ('-' :: c :: cs) :: rest =>
      if c :: cs == ['-'] then shellText fuel asText rest
      else
        modify fun s => (c :: cs).foldl (fun s c => setOption true c s) s
        shellBody fuel (asText || (c :: cs).contains 'c') rest
    | _ => shellText fuel asText arguments

/-- What a shell runs by the arguments behind its options. -/
def shellText : Nat → Bool → List Octets → Act Unit
  | 0, _, _ => throw (.killed 9)
  | fuel + 1, asText, arguments => do
    let s ← get
    match asText, arguments with
    | true, [] => abort (Octets.ofText "-c requires an argument")
    | true, text :: rest =>
      set { s with name := rest.head?.getD s.name, arguments := rest.drop 1 }
      runLines fuel (Script.ofOctets text)
    | false, [] =>
      set { s with input := [] }
      runLines fuel (Script.ofOctets s.input)
    | false, path :: rest =>
      match s.tree.readBytes s.cwd (Condition.pathOf path) with
      | .ok content =>
        set { s with name := path, arguments := rest }
        runLines fuel (Script.ofOctets (Octets.ofBytes content))
      | .error fault =>
        abort (Octets.ofText "cannot open " ++ path ++
          Octets.ofText (": " ++ State.fileWording false fault))

/-- The **lines** of a script are run up to its fault. -/
def runLines : Nat → Script → Act Unit
  | 0, _ => throw (.killed 9)
  | fuel + 1, script => do
    match script.lines, script.fault? with
    | c :: rest, fault? =>
      run fuel c
      runLines fuel ⟨rest, fault?⟩
    | [], none => pure ()
    | [], some fault =>
      modify fun s => { s with line := fault.line }
      abort (Octets.ofText fault.text)

end

end Run

/-- What a process **leaves** when it has ended. -/
structure Finished where
  status : WaitStatus
  output : Octets
  complaint : Octets
  tree : Tree

/-- How much a process may do before it is ended. -/
abbrev processFuel : Nat := 1000000

/-- A **process** from its program to its end. -/
def Program.finish (p : Program) (name : Octets) (s : Start) : Finished :=
  let start : State :=
    { name, arguments := [], bindings := [], cwd := s.cwd, tree := s.tree, input := s.input
      sinks := [(1, .buffer 1), (2, .buffer 2)], buffers := [], nextBuffer := 3 }
  let (turn, after) := Run.launch processFuel p name s.arguments s.environment start
  let status := match turn with
    | .error (.killed signal) => WaitStatus.signalled signal
    | _ => WaitStatus.exited after.status
  { status, output := after.written 1, complaint := after.written 2, tree := after.tree }

end GeoBench.Shell
