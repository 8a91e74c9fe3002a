import GeoBench.Shell.Condition
import GeoBench.Shell.Format
import GeoBench.Shell.Stream

/-!
# Tools

The small programs that scripts are made of: they read files and their input, write text, and make
or remove files. A tool sees the file tree and its working directory, and ends with an exit code.

## What a tool is

A tool is a function from what it starts with to what it leaves: the file tree, what it wrote to
each of its two outputs, and its exit code. It starts no other program, and no time passes in it.

## How faithful they are

Tools read their options as the portable ones do, by single letters behind one dash. Their remarks
begin with the name of the tool and end with the wording of the fault of the system. Where a tool
would go on for ever its output is cut off (`endlessLength`), which can be seen only by a reader
that takes in more than that.

## Main results

* `Tool.gather_of_readable` — files that can be read come out one after the other.
-/

namespace GeoBench.Shell

open GeoBench.Machine

/-- What a tool starts with. -/
structure Start where
  arguments : List Octets
  environment : List (Octets × Octets)
  input : Octets
  cwd : Place
  tree : Tree

/-- What a tool **leaves**. -/
structure Left where
  tree : Tree
  code : Nat := 0
  output : Octets := []
  complaint : Octets := []
  /-- Whether the input was read. -/
  tookInput : Bool := false

namespace Tool

/-- A tool that only writes. -/
def wrote (s : Start) (output : Octets) : Left := { tree := s.tree, output }

/-- A tool that fails with a line on its standard error. -/
def failed (s : Start) (code : Nat) (line : String) : Left :=
  { tree := s.tree, code, complaint := Octets.ofText (line ++ "\n") }

/-- The wording of a fault as tools give it. -/
def wording : Fault → String
  | .numbered n => (Fault.wording.lookup n).getD ("Unknown error " ++ toString n)
  | .remark text => text

/-- The octets of the file that an argument names; a dash names the input. Of the endless file of
zeros there are as many as are wanted. -/
def contentOf (s : Start) (file : Octets) (wanted : Nat := 0) : Except Fault Octets :=
  if file = ['-'] then .ok s.input
  else if file = "/dev/null".toList then .ok []
  else if file = "/dev/zero".toList then .ok (List.replicate wanted '\x00')
  else (s.tree.readBytes s.cwd (Condition.pathOf file)).map Octets.ofBytes

/-- The octets of files one after the other, or of the input if there is none, and a line for each
that cannot be read. -/
def gather (s : Start) (complain : String → Fault → String) (files : List Octets)
    (wanted : Nat := 0) : Left :=
  if files.isEmpty then { wrote s s.input with tookInput := true }
  else files.foldl (fun (l : Left) file =>
    match contentOf s file wanted with
    | .ok content => { l with output := l.output ++ content }
    | .error fault =>
      let line := complain (Octets.toText file) fault
      { l with code := 1, complaint := l.complaint ++ Octets.ofText (line ++ "\n") })
    { tree := s.tree, tookInput := files.contains ['-'] }

/-- **Files that can be read** come out one after the other, without a complaint. The induction is
on the files, behind what has come out already. -/
theorem gather_of_readable {s : Start} {complain : String → Fault → String} {files : List Octets}
    {wanted : Nat} {contents : Octets → Octets} (hne : files ≠ [])
    (h : ∀ file ∈ files, contentOf s file wanted = .ok (contents file)) :
    (gather s complain files wanted).output = files.flatMap contents ∧
      (gather s complain files wanted).code = 0 := by
  have hfold : ∀ l : Left, (files.foldl (fun (l : Left) file =>
      match contentOf s file wanted with
      | .ok content => { l with output := l.output ++ content }
      | .error fault =>
        let line := complain (Octets.toText file) fault
        { l with code := 1, complaint := l.complaint ++ Octets.ofText (line ++ "\n") }) l) =
      { l with output := l.output ++ files.flatMap contents } := by
    clear hne
    induction files with
    | nil => intro l; simp
    | cons file files ih =>
        intro l
        rw [List.foldl_cons, h file List.mem_cons_self]
        dsimp only
        rw [ih fun f hf => h f (List.mem_cons_of_mem _ hf)]
        simp
  rw [gather, if_neg (by simpa using hne)]
  exact ⟨congrArg Left.output (hfold _), congrArg Left.code (hfold _)⟩

/-- The options and the operands among arguments: every argument that starts with a dash and is
longer is an option, up to a double dash. -/
def split : List Octets → List Octets × List Octets
  | [] => ([], [])
  | ['-', '-'] :: rest => ([], rest)
  | a :: rest =>
    let (options, operands) := split rest
    if a.head? == some '-' && a.length > 1 then (a :: options, operands)
    else (options, a :: operands)

/-- Whether one of the short options is given. -/
def has (options : List Octets) (letter : Char) : Bool :=
  options.any fun o => (o.drop 1).contains letter

/-- Lines as a text, each with its line feed. -/
def unlines (ls : List Octets) : Octets :=
  ls.flatMap (· ++ ['\n'])

/-- The number that decimal digits name. -/
def natOf (ds : Octets) : Nat :=
  (Number.readDigits 10 ds).getD 0

/-! ### Reading -/

/-- **cat**: files one after the other. -/
def cat (s : Start) : Left :=
  let (options, files) := split s.arguments
  let l := gather s (fun file fault => "cat: " ++ file ++ ": " ++ wording fault) files
  if has options 'n' then
    { l with output := unlines ((octetLines l.output).zipIdx.map fun (line, i) =>
        padded { width := 6 } (Nat.toDigits 10 (i + 1)) ++ '\t' :: line) }
  else l

/-- How much of a text is asked for: lines or octets, and how many; with a plus sign, from there
on. -/
structure Portion where
  octets : Bool := false
  count : Nat := 10
  fromThere : Bool := false
  files : List Octets := []

/-- The portion that arguments ask for. -/
def portion : List Octets → Portion
  | [] => {}
  | ['-', 'n'] :: n :: rest =>
    { portion rest with octets := false, count := natOf (digits n), fromThere := plus n }
  | ['-', 'c'] :: n :: rest =>
    { portion rest with octets := true, count := natOf (digits n), fromThere := plus n }
  | ('-' :: 'n' :: n) :: rest =>
    { portion rest with octets := false, count := natOf (digits n), fromThere := plus n }
  | ('-' :: 'c' :: n) :: rest =>
    { portion rest with octets := true, count := natOf (digits n), fromThere := plus n }
  | ('-' :: d :: n) :: rest =>
    if d.isDigit then { portion rest with octets := false, count := natOf (d :: n) }
    else portion rest
  | file :: rest =>
    let p := portion rest
    { p with files := file :: p.files }
where
  /-- Whether a count starts with a plus sign. -/
  plus (n : Octets) : Bool := n.head? == some '+'
  /-- The digits of a count. -/
  digits (n : Octets) : Octets := n.dropWhile fun c => !c.isDigit

/-- The first lines of a text. -/
def firstLines (n : Nat) (cs : Octets) : Octets :=
  let ls := octetLines cs
  if ls.length ≤ n then cs else unlines (ls.take n)

/-- The last lines of a text. -/
def lastLines (n : Nat) (cs : Octets) : Octets :=
  let ls := octetLines cs
  let kept := ls.drop (ls.length - n)
  if endsLine cs || kept.isEmpty then unlines kept else ['\n'].intercalate kept

/-- **head**: the first lines or octets. -/
def head (s : Start) : Left :=
  let p := portion s.arguments
  let l := gather s (fun file fault =>
    "head: cannot open '" ++ file ++ "' for reading: " ++ wording fault) p.files p.count
  { l with output := if p.octets then l.output.take p.count else firstLines p.count l.output }

/-- **tail**: the last lines or octets, or those from a place on. -/
def tail (s : Start) : Left :=
  let p := portion s.arguments
  let l := gather s (fun file fault =>
    "tail: cannot open '" ++ file ++ "' for reading: " ++ wording fault) p.files
  { l with output :=
      match p.octets, p.fromThere with
      | true, true => l.output.drop (p.count - 1)
      | true, false => l.output.drop (l.output.length - p.count)
      | false, true =>
        let ls := octetLines l.output
        let kept := ls.drop (p.count - 1)
        if endsLine l.output || kept.isEmpty then unlines kept else ['\n'].intercalate kept
      | false, false => lastLines p.count l.output }

/-- The words of a text. -/
def wordCount (cs : Octets) : Nat :=
  (cs.splitOnP fun c => c.isWhitespace || c == '\x0b' || c == '\x0c').countP fun w => !w.isEmpty

/-- **wc**: how many lines, words and octets. -/
def wc (s : Start) : Left :=
  let (options, files) := split s.arguments
  let l := gather s (fun file fault => "wc: " ++ file ++ ": " ++ wording fault) files
  let cs := l.output
  let every := options.isEmpty
  let counts : List Nat :=
    (if every || has options 'l' then [cs.count '\n'] else []) ++
    (if every || has options 'w' then [wordCount cs] else []) ++
    (if every || has options 'c' || has options 'm' then [cs.length] else [])
  let width := if counts.length = 1 then 0 else if files.isEmpty then 7
    else (Nat.toDigits 10 cs.length).length
  let fields := counts.map fun n => padded { width } (Nat.toDigits 10 n)
  { l with output := [' '].intercalate (fields ++ files.take 1) ++ ['\n'] }

/-! ### Changing text -/

/-- The octets of a set: ranges and escapes. -/
def octetSet : Nat → Octets → Octets
  | 0, _ | _, [] => []
  | fuel + 1, '\\' :: c :: rest =>
    match letterEscape? c with
    | some d => d :: octetSet fuel rest
    | none =>
      let ds := ((c :: rest).takeWhile isOctal).take 3
      if ds.isEmpty then c :: octetSet fuel rest
      else octalChar ds :: octetSet fuel ((c :: rest).drop ds.length)
  | fuel + 1, a :: '-' :: b :: rest =>
    ((List.range (b.toNat + 1 - a.toNat)).map fun i => Char.ofNat (a.toNat + i)) ++
      octetSet fuel rest
  | fuel + 1, a :: rest =>
    match Octets.key (a :: rest.take 8), rest with
    | "[:upper:]", _ => "ABCDEFGHIJKLMNOPQRSTUVWXYZ".toList ++ octetSet fuel (rest.drop 8)
    | "[:lower:]", _ => "abcdefghijklmnopqrstuvwxyz".toList ++ octetSet fuel (rest.drop 8)
    | "[:digit:]", _ => "0123456789".toList ++ octetSet fuel (rest.drop 8)
    | "[:space:]", _ => " \t\n\r\x0b\x0c".toList ++ octetSet fuel (rest.drop 8)
    | _, _ => a :: octetSet fuel rest

/-- A text in which neighbours of one kind are one. -/
def squeezed (set : Octets) : Octets → Octets
  | a :: b :: rest =>
    if a == b && set.contains a then squeezed set (b :: rest) else a :: squeezed set (b :: rest)
  | cs => cs

/-- **tr**: octets replaced, deleted or squeezed. -/
def tr (s : Start) : Left :=
  let (options, sets) := split s.arguments
  let set (i : Nat) : Octets := let cs := sets[i]?.getD []; octetSet cs.length cs
  let first := set 0
  let second := set 1
  let inFirst (c : Char) : Bool :=
    first.contains c != (has options 'c' || has options 'C')
  let replacement (c : Char) : Char :=
    if has options 'c' || has options 'C' then second.getLast?.getD c
    else (second[first.idxOf c]?).getD (second.getLast?.getD c)
  let wrote (s : Start) (output : Octets) : Left := { tree := s.tree, output, tookInput := true }
  if has options 'd' then
    let kept := s.input.filter fun c => !inFirst c
    wrote s (if has options 's' then squeezed second kept else kept)
  else if sets.length < 2 then wrote s (if has options 's' then squeezed first s.input else s.input)
  else
    let changed := s.input.map fun c => if inFirst c then replacement c else c
    wrote s (if has options 's' then squeezed second changed else changed)

/-- The places that a list of ranges names. -/
def inRanges (list : Octets) (i : Nat) : Bool :=
  (list.splitOn ',').any fun r =>
    let ends := r.splitOn '-'
    match ends with
    | [n] => natOf n = i
    | [a, b] => (a.isEmpty || natOf a ≤ i) && (b.isEmpty || i ≤ natOf b)
    | _ => false

/-- The options of **cut**. -/
structure CutOptions where
  delimiter : Char := '\t'
  fields? : Option Octets := none
  places? : Option Octets := none
  files : List Octets := []

/-- The options of cut among arguments. -/
def cutOptions : List Octets → CutOptions
  | [] => {}
  | ['-', 'd'] :: d :: rest => { cutOptions rest with delimiter := d.head?.getD '\t' }
  | ['-', 'f'] :: f :: rest => { cutOptions rest with fields? := some f }
  | ['-', 'c'] :: c :: rest | ['-', 'b'] :: c :: rest => { cutOptions rest with places? := some c }
  | ('-' :: 'd' :: d) :: rest => { cutOptions rest with delimiter := d.head?.getD '\t' }
  | ('-' :: 'f' :: f) :: rest => { cutOptions rest with fields? := some f }
  | ('-' :: 'c' :: c) :: rest | ('-' :: 'b' :: c) :: rest =>
    { cutOptions rest with places? := some c }
  | file :: rest =>
    let o := cutOptions rest
    { o with files := file :: o.files }

/-- **cut**: some fields or octets of each line. -/
def cut (s : Start) : Left :=
  let o := cutOptions s.arguments
  let l := gather s (fun file fault => "cut: " ++ file ++ ": " ++ wording fault) o.files
  let kept {α : Type} (list : Octets) (xs : List α) : List α :=
    (xs.zipIdx.filter fun (_, i) => inRanges list (i + 1)).map Prod.fst
  let line (cs : Octets) : Octets :=
    match o.fields?, o.places? with
    | some list, _ =>
      let fields := cs.splitOn o.delimiter
      if fields.length = 1 then cs else [o.delimiter].intercalate (kept list fields)
    | none, some list => kept list cs
    | none, none => cs
  { l with output := unlines ((octetLines l.output).map line) }

/-- **sort**: lines in order. -/
def sort (s : Start) : Left :=
  let (options, files) := split s.arguments
  let l := gather s (fun file fault => "sort: cannot read: " ++ file ++ ": " ++ wording fault) files
  let value (cs : Octets) : Int :=
    ((Arithmetic.readValue (cs.takeWhile fun c => c.isDigit || c == '-' || c == ' ')).getD 0)
  let before (a b : Octets) : Bool :=
    if has options 'n' then
      decide (value a < value b) || (value a == value b && decide (Octets.key a ≤ Octets.key b))
    else decide (Octets.key a ≤ Octets.key b)
  let ordered := (octetLines l.output).mergeSort before
  let ordered := if has options 'r' then ordered.reverse else ordered
  { l with output := unlines (if has options 'u' then ordered.eraseDups else ordered) }

/-- Neighbours that are equal, counted. -/
def runs : List Octets → List (Octets × Nat)
  | [] => []
  | a :: rest =>
    match runs rest with
    | (b, n) :: others => if a == b then (b, n + 1) :: others else (a, 1) :: (b, n) :: others
    | [] => [(a, 1)]

/-- **uniq**: equal neighbours as one line. -/
def uniq (s : Start) : Left :=
  let (options, files) := split s.arguments
  let l := gather s (fun file fault => "uniq: " ++ file ++ ": " ++ wording fault) files
  let found := (runs (octetLines l.output)).filter fun (_, n) =>
    (!has options 'd' || 1 < n) && (!has options 'u' || n = 1)
  { l with output := unlines (found.map fun (line, n) =>
      if has options 'c' then padded { width := 7 } (Nat.toDigits 10 n) ++ ' ' :: line else line) }

/-- **rev**: each line backwards. -/
def rev (s : Start) : Left :=
  let l := gather s (fun file fault =>
    "rev: cannot open " ++ file ++ ": " ++ wording fault) (split s.arguments).2
  { l with output := unlines ((octetLines l.output).map List.reverse) }

/-- **tac**: the lines from the last to the first. -/
def tac (s : Start) : Left :=
  let l := gather s (fun file fault =>
    "tac: failed to open '" ++ file ++ "' for reading: " ++ wording fault) (split s.arguments).2
  { l with output := unlines (octetLines l.output).reverse }

/-- **grep**: the lines in which an expression is found. -/
def grep (s : Start) : Left :=
  let (options, operands) := split s.arguments
  match operands with
  | [] => failed s 2 "Usage: grep [OPTION]... PATTERNS [FILE]..."
  | pattern :: files =>
    let fixed := (Regex.alternativesOf (pattern.splitOn '\n'))
    let e? := if has options 'F' then some fixed else Regex.ofOctets? (has options 'E') pattern
    match e? with
    | none => failed s 2 "grep: Invalid regular expression"
    | some e =>
      let holds (line : Octets) : Bool :=
        (match Regex.search (has options 'i') e line 0 with
          | some f => !has options 'x' || f.length = line.length
          | none => false) != has options 'v'
      let sources := if files.isEmpty then [['-']] else files
      let named := 1 < sources.length && !has options 'h'
      let l := sources.foldl (fun (l : Left × Bool) file =>
        match contentOf s file with
        | .error fault =>
          let line := "grep: " ++ Octets.toText file ++ ": " ++ wording fault ++ "\n"
          ({ l.1 with code := 2, complaint := l.1.complaint ++ Octets.ofText line }, l.2)
        | .ok content =>
          let found := ((octetLines content).zipIdx.filter fun (line, _) => holds line)
          let name := if named then file ++ [':'] else []
          let text := if has options 'q' then []
            else if has options 'c' then name ++ Nat.toDigits 10 found.length ++ ['\n']
            else if has options 'l' then (if found.isEmpty then [] else file ++ ['\n'])
            else unlines (found.map fun (line, i) =>
              name ++ (if has options 'n' then Nat.toDigits 10 (i + 1) ++ [':'] else []) ++ line)
          ({ l.1 with output := l.1.output ++ text }, l.2 || !found.isEmpty))
        (({ tree := s.tree, tookInput := sources.contains ['-'] } : Left), false)
      { l.1 with code := if l.1.code = 2 then 2 else if l.2 then 0 else 1 }

/-- The options of **sed**. -/
structure SedOptions where
  quiet : Bool := false
  extended : Bool := false
  scripts : List Octets := []
  operands : List Octets := []

/-- The options of sed among arguments. -/
def sedOptions : List Octets → SedOptions
  | [] => {}
  | ['-', 'e'] :: script :: rest =>
    let o := sedOptions rest
    { o with scripts := script :: o.scripts }
  | ['-', 'n'] :: rest => { sedOptions rest with quiet := true }
  | ['-', 'E'] :: rest | ['-', 'r'] :: rest => { sedOptions rest with extended := true }
  | ['-', 'n', 'e'] :: script :: rest =>
    let o := sedOptions rest
    { o with quiet := true, scripts := script :: o.scripts }
  | ['-', 'n', 'E'] :: rest | ['-', 'n', 'r'] :: rest | ['-', 'E', 'n'] :: rest
  | ['-', 'r', 'n'] :: rest => { sedOptions rest with quiet := true, extended := true }
  | operand :: rest =>
    let o := sedOptions rest
    { o with operands := operand :: o.operands }

/-- **sed**: the stream editor. -/
def sed (s : Start) : Left :=
  let o := sedOptions s.arguments
  let (scripts, files) := match o.scripts, o.operands with
    | [], script :: files => ([script], files)
    | scripts, files => (scripts, files)
  let text := ['\n'].intercalate scripts
  match Editor.commandsOf? o.extended text with
  | none =>
    failed s 1 ("sed: -e expression #1, char " ++ toString text.length ++ ": unknown command")
  | some commands =>
    let l := gather s (fun file fault => "sed: can't read " ++ file ++ ": " ++ wording fault) files
    { l with output := Editor.edit o.quiet commands l.output
             code := if l.code = 0 then 0 else 2 }

/-! ### Writing -/

/-- **seq**: numbers one after the other. -/
def seq (s : Start) : Left :=
  let number (cs : Octets) : Int := (Arithmetic.readValue cs).getD 0
  let (first, step, last) := match s.arguments with
    | [a] => (1, 1, number a)
    | [a, b] => (number a, 1, number b)
    | a :: b :: c :: _ => (number a, number b, number c)
    | [] => (1, 1, 0)
  let count : Nat := if step = 0 then 0 else (Int.fdiv (last - first) step + 1).toNat
  wrote s (unlines ((List.range count).map fun (i : Nat) =>
    (toString (first + step * (i : Int))).toList))

/-- **basename**: the last step of a path. -/
def basename (s : Start) : Left :=
  let last (cs : Octets) : Octets :=
    let cs' := (cs.reverse.dropWhile (· == '/')).reverse
    if cs'.isEmpty then (if cs.isEmpty then [] else ['/'])
    else (cs'.reverse.takeWhile (· != '/')).reverse
  match s.arguments with
  | [] => failed s 1 "basename: missing operand"
  | a :: rest =>
    let name := last a
    let ending := rest.head?.getD []
    let name := if ending.isSuffixOf name && ending != name then
      name.take (name.length - ending.length) else name
    wrote s (name ++ ['\n'])

/-- **dirname**: a path without its last step. -/
def dirname (s : Start) : Left :=
  let above (cs : Octets) : Octets :=
    let cs' := (cs.reverse.dropWhile (· == '/')).reverse
    let up := (cs'.reverse.dropWhile (· != '/')).reverse
    let bare := (up.reverse.dropWhile (· == '/')).reverse
    if cs'.isEmpty then (if cs.isEmpty then ['.'] else ['/'])
    else if up.isEmpty then ['.']
    else if bare.isEmpty then ['/'] else bare
  wrote s (unlines (s.arguments.map above))

/-- **pwd**: the working directory. -/
def pwd (s : Start) : Left :=
  wrote s (Octets.ofText (placePath s.cwd).text ++ ['\n'])

/-- **printenv**: the environment, or a variable of it. -/
def printenv (s : Start) : Left :=
  match s.arguments with
  | [] => wrote s (unlines (s.environment.map fun (k, v) => k ++ '=' :: v))
  | names =>
    let found := names.map fun n => s.environment.lookup n
    { wrote s (unlines (found.filterMap id)) with code := if found.all Option.isSome then 0 else 1 }

/-- **expr**: a number or a truth on two operands. -/
def expr (s : Start) : Left :=
  let answer (text : Octets) : Left :=
    { wrote s (text ++ ['\n']) with code := if text.isEmpty || text = ['0'] then 1 else 0 }
  match s.arguments with
  | [] => failed s 2 "expr: missing operand"
  | [a] => answer a
  | [a, o, b] =>
    let operator := match Octets.key o with | "=" => "==" | other => other
    let number (cs : Octets) : Option Int :=
      if cs.isEmpty then none else Arithmetic.readValue cs
    match number a, number b with
    | some x, some y =>
      match Arithmetic.apply operator x y with
      | .ok n => answer (toString n).toList
      | .error .divisionByZero => failed s 2 "expr: division by zero"
      | .error _ => failed s 2 "expr: syntax error"
    | _, _ =>
      match operator with
      | "==" => answer (if a == b then ['1'] else ['0'])
      | "!=" => answer (if a != b then ['1'] else ['0'])
      | _ => failed s 2 "expr: non-integer argument"
  | _ => failed s 2 "expr: syntax error"

/-! ### Files -/

/-- A change of the tree for every operand; what cannot be changed is told, and the others
follow. -/
def changeEach (s : Start) (complain : String → Fault → String)
    (change : Tree → Path → Except Fault Tree) (files : List Octets) : Left :=
  files.foldl (fun (l : Left) file =>
    match change l.tree (Condition.pathOf file) with
    | .ok tree => { l with tree }
    | .error fault =>
      let line := complain (Octets.toText file) fault
      { l with code := 1, complaint := l.complaint ++ Octets.ofText (line ++ "\n") })
    { tree := s.tree }

/-- **mkdir**: new directories. -/
def mkdir (s : Start) : Left :=
  let (options, files) := split s.arguments
  changeEach s
    (fun file fault => "mkdir: cannot create directory '" ++ file ++ "': " ++ wording fault)
    (fun t p =>
      if has options 'p' then
        let made := t.makeAll s.cwd p
        match made.fault? with
        | none => .ok made.tree
        | some fault => .error fault
      else t.makeDirectory s.cwd p) files

/-- **touch**: files that are there afterwards. -/
def touch (s : Start) : Left :=
  changeEach s (fun file fault => "touch: cannot touch '" ++ file ++ "': " ++ wording fault)
    (fun t p =>
      if t.existsAt s.cwd p then .ok t else t.writeBytes s.cwd p ByteArray.empty false false)
    (split s.arguments).2

/-- **rm**: files, and with an option directories, that are no longer there. -/
def rm (s : Start) : Left :=
  let (options, files) := split s.arguments
  let recursive := has options 'r' || has options 'R'
  changeEach s (fun file fault => "rm: cannot remove '" ++ file ++ "': " ++ wording fault)
    (fun t p =>
      match t.find s.cwd p with
      | .ok (place, .directory) =>
        if recursive then .ok (t.removeAll place) else .error .isADirectory
      | .ok (place, .file _ _) => .ok (t.removeAll place)
      | .error fault => if has options 'f' && fault = .notFound then .ok t else .error fault) files

/-- Whether a directory has nothing in it. -/
def isEmptyAt (t : Tree) (place : Place) : Bool :=
  t.entries.all fun e => !Tree.isUnder place e.1 || e.1 == place

/-- **rmdir**: empty directories that are no longer there. -/
def rmdir (s : Start) : Left :=
  changeEach s (fun file fault => "rmdir: failed to remove '" ++ file ++ "': " ++ wording fault)
    (fun t p => do
      match ← t.find s.cwd p with
      | (place, .directory) =>
        if isEmptyAt t place then .ok (t.removeAll place) else .error (.numbered 39)
      | (_, .file _ _) => .error .notADirectory) (split s.arguments).2

/-- The path that something gets when it is put at a target: in it, if that is a directory. -/
def landing (t : Tree) (cwd : Place) (source target : Path) : Path :=
  if t.isDirectory cwd target then target.sub (source.steps.getLast?.getD "") else target

/-- Everything at a place, put at another place too. -/
def copyAll (t : Tree) (source target : Place) : Tree :=
  (t.entries.filter fun e => Tree.isUnder source e.1).foldl (fun t e =>
    t.put (e.1.take (e.1.length - source.length) ++ target) e.2) t

/-- A file, or with everything in it a directory, put at another path. -/
def copyOne (recursive : Bool) (t : Tree) (cwd : Place) (source target : Path) :
    Except Fault Tree := do
  let target := landing t cwd source target
  match ← t.find cwd source with
  | (_, .file _ _) => t.copyFile cwd source target
  | (place, .directory) =>
    if !recursive then .error .isADirectory
    else match ← t.resolve cwd target with
      | .absent directory name => .ok (copyAll t place (name :: directory))
      | .present at_ _ => .ok (copyAll t place at_)

/-- **cp**: copies. -/
def cp (s : Start) : Left :=
  let (options, files) := split s.arguments
  let recursive := has options 'r' || has options 'R' || has options 'a'
  match files.getLast? with
  | none => failed s 1 "cp: missing file operand"
  | some target =>
    changeEach s (fun file fault =>
        if fault = .isADirectory then "cp: -r not specified; omitting directory '" ++ file ++ "'"
        else "cp: cannot stat '" ++ file ++ "': " ++ wording fault)
      (fun t p => copyOne recursive t s.cwd p (Condition.pathOf target)) files.dropLast

/-- **mv**: other names. -/
def mv (s : Start) : Left :=
  let files := (split s.arguments).2
  match files.getLast? with
  | none => failed s 1 "mv: missing file operand"
  | some target =>
    changeEach s (fun file fault => "mv: cannot stat '" ++ file ++ "': " ++ wording fault)
      (fun t p => do
        let (place, _) ← t.find s.cwd p
        let copied ← copyOne true t s.cwd p (Condition.pathOf target)
        return copied.removeAll place) files.dropLast

/-- **chmod**: whether files may be executed. -/
def chmod (s : Start) : Left :=
  match s.arguments with
  | how :: files =>
    let odd (c : Char) : Bool := (c.toNat - 48) % 2 == 1
    let executable :=
      if how.all isOctal then (how[how.length - 3]?.map odd).getD false
      else how.contains 'x' && how.contains '+'
    changeEach s (fun file fault => "chmod: cannot access '" ++ file ++ "': " ++ wording fault)
      (fun t p => do
        match ← t.find s.cwd p with
        | (_, .directory) => .ok t
        | (place, .file content old) =>
          let keeps := !how.all isOctal && !how.contains 'x'
          .ok (t.put place (.file content (if keeps then old else executable)))) files
  | [] => failed s 1 "chmod: missing operand"

/-- The names in a directory, in order. -/
def namesIn (t : Tree) (place : Place) : List String :=
  (t.entries.filterMap fun e =>
    match e.1 with
    | name :: parent => if parent == place then some name else none
    | [] => none).mergeSort fun a b => decide (a ≤ b)

/-- **ls**: the names in directories. -/
def ls (s : Start) : Left :=
  let (options, files) := split s.arguments
  let shown (n : String) : Bool := has options 'a' || has options 'A' || !n.startsWith "."
  let files := if files.isEmpty then [['.']] else files
  let many := 1 < files.length
  files.foldl (fun (l : Left) file =>
    let name := Octets.toText file
    match s.tree.find s.cwd (Condition.pathOf file) with
    | .error fault =>
      let line := "ls: cannot access '" ++ name ++ "': " ++ wording fault ++ "\n"
      { l with code := 2, complaint := l.complaint ++ Octets.ofText line }
    | .ok (_, .file _ _) => { l with output := l.output ++ file ++ ['\n'] }
    | .ok (place, .directory) =>
      let head :=
        if many then (if l.output.isEmpty then [] else ['\n']) ++ file ++ [':', '\n'] else []
      let names := (namesIn s.tree place).filter shown
      { l with output := l.output ++ head ++ unlines (names.map Octets.ofText) })
    { tree := s.tree }

/-- **tee**: the input, written to files too. -/
def tee (s : Start) : Left :=
  let (options, files) := split s.arguments
  let l := changeEach s (fun file fault => "tee: " ++ file ++ ": " ++ wording fault)
    (fun t p =>
      let old := if has options 'a' then ((t.readBytes s.cwd p).toOption.map Octets.ofBytes).getD []
        else []
      t.writeBytes s.cwd p (Octets.toBytes (old ++ s.input)) false false) files
  { l with output := s.input, tookInput := true }

/-- How much of an endless output is written, in octets: whoever reads it stops before. -/
def endlessLength : Nat := 0x40000

/-- **yes**: one line over and over. -/
def yes (s : Start) : Left :=
  let line := if s.arguments.isEmpty then "y\n".toList else [' '].intercalate s.arguments ++ ['\n']
  wrote s (List.replicate (endlessLength / line.length) line).flatten

/-- **test**: whether a condition holds. -/
def truth (s : Start) (arguments : List Octets) : Left :=
  match Condition.verdict s.tree s.cwd arguments with
  | .ok v => { tree := s.tree, code := if v then 0 else 1 }
  | .error text => failed s 2 ("test: " ++ Octets.toText text)

/-- The tools by their names. -/
def all : List (String × (Start → Left)) :=
  [("true", fun s => wrote s []),
   ("false", fun s => { tree := s.tree, code := 1 }),
   ("cat", cat), ("head", head), ("tail", tail), ("wc", wc), ("tr", tr), ("cut", cut),
   ("sort", sort), ("uniq", uniq), ("rev", rev), ("tac", tac), ("grep", grep), ("sed", sed),
   ("expr", expr), ("seq", seq), ("basename", basename), ("dirname", dirname), ("pwd", pwd),
   ("printenv", printenv), ("mkdir", mkdir), ("touch", touch), ("rm", rm), ("rmdir", rmdir),
   ("cp", cp), ("mv", mv), ("chmod", chmod), ("ls", ls), ("tee", tee),
   ("yes", yes),
   ("sleep", fun s => wrote s []),
   ("uname", fun s => wrote s "Linux\n".toList),
   ("test", fun s => truth s s.arguments),
   ("[", fun s =>
     if s.arguments.getLast? = some [']'] then truth s s.arguments.dropLast
     else failed s 2 "[: missing ']'"),
   ("echo", fun s => wrote s (echoText s.arguments)),
   ("printf", fun s =>
     match s.arguments with
     | format :: arguments => wrote s (formatted format arguments).text
     | [] => failed s 1 "printf: missing operand")]

end Tool

end GeoBench.Shell
