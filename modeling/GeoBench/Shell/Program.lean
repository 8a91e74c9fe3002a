import GeoBench.Shell.Tool

/-!
# Programs

What a path names when it is to be executed: a tool, the shell, or a script, which its first line
hands to one of these. A name without a slash is looked for in the directories of the search path,
and the first program of that name is taken.

## Main results

* `Program.search_append` — directories without the program are passed over.
* `Program.search_eq_ok` — the first directory with the program decides.
-/

namespace GeoBench.Shell

open GeoBench.Machine

/-- A **program** as it can be executed. -/
inductive Program where
  /-- A tool, with the arguments that come before its own. -/
  | tool (run : Start → Left) (before : List Octets)
  /-- The shell, with the arguments that come before its own. -/
  | shell (before : List Octets)
  /-- The tool that runs another program in a changed environment. -/
  | environment (before : List Octets)

namespace Program

/-- Where the tools are. -/
def toolDirectories : List String :=
  ["/bin", "/usr/bin"]

/-- The names of the shell. -/
def shellNames : List String :=
  ["sh", "dash", "bash"]

/-- The tool with a name. -/
def named? (name : String) : Option Program :=
  if shellNames.contains name then some (.shell [])
  else if name = "env" then some (.environment [])
  else (Tool.all.lookup name).map fun run => .tool run []

/-- The program that lies in the directories for tools. -/
def installed? (path : String) : Option Program :=
  toolDirectories.findSome? fun d =>
    if path.startsWith (d ++ "/") then named? (path.drop (d.length + 1)).toString else none

/-- What the first line of a script says: the program that it is for, and one argument. -/
def interpreterLine? (text : Octets) : Option (Octets × Option Octets) :=
  match text with
  | '#' :: '!' :: rest =>
    let gap (c : Char) : Bool := c == ' ' || c == '\t'
    let line := (rest.takeWhile (· != '\n')).dropWhile gap
    let name := line.takeWhile fun c => !gap c
    let more := ((line.drop name.length).dropWhile gap).reverse.dropWhile gap
    some (name, if more.isEmpty then none else some more.reverse)
  | _ => none

/-- A program with arguments put before its own. -/
def withArguments (as : List Octets) : Program → Program
  | tool run before => .tool run (before ++ as)
  | shell before => .shell (before ++ as)
  | environment before => .environment (before ++ as)

/-- The program at a **path**. A file that may not be executed is refused, and one whose first line
names no program is none. -/
def atPath (t : Tree) (cwd : Place) (path : Octets) : Except Fault Program :=
  let name := Octets.toText path
  match installed? name with
  | some p => .ok p
  | none => do
    match ← t.find cwd ⟨name⟩ with
    | (_, .directory) => .error .notPermitted
    | (_, .file content executable) =>
      if !executable then .error .notPermitted
      else match interpreterLine? (Octets.ofBytes content) with
        | none => .error .notAProgram
        | some (interpreter, argument?) =>
          match installed? (Octets.toText interpreter) with
          | some p => .ok (p.withArguments (argument?.toList ++ [path]))
          | none =>
            match t.find cwd ⟨Octets.toText interpreter⟩ with
            | .error fault => .error fault
            | .ok _ => .error .notPermitted

/-- The program with a name in one of some directories. A directory without it is passed over; one
in which it may not be executed is remembered. -/
def search (t : Tree) (cwd : Place) (name : Octets) (refusal : Fault) :
    List Octets → Except Fault Program
  | [] => .error refusal
  | d :: ds =>
    let path := if d.isEmpty then name else d ++ '/' :: name
    match atPath t cwd path with
    | .ok p => .ok p
    | .error fault =>
      if fault = .notFound || fault = .notADirectory then search t cwd name refusal ds
      else if fault = .notPermitted then search t cwd name fault ds
      else .error fault

section

variable {t : Tree} {cwd : Place} {name : Octets} {refusal : Fault} {before : List Octets}

/-- Directories **without the program** are passed over, by induction on them. -/
theorem search_append
    (h : ∀ d ∈ before, atPath t cwd (if d.isEmpty then name else d ++ '/' :: name) =
      .error .notFound) (ds : List Octets) :
    search t cwd name refusal (before ++ ds) = search t cwd name refusal ds := by
  induction before with
  | nil => rfl
  | cons d before ih =>
      rw [List.cons_append, search]
      simp only [h d List.mem_cons_self]
      exact ih fun e he => h e (List.mem_cons_of_mem _ he)

/-- **The first directory** with the program decides, whatever is behind it. -/
theorem search_eq_ok {d : Octets} {p : Program}
    (h : ∀ d ∈ before, atPath t cwd (if d.isEmpty then name else d ++ '/' :: name) =
      .error .notFound)
    (hd : atPath t cwd (if d.isEmpty then name else d ++ '/' :: name) = .ok p) (ds : List Octets) :
    search t cwd name refusal (before ++ d :: ds) = .ok p := by
  rw [search_append h, search]
  simp only [hd]

end

/-- The directories of a search path. -/
def directories (path? : Option Octets) : List Octets :=
  (path?.getD "/bin:/usr/bin".toList).splitOn ':'

/-- The program that a name stands for. -/
def find (t : Tree) (cwd : Place) (path? : Option Octets) (name : Octets) :
    Except Fault Program :=
  if name.isEmpty then .error .notFound
  else if name.contains '/' then atPath t cwd name
  else search t cwd name .notFound (directories path?)

end Program

end GeoBench.Shell
