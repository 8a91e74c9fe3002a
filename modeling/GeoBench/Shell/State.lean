import GeoBench.Shell.Program
import GeoBench.Shell.Script

/-!
# The state of a shell

What a shell remembers while it runs a script: its variables and functions, its working directory,
the file tree, the input that is left, and what was written so far, by the buffers that its
descriptors lead to.

## Output

Descriptors lead to buffers, to files or nowhere, and a buffer keeps what was written to it. Two
descriptors may lead to one buffer, and then their outputs come in the order in which they were
written; a copy of the shell writes to the buffers of the one that it was copied from.

## Main results

* `State.valueOf_assign_self` — a variable has the value that it was given last.
-/

namespace GeoBench.Shell

open GeoBench.Machine

/-- Where a **descriptor** leads. -/
inductive Sink where
  | buffer (number : Nat)
  | file (place : Place)
  | nowhere
  deriving DecidableEq, Repr

/-- A **variable** with its value, and whether programs see it. -/
structure Variable where
  value : Octets
  exported : Bool := false
  deriving Repr

/-- How the normal course of a script is **left**. -/
inductive Turn where
  | leave (loops : Nat)
  | again (loops : Nat)
  | back
  | finish
  | killed (signal : Nat)
  deriving DecidableEq, Repr

/-- The **state** of a shell. -/
structure State where
  name : Octets
  arguments : List Octets
  bindings : List (Octets × Variable)
  functions : List (Octets × Command) := []
  status : Nat := 0
  /-- The status of the last substitution in a command. -/
  substituted? : Option Nat := none
  line : Nat := 1
  cwd : Place
  tree : Tree
  input : Octets
  sinks : List (Nat × Sink)
  /-- What was written to each buffer, the latest first. -/
  buffers : List (Nat × List Octets)
  nextBuffer : Nat
  /-- Whether a failure ends the script. -/
  stopsOnFailure : Bool := false
  /-- Whether an unset variable ends the script. -/
  stopsOnUnset : Bool := false
  /-- Whether each command is told before it is run. -/
  tells : Bool := false
  /-- Whether names are left as they are. -/
  plainNames : Bool := false
  /-- Whether a failure is looked at by the script itself. -/
  guarded : Bool := false
  /-- What is run when the script ends. -/
  lastWords : Octets := []
  /-- The variables that a function has for itself, as they were before. -/
  hidden : List (Octets × Option Variable) := []

namespace State

/-- The number of the process. -/
abbrev pid : Nat := 4242

/-- The value of a variable. -/
def valueOf? (s : State) (name : Octets) : Option Octets :=
  (s.bindings.lookup name).map Variable.value

/-- A variable is given a value; it stays exported if it was. -/
def assign (s : State) (name value : Octets) : State :=
  let exported := ((s.bindings.lookup name).map Variable.exported).getD false
  { s with bindings := (name, ⟨value, exported⟩) :: s.bindings.filter (·.1 != name) }

/-- A variable has the value that it was given last. -/
theorem valueOf_assign_self (s : State) (name value : Octets) :
    (s.assign name value).valueOf? name = some value := by
  simp [assign, valueOf?]

/-- A variable is seen by programs. -/
def exportVariable (s : State) (name : Octets) : State :=
  let value := (s.valueOf? name).getD []
  { s with bindings := (name, ⟨value, true⟩) :: s.bindings.filter (·.1 != name) }

/-- A variable is no longer set. -/
def unset (s : State) (name : Octets) : State :=
  { s with bindings := s.bindings.filter (·.1 != name) }

/-- A variable is as it was before. -/
def restore (s : State) (name : Octets) (was? : Option Variable) : State :=
  let others := s.bindings.filter (·.1 != name)
  { s with bindings := (was?.map fun v => (name, v)).toList ++ others }

/-- What programs see of the variables. -/
def environment (s : State) : List (Octets × Octets) :=
  (s.bindings.filter fun v => v.2.exported).map fun (name, v) => (name, v.value)

/-- The value of a parameter, if it is set. -/
def parameter? (s : State) (name : Octets) : Option Octets :=
  let decimal (n : Nat) : Octets := Nat.toDigits 10 n
  match name with
  | ['?'] => some (decimal s.status)
  | ['#'] => some (decimal s.arguments.length)
  | ['$'] => some (decimal pid)
  | ['0'] => some s.name
  | ['-'] => some ((if s.stopsOnFailure then ['e'] else []) ++ if s.stopsOnUnset then ['u'] else [])
  | ['!'] => none
  | ['@'] | ['*'] => if s.arguments.isEmpty then none else some ([' '].intercalate s.arguments)
  | c :: _ =>
    if c.isDigit then s.arguments[Tool.natOf name - 1]? else s.valueOf? name
  | [] => none

/-! ### Writing -/

/-- Octets at the end of a file. -/
def appendTo (t : Tree) (place : Place) (cs : Octets) : Tree :=
  match t.node? place with
  | some (.file content executable) => t.put place (.file (content ++ Octets.toBytes cs) executable)
  | _ => t.put place (.file (Octets.toBytes cs) false)

/-- Octets are **written** to a descriptor. -/
def write (s : State) (descriptor : Nat) (cs : Octets) : State :=
  if cs.isEmpty then s
  else match s.sinks.lookup descriptor with
    | some (.buffer n) =>
      let old := (s.buffers.lookup n).getD []
      { s with buffers := (n, cs :: old) :: s.buffers.filter (·.1 != n) }
    | some (.file place) => { s with tree := appendTo s.tree place cs }
    | some .nowhere | none => s

/-- What was written to a buffer. -/
def written (s : State) (buffer : Nat) : Octets :=
  ((s.buffers.lookup buffer).getD []).reverse.flatten

/-- A descriptor leads somewhere else. -/
def direct (s : State) (descriptor : Nat) (sink : Sink) : State :=
  { s with sinks := (descriptor, sink) :: s.sinks.filter (·.1 != descriptor) }

/-- A remark on standard error, with the name of the shell and the line. -/
def remark (s : State) (text : Octets) : State :=
  s.write 2 (s.name ++ Octets.ofText (": " ++ toString s.line ++ ": ") ++ text ++ ['\n'])

/-- The wording of a fault as the shell gives it when a file cannot be used. -/
def fileWording (making : Bool) (fault : Fault) : String :=
  if fault = .notFound || fault = .notADirectory then
    if making then "Directory nonexistent" else "No such file"
  else Tool.wording fault

/-- The wording of a fault as the shell gives it when a program cannot be run. -/
def programWording (fault : Fault) : String :=
  if fault = .notFound || fault = .notADirectory then "not found" else Tool.wording fault

end State

end GeoBench.Shell
