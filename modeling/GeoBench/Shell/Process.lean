import GeoBench.Machine.World
import GeoBench.Shell.Run

/-!
# Calls as processes

A runner that works out what a call does: the program is found, run to its end in the directory of
the call, and the call has succeeded when the program has exited with zero. A call for its output
keeps what the program writes; a call in the foreground lets it through.

## What is run

Nothing is started outside. The programs are the ones that this library knows, the small tools of
`GeoBench.Shell.Tool` and the scripts that are in the file tree, which are run by the shell of
`GeoBench.Shell.Run`; every other program is one that is not found. That is enough for runs in which
scripts stand in for the programs that the manager drives, and it lets such a run be computed from
the file tree alone. What is proved of commands is proved for every runner, and holds of this one as
of any other.

## Main results

* `processes_call_run` — a call in the foreground gives no output.
-/

namespace GeoBench.Shell

open GeoBench.Machine

/-- Whether a text holds a character that no argument may hold. -/
def holdsNul (text : String) : Bool :=
  text.toList.contains '\x00'

/-- The environment of a process: the one of the session with the additions of the call, the last of
which count. -/
def environmentOf (around : Surroundings) (i : Invocation) : List (Octets × Octets) :=
  let additions := i.environment.reverse
  let kept := around.environment.filter fun v => (additions.lookup v.1).isNone
  (additions.eraseDupsBy (fun a b => a.1 == b.1) ++ kept).map fun (name, value) =>
    (Octets.ofText name, Octets.ofText value)

/-- A call as a **process**, or the fault for which it could not be started. -/
def startProcess (around : Surroundings) (i : Invocation) (tree : Tree) :
    Except Fault Finished := do
  let texts := i.program :: i.arguments ++ i.environment.flatMap (fun (k, v) => [k, v]) ++
    (i.directory?.map Path.text).toList
  if texts.any holdsNul then throw .nulInArgument
  let cwd ← match i.directory? with
    | none => pure around.cwd
    | some directory =>
      match ← tree.find around.cwd directory with
      | (place, .directory) => pure place
      | (_, .file _ _) => throw .notADirectory
  let environment := environmentOf around i
  let name := Octets.ofText i.program
  let program ← Program.find tree cwd (environment.lookup "PATH".toList) name
  return program.finish name
    { arguments := i.arguments.map Octets.ofText, environment, input := [], cwd, tree }

/-- The reply to a call whose process has ended. -/
def replyOf (mode : Mode) (i : Invocation) (f : Finished) : Except CallFault String :=
  if f.status.code? ≠ some 0 then
    let complaint := match mode with
      | .output => Octets.toText f.complaint
      | .run => ""
    .error (.failed i.line f.status complaint)
  else match mode with
    | .run => .ok ""
    | .output =>
      match Text.decode? (Octets.toBytes f.output) with
      | some text => .ok text
      | none => .error (.notText i.program)

/-- What a process in the foreground lets through. -/
def shown (f : Finished) : List Utterance :=
  [.printed (Octets.toText f.output), .complained (Octets.toText f.complaint)]

/-- The line that is logged before a call. -/
def callLine (mode : Mode) (i : Invocation) : String :=
  match mode with
  | .output => "exec: " ++ i.line
  | .run => "exec (fg): " ++ i.line

/-- The runner that works calls out as **processes**. -/
def processes {σ : Type} : Runner σ where
  call around mode i state tree :=
    let told : Utterance := .logged .debug (callLine mode i)
    match startProcess around i tree with
    | .error fault =>
      { reply := .error (.notStarted i.program fault), state, tree, meanwhile := [told] }
    | .ok f =>
      { reply := replyOf mode i f, state, tree := f.tree
        meanwhile := match mode with
          | .output => [told]
          | .run => told :: shown f }

/-- A call in the foreground gives no output. -/
theorem processes_call_run {σ : Type} {around : Surroundings} {i : Invocation} {state : σ}
    {tree : Tree} {text : String}
    (h : (processes.call around .run i state tree).reply = .ok text) : text = "" := by
  simp only [processes] at h
  split at h
  · cases h
  next f _ =>
    simp only [replyOf] at h
    split at h
    · cases h
    · simpa using h.symm

end GeoBench.Shell
