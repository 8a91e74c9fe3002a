import GeoBench.CheckTable
import GeoBench.Machine.Clock
import GeoBench.Manager
import GeoBench.Shell.Process
import Std.Time.DateTime

/-!
# The command line

The outermost layer. It takes in the files that a run can ask for, carries the run out on them,
shows what happened, and puts back the files that have changed. The first argument `check_metrics`
asks for the program that checks a table; all else is for the manager.

## What is outside

A run is computed as a whole before any of it is shown. Its calls are worked out on the files that
were taken in, so nothing outside takes part in it, and the waits of a run only set the pace at
which it is shown afterwards: the texts come out in their order, with the pauses between them. A
manager that drives programs outside would have to wait while it polls.

Files are taken in through their links, and the run sees none. Faults of the file system that depend
on the disk do not occur in it either; both are possible in a `GeoBench.Machine.World`, where the
statements about commands say which of them matter.
-/

namespace GeoBench.Main

open GeoBench.Machine

/-- The files and directories under the base directory that a run can ask for. -/
def inputs : List String :=
  [Cloud.profileFile, Cloud.credentialsFile, "deploy/weaver/weaver-template-eu.toml",
   "deploy/weaver/weaver-template-us.toml", "deploy/ansible/vars.yml",
   "deploy/ansible/ansible.cfg", "wrk2/wrk", "deploy/tmp", "evaluation"]

/-- What is at a path on this computer. -/
def look (path : String) : IO (Option Node) := do
  match ← (IO.FS.readBinFile path).toBaseIO with
  | .ok content => return some (.file content false)
  | .error _ =>
    match ← (IO.FS.realPath path).toBaseIO with
    | .ok _ => return some .directory
    | .error _ => return none

/-- A tree with what is at a path, and with the directories above it. -/
def takeIn (cwd : Place) (t : Tree) (path : String) : IO Tree := do
  let p : Path := ⟨path⟩
  match ← look path with
  | none => return t
  | some .directory => return (t.makeAll cwd p).tree
  | some (.file content executable) =>
    let t := match p.parent? with
      | some parent => (t.makeAll cwd parent).tree
      | none => t
    return (t.writeBytes cwd p content executable true).toOption.getD t

/-- The surroundings of the run. -/
def surroundings : IO Surroundings := do
  let named (name : String) : IO (List (String × String)) := do
    return ((← IO.getEnv name).map fun value => (name, value)).toList
  let cwd := ((← IO.getEnv "PWD").getD "").splitOn "/" |>.filter (· ≠ "")
  let now ← Std.Time.Timestamp.now
  return {
    cwd := cwd.reverse
    environment := (← named "HOME") ++ (← named "PATH")
    clock := Clock.stamp now.toSecondsSinceUnixEpoch.val.toNat }

/-- The **world** that a run begins in, with the files at some paths. -/
def worldWith (paths : List String) : IO (World Unit) := do
  let around ← surroundings
  let root : Tree := (Tree.makeAll ⟨[]⟩ [] (placePath around.cwd)).tree
  let tree ← (paths ++ around.home?.toList).foldlM (takeIn around.cwd) root
  return { around, tree, runnerState := (), past := [] }

/-- The changes between two trees are made on this computer: what is gone first, and then what is
new, a directory before what it holds. -/
def putBack (before after : Tree) : IO Unit := do
  for (place, node) in before.entries do
    if (after.node? place).isNone then
      let path := (placePath place).text
      if node.isDirectory then
        if ← (IO.FS.realPath path).toBaseIO <&> Except.isOk then IO.FS.removeDirAll path
      else (IO.FS.removeFile path).toBaseIO *> pure ()
  for (place, node) in after.entries.mergeSort fun a b => a.1.length ≤ b.1.length do
    unless (before.node? place).any node.agrees do
      let path := (placePath place).text
      match node with
      | .directory => IO.FS.createDirAll path
      | .file content _ => IO.FS.writeBinFile path content

/-- What happened is **shown**, with a pause where the run had waited. -/
def replay (least : Level) (events : List Event) : IO Unit := do
  for event in events do
    IO.print (event.written least .output)
    IO.eprint (event.written least .complaint)
    match event with
    | .waited seconds _ => IO.sleep (1000 * seconds).toUInt32
    | _ => pure ()

/-- A run of the manager. -/
def manage (arguments : List String) : IO UInt32 := do
  match CommandLine.read arguments with
  | .error refusal =>
    let text := if refusal = .version then CommandLine.versionLine else CommandLine.usageLine
    if refusal.exitCode = 0 then IO.print text else IO.eprint text
    return refusal.exitCode.toUInt32
  | .ok a =>
    let base : Path := a.options.baseDir?.getD ⟨"."⟩
    let world ← worldWith (inputs.map fun steps => (base.sub steps).text)
    let (code, after) := Manager.runToExit Shell.processes countdownPacer a world
    replay a.options.leastLevel after.events
    putBack world.tree after.tree
    return code.toUInt32

/-- A check of a table. -/
def checkTable (name : String) (arguments : List String) : IO UInt32 := do
  let (code, after) := CheckTable.program name arguments (← worldWith (arguments.drop 1))
  replay .error after.events
  return code.toUInt32

end GeoBench.Main

/-- The **programs**: the manager, and the one that checks a table. -/
def main (arguments : List String) : IO UInt32 :=
  match arguments with
  | "check_metrics" :: rest => GeoBench.Main.checkTable "check_metrics" rest
  | _ => GeoBench.Main.manage arguments
