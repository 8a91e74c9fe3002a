import GeoBench.Machine.World
import GeoBench.Text.Search

/-!
# Runners and pacers

The runners that answer without running anything: a **scripted** one with prepared replies, and one
for **dry runs** that only logs what it would have run. The pacers: one that says nothing of its
waits, and one that logs a countdown.

A dry run goes on as if every call had succeeded and told nothing. Whoever relies on what a call
tells, or on what it leaves behind, has to look at the configuration first.
-/

namespace GeoBench.Machine

/-- A prepared answer to a call. -/
inductive Reply where
  | output (text : String)
  | stopped (status : WaitStatus) (complaint : String)
  | notStarted (number : Nat)
  | notText
  deriving DecidableEq, Repr

/-- What a prepared answer means for a call with a given line and program. -/
def Reply.toResult (line program : String) : Reply → Except CallFault String
  | output text => .ok text
  | stopped status complaint => .error (.failed line status complaint)
  | notStarted number => .error (.notStarted program (.numbered number))
  | notText => .error (.notText program)

/-- A part of a script: the replies to the calls whose line holds a given text. -/
structure Cue where
  needle : String
  replies : List Reply
  deriving Repr

/-- The next reply to a line, and what is left of the script: the first cue for the line answers;
its replies are used in order and the last one stays. -/
def nextReply (line : String) : List Cue → Option Reply × List Cue
  | [] => (none, [])
  | cue :: cues =>
    if Text.contains line cue.needle then
      match cue.replies with
      | [] => (none, cue :: cues)
      | [last] => (some last, cue :: cues)
      | first :: others => (some first, ⟨cue.needle, others⟩ :: cues)
    else
      let (reply?, rest) := nextReply line cues
      (reply?, cue :: rest)

/-- The runner that follows a **script**; a call without a cue gives an empty output. -/
def scripted : Runner (List Cue) where
  call _ _ i script tree :=
    let (reply?, rest) := nextReply i.line script
    { reply := (reply?.getD (.output "")).toResult i.line i.program
      state := rest, tree, meanwhile := [] }

/-- The runner of **dry runs**: every call is logged and gives an empty output. -/
def dryRun {σ : Type} : Runner σ where
  call _ _ i state tree :=
    { reply := .ok "", state, tree, meanwhile := [.logged .info ("[dry-run] " ++ i.line)] }

/-- The pacer that says nothing of its waits. -/
def silentPacer : Pacer where
  announce _ _ := []

/-- What is logged when a wait or a long call begins. -/
def countdownLine (seconds : Nat) (message : String) : String :=
  message ++ " for " ++ toString seconds ++ " seconds..."

/-- The pacer that logs a **countdown**. -/
def countdownPacer : Pacer where
  announce seconds message := [.logged .info (countdownLine seconds message)]

end GeoBench.Machine
