import GeoBench.Proofs.Machine.Console
import GeoBench.Shell.Process

/-!
# Calls that are worked out

What a session can rely on when its calls are worked out as processes. Three things are asked of a
runner by the statements about commands: that a call for an output has it captured, that it is told
when a call succeeded, and that a call that came to nothing changed nothing. All of them are
properties of the runner and not of what the programs do, so they hold whatever scripts are in the
file tree.

## Main results

* `captures_processes` — nothing is printed by a call for an output.
* `reply_processes_run_iff` — a call in the foreground succeeds exactly if its program exits with
  zero.
* `processes_of_not_started` — a call that cannot be started leaves the tree as it is.
-/

namespace GeoBench.Shell

open GeoBench.Machine

variable {σ : Type} {around : Surroundings} {mode : Mode} {i : Invocation} {state : σ} {tree : Tree}

/-- **The output of a call is captured**: only its line is logged meanwhile. -/
theorem captures_processes : (processes : Runner σ).Captures := by
  intro s i state t u hu
  have hline : u = .logged .debug (callLine .output i) := by
    simp only [processes] at hu
    split at hu <;> exact List.mem_singleton.mp hu
  rw [hline]
  rfl

/-- A call that **cannot be started** is told to be one, and leaves the tree as it is. -/
theorem processes_of_not_started {fault : Fault}
    (h : startProcess around i tree = .error fault) :
    (processes.call around mode i state tree).reply = .error (.notStarted i.program fault) ∧
      (processes.call around mode i state tree).tree = tree := by
  simp only [processes, h, and_self]

/-- No call with a character that no argument may hold is started. -/
theorem startProcess_of_holdsNul (h : holdsNul i.program) :
    startProcess around i tree = .error .nulInArgument := by
  simp [startProcess, h, throw, throwThe, MonadExceptOf.throw, bind, Except.bind]

/-- **A call in the foreground succeeds** exactly if its program was run and exited with zero. -/
theorem reply_processes_run_iff :
    (∃ text, (processes.call around .run i state tree).reply = .ok text) ↔
      ∃ f, startProcess around i tree = .ok f ∧ f.status.code? = some 0 := by
  cases hstart : startProcess around i tree with
  | error fault => simp [processes, hstart]
  | ok f =>
      by_cases hcode : f.status.code? = some 0
      · simp [processes, hstart, replyOf, hcode]
      · simp [processes, hstart, replyOf, hcode]

end GeoBench.Shell
