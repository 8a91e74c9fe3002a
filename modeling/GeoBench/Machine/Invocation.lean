import GeoBench.Machine.Fault
import GeoBench.Machine.Path
import GeoBench.Number.Integer
import GeoBench.Text.Blank

/-!
# Invocations of external programs

The manager drives every tool through an invocation: a program, its arguments, additions to its
environment and the directory it runs in. An invocation has a rendered line for logs, and a call
that fails has a fault with a wording.

## What is told of a failure

A call can fail before the program runs, by the way in which it stops, or by what it wrote. Each
fault names the program or the whole line, so that it can be told without the call at hand. What a
program that failed wrote to its standard error is told as well, if there is anything to tell.

## Main results

* `WaitStatus.code?_exited` — the code that is told of a program that exited.
* `WaitStatus.code?_signalled` — of a program that a signal ended, none is told.
-/

namespace GeoBench.Machine

open GeoBench.Text GeoBench.Number

/-- A fully described call of an external **program**. -/
structure Invocation where
  program : String
  arguments : List String := []
  environment : List (String × String) := []
  directory? : Option Path := none
  deriving DecidableEq, Repr, Inhabited

namespace Invocation

/-- An argument on a line: between single quotes if it holds a blank. -/
def renderArgument (argument : String) : String :=
  if argument.toList.any isBlank then "'" ++ argument ++ "'" else argument

/-- The **line** of an invocation: the additions to the environment, the program and the arguments,
separated by spaces. The directory is not shown. -/
def line (i : Invocation) : String :=
  String.join (i.environment.map fun (key, value) => key ++ "=" ++ value ++ " ") ++ i.program ++
    String.join (i.arguments.map fun a => " " ++ renderArgument a)

end Invocation

/-- How a call is made: for its output, or in the foreground. -/
inductive Mode where
  | output
  | run
  deriving DecidableEq, Repr

/-- The **status** of a program that stopped, as the system reports it in 32 bits. -/
structure WaitStatus where
  raw : Int
  deriving DecidableEq, Repr

namespace WaitStatus

/-- The 32 bits of a status. -/
def word (s : WaitStatus) : Nat := (s.raw % 0x100000000).toNat

/-- The names of the signals, from the first. -/
def signalNames : List String :=
  ["HUP", "INT", "QUIT", "ILL", "TRAP", "ABRT", "BUS", "FPE", "KILL", "USR1", "SEGV", "USR2",
   "PIPE", "ALRM", "TERM", "STKFLT", "CHLD", "CONT", "STOP", "TSTP", "TTIN", "TTOU", "URG", "XCPU",
   "XFSZ", "VTALRM", "PROF", "WINCH", "IO", "PWR", "SYS"]

/-- A signal by number, with its name if it has one. -/
def signalText (signal : Nat) : String :=
  toString signal ++
    match signal, signalNames[signal - 1]? with
    | 0, _ => ""
    | _, some name => " (SIG" ++ name ++ ")"
    | _, none => ""

/-- The status of a program that exited with a code. -/
def exited (code : Nat) : WaitStatus := ⟨(code % 256 * 256 : Nat)⟩

/-- The status of a program that a signal ended. -/
def signalled (signal : Nat) : WaitStatus := ⟨(signal % 128 : Nat)⟩

/-- The exit code, if the program exited. -/
def code? (s : WaitStatus) : Option Nat :=
  if s.word % 128 = 0 then some (s.word / 256 % 256) else none

/-- The wording of a status. -/
def message (s : WaitStatus) : String :=
  let w := s.word
  let signal := w % 128
  if signal = 0 then "exit status: " ++ toString (w / 256 % 256)
  else if signal ≠ 127 then
    "signal: " ++ signalText signal ++ (if w / 128 % 2 = 1 then " (core dumped)" else "")
  else if w % 256 = 127 then
    "stopped (not terminated) by signal: " ++ signalText (w / 256 % 256)
  else if w = 0xFFFF then "continued (WIFCONTINUED)"
  else "unrecognised wait status: " ++ toString s.raw ++ " 0x" ++ String.ofList (Nat.toDigits 16 w)

/-- Of the code of a program that **exited**, the last eight bits are told. -/
theorem code?_exited (code : Nat) : (exited code).code? = some (code % 256) := by
  have hword : (exited code).word = code % 256 * 256 := by
    simp only [exited, word]
    omega
  have hsignal : (exited code).word % 128 = 0 := by omega
  have hcode : (exited code).word / 256 % 256 = code % 256 := by omega
  rw [code?, if_pos hsignal, hcode]

/-- Of a program that a **signal** ended, no code is told. -/
theorem code?_signalled {signal : Nat} (h : signal % 128 ≠ 0) :
    (signalled signal).code? = none := by
  have hword : (signalled signal).word = signal % 128 := by
    simp only [signalled, word]
    omega
  rw [code?, if_neg (by rw [hword]; omega)]

end WaitStatus

/-- A call that **failed**: the program could not be started, it stopped with another status than
success, or what it wrote is no text. -/
inductive CallFault where
  | notStarted (program : String) (fault : Fault)
  | failed (line : String) (status : WaitStatus) (complaint : String)
  | notText (program : String)
  deriving DecidableEq, Repr

namespace CallFault

/-- What a failed program wrote to its standard error, without the blanks around it; nothing if
there is no more than blanks. -/
def complaintText (complaint : String) : String :=
  let text := trim complaint
  if text = "" then "" else ": " ++ text

/-- The wording of a failed call. -/
def message : CallFault → String
  | notStarted program fault => "failed to spawn '" ++ program ++ "': " ++ fault.message
  | failed line status complaint =>
    "'" ++ line ++ "' exited with " ++ status.message ++ complaintText complaint
  | notText program => "'" ++ program ++ "' produced non UTF-8 output"

/-- The wordings of a failed call and of what caused it. -/
def chain : CallFault → List String
  | notStarted program fault => [message (notStarted program fault), fault.message]
  | other => [message other]

end CallFault

end GeoBench.Machine
