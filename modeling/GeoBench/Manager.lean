import GeoBench.CommandLine
import GeoBench.Registry
import GeoBench.Machine.Runner
import GeoBench.Text.Quoted

/-!
# The manager as a program

One run of the manager, from the arguments of its command line to its exit code: the command line is
read, the configuration is made, a command that the target does not support is refused, and then the
command is carried out between two lines of the log. A run that fails ends with one line that tells
the fault and its causes.

What a run writes is decided here too: which of its events reach a stream, and as what text.

## The end of a run

A run ends with success or with a fault, and the fault has a message with its causes. A command line
that is not followed ends the program before the log is opened, with a text and an exit code of its
own (`Ending`); all other faults are told in the log and give the same exit code.

## Main results

* `Events.text_append` — the text on a stream grows with the events.
* `run_refused` — a configuration that cannot be made is the fault of the run.
-/

namespace GeoBench

open GeoBench.Machine GeoBench.Deployment

/-! ### Output -/

/-- A **stream** that a program writes to. -/
inductive Stream where
  | output
  | complaint
  deriving DecidableEq, Repr

namespace Machine

namespace Level

/-- How much a level matters, from the least. -/
def rank : Level → Nat
  | debug => 0
  | info => 1
  | warn => 2
  | error => 3

/-- The name of a level in the log, padded to five characters. -/
def label : Level → String
  | debug => "DEBUG"
  | info => " INFO"
  | warn => " WARN"
  | error => "ERROR"

end Level

/-- What an event writes to a stream, when lines below a level are not logged. The log goes to
standard output. -/
def Event.written (least : Level) (stream : Stream) : Event → String
  | .logged level message =>
    if stream = .output ∧ least.rank ≤ level.rank then
      level.label ++ " " ++ Text.spellLog message ++ "\n"
    else ""
  | .printed text => if stream = .output then text else ""
  | .complained text => if stream = .complaint then text else ""
  | .called _ | .waited _ _ => ""

end Machine

/-- The text that events write to a stream. -/
def Events.text (least : Level) (stream : Stream) (events : List Event) : String :=
  String.join (events.map (Event.written least stream))

/-- The text on a stream grows with the events. -/
theorem Events.text_append (least : Level) (stream : Stream) (es fs : List Event) :
    Events.text least stream (es ++ fs) =
      Events.text least stream es ++ Events.text least stream fs := by
  have join_append : ∀ xs ys : List String,
      String.join (xs ++ ys) = String.join xs ++ String.join ys := by
    intro xs ys
    rw [← String.toList_inj]
    simp [String.toList_join]
  rw [Events.text, List.map_append, join_append]
  rfl

/-! ### Runs -/

/-- Why a run **fails**. -/
inductive RunFault where
  | configuration (cause : ConfigFault)
  | unsupported (cause : ConfigFault)
  | command (cause : CommandFault)
  deriving DecidableEq, Repr

namespace RunFault

/-- The wordings of a fault and of what caused it. -/
def chain : RunFault → List String
  | configuration cause => "Configuration error" :: cause.chain
  | unsupported cause => cause.chain
  | command cause => cause.chain

/-- The wording of a failed run: all of its causes on one line. -/
def message (f : RunFault) : String :=
  "Error: " ++ String.intercalate ": " f.chain

end RunFault

namespace CommandLine

/-- The least level that is logged. To be quiet counts more than to be verbose. -/
def Options.leastLevel (o : Options) : Level :=
  if o.quiet then .error else if o.verbose then .debug else .info

end CommandLine

namespace Manager

open GeoBench.CommandLine

section

variable {σ : Type}

/-- The line that a command begins with. -/
def banner (verb : Verb) : String :=
  "----- " ++ String.ofList (verb.name.toList.map Char.toUpper) ++ " -----"

/-- A command is **carried out** in a context, between its banner and a last line. Its pair with the
target has to be supported before the banner is shown. -/
def perform (ctx : Context σ) (command : Command) : Session σ RunFault Unit := do
  let _ ← Session.withFault .unsupported
    (Session.ofExcept (Registry.standard.resolve ctx.config.site command.verb))
  Session.info (banner command.verb)
  Session.withFault .command (Registry.standard.dispatch ctx command)
  Session.info "done!"

/-- A **run** of the manager. Calls of a dry run are only told of. -/
def run (runner : Runner σ) (pacer : Pacer) (arguments : Arguments) : Session σ RunFault Unit := do
  let config ← Session.withFault .configuration arguments.options.configure
  Session.debug ("base dir: " ++ config.baseDir.text)
  perform ⟨config, if config.dryRun then dryRun else runner, pacer⟩ arguments.command

/-- A run whose fault is told in the log. The result is the exit code. -/
def runToExit (runner : Runner σ) (pacer : Pacer) (arguments : Arguments) (w : World σ) :
    Nat × World σ :=
  match (run runner pacer arguments).run w with
  | (.ok _, w) => (0, w)
  | (.error fault, w) => (1, { w with past := .logged .error fault.message :: w.past })

/-- A configuration that cannot be made is the fault of the run. -/
theorem run_refused {runner : Runner σ} {pacer : Pacer} {arguments : Arguments} {w w' : World σ}
    {fault : ConfigFault} (h : arguments.options.configure.run w = (.error fault, w')) :
    (run runner pacer arguments).run w = (.error (.configuration fault), w') := by
  rw [run]
  refine Session.run_bind_of_error ?_ _
  rw [Session.run_withFault, h]
  rfl

end

/-- How a run of the program **ended**. -/
structure Ending (σ : Type) where
  code : Nat
  /-- The least level that was logged. -/
  least : Level
  world : World σ

/-- The text on a stream after a run. -/
def Ending.text {σ : Type} (e : Ending σ) (stream : Stream) : String :=
  Events.text e.least stream e.world.events

/-- The **program**, from its arguments on. A command line that is not followed ends it before
anything happens. -/
def program {σ : Type} (runner : Runner σ) (pacer : Pacer) (arguments : List String) (w : World σ) :
    Except Refusal (Ending σ) := do
  let a ← CommandLine.read arguments
  let (code, w) := runToExit runner pacer a w
  return { code, least := a.options.leastLevel, world := w }

end Manager

end GeoBench
