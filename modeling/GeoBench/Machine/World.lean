import GeoBench.Machine.Invocation
import GeoBench.Machine.Links

/-!
# The world a command runs in

A session of the manager reads and changes a **world**: the file tree with its links, the state of
whatever answers its calls, and the record of everything that happened so far. What the surroundings
say (working directory, home directory, clock) stays as it is during a session.

Calls are answered by a **runner**, which sees the file tree and may change it, and waits are
announced by a **pacer**; nothing else in a session reaches the outside. Both may let texts come
out, but what was called and waited for is recorded by the session alone.

## Writes that fall short

A file is written in two steps: it is opened, which empties it, and then its bytes are put into it
one stretch after the other. If the file cannot be opened, nothing has changed. If the disk gives up
later, the file is left with the first of its bytes, or with none. How much is written is not for
the session to decide, so a world comes with what becomes of its writes: the first entry of
`World.shortfalls` tells of the next one, and a world without entries writes everything whole.

## Assumptions with names

What is said of files is said wherever links lead, but for three things, each of which is a
hypothesis with a name wherever it is needed:

* `World.LinkFree` — the file system has no symbolic links. Statements about the places of files,
  below which directory they are or which time stamps share one, are about worlds of this kind:
  where a path leads is then told by the path alone.
* `World.KeepsApart` — some paths have no arrival in common. Statements about files that are written
  one after the other suppose that these are different files.
* `World.WritesWhole` — no write falls short. Statements about files that are written whole or not
  at all suppose this of the write that failed.

A session makes no link, and a runner is shown the tree only, so a world without links stays
without, and paths that are kept apart stay apart.

## Main results

* `Session.run_withFault` — only a failure is seen as another one.
* `Session.run_bind_of_error` — nothing follows a part that failed.
* `Session.events_perform` — a call adds to the record and takes nothing away.
-/

namespace GeoBench.Machine

/-- How much a log line matters. -/
inductive Level where
  | debug
  | info
  | warn
  | error
  deriving DecidableEq, Repr

/-- A text that **comes out** of a session: a line of its log, or a text on one of its streams. -/
inductive Utterance where
  /-- A line was logged. -/
  | logged (level : Level) (message : String)
  /-- A text was written to standard output. -/
  | printed (text : String)
  /-- A text was written to standard error. -/
  | complained (text : String)
  deriving DecidableEq, Repr

/-- A call that is **over**: how it was made, what came of it, and the file tree that it found and
the one that it left. -/
structure Exchange where
  mode : Mode
  invocation : Invocation
  reply : Except CallFault String
  found : Tree
  left : Tree

/-- Whether a call succeeded. -/
def Exchange.succeeded (x : Exchange) : Prop :=
  ∃ text, x.reply = .ok text

/-- Something that **happened** during a session. -/
inductive Event where
  /-- A program was called, and the call is over. -/
  | called (exchange : Exchange)
  /-- Time was let pass. -/
  | waited (seconds : Nat) (message : String)
  /-- A text came out. -/
  | said (utterance : Utterance)

namespace Event

/-- A line was logged. -/
@[match_pattern] abbrev logged (level : Level) (message : String) : Event :=
  said (.logged level message)

/-- A text was written to standard output. -/
@[match_pattern] abbrev printed (text : String) : Event :=
  said (.printed text)

/-- A text was written to standard error. -/
@[match_pattern] abbrev complained (text : String) : Event :=
  said (.complained text)

/-- The call that an event is, if it is one. -/
def call? : Event → Option Exchange
  | called x => some x
  | _ => none

end Event

/-- The **calls** among some events, in order. -/
def calls (events : List Event) : List Exchange :=
  events.filterMap Event.call?

/-- What stays the same during a session. -/
structure Surroundings where
  /-- The working directory. -/
  cwd : Place
  /-- The variables of the environment. -/
  environment : List (String × String)
  /-- The time stamp that the clock gives. -/
  clock : String

/-- The home directory, if one is named. -/
def Surroundings.home? (s : Surroundings) : Option String :=
  s.environment.lookup "HOME"

/-- A write that **falls short**: how many bytes it puts into the file, and the fault that stops
it. -/
structure Shortfall where
  written : Nat
  fault : Fault
  deriving DecidableEq, Repr

/-- The **world** of a session, with a runner whose state is a `σ`. -/
structure World (σ : Type) where
  around : Surroundings
  tree : Tree
  runnerState : σ
  /-- What happened so far, the latest first. -/
  past : List Event
  /-- The symbolic links beside the tree. -/
  links : Links := []
  /-- What becomes of the next writes, one entry for each. Those behind the last entry are whole. -/
  shortfalls : List (Option Shortfall) := []

namespace World

variable {σ : Type}

/-- What happened so far, in order. -/
def events (w : World σ) : List Event :=
  w.past.reverse

/-- No place is a **link**. -/
def LinkFree (w : World σ) : Prop :=
  w.links = []

/-- No write **falls short**. -/
def WritesWhole (w : World σ) : Prop :=
  ∀ entry ∈ w.shortfalls, entry = none

/-- What stops the next write before all of its bytes are written, if anything does. -/
def shortfall? (w : World σ) (content : ByteArray) : Option Shortfall :=
  (w.shortfalls.head?.join).filter fun s => s.written < content.size

end World

/-- What a runner makes of a call. -/
structure Response (σ : Type) where
  reply : Except CallFault String
  state : σ
  tree : Tree
  /-- What came out meanwhile, in order. -/
  meanwhile : List Utterance

/-- Something that answers **calls**. It is shown the file tree and may change it; the links beside
the tree are not its to see or to make. -/
structure Runner (σ : Type) where
  call : Surroundings → Mode → Invocation → σ → Tree → Response σ

/-- What a **pacer** lets be known when it lets some seconds pass. -/
structure Pacer where
  announce : Nat → String → List Utterance

/-- A part of a session: it may fail with an `ε`, and gives an `α` otherwise. -/
abbrev Session (σ ε α : Type) := ExceptT ε (StateM (World σ)) α

namespace Session

variable {σ ε ε' α : Type}

/-- The same part of a session with its failure seen as another one. -/
def withFault (f : ε → ε') (x : Session σ ε α) : Session σ ε' α :=
  ExceptT.adapt f x

/-- A result that is there already. -/
def ofExcept (x : Except ε α) : Session σ ε α :=
  ExceptT.mk (pure x)

/-- Something happens. -/
def record (e : Event) : Session σ ε Unit :=
  modify fun w => { w with past := e :: w.past }

/-- A line is logged. -/
def log (level : Level) (message : String) : Session σ ε Unit :=
  record (.logged level message)

/-- A line is logged that tells of progress. -/
def info (message : String) : Session σ ε Unit :=
  log .info message

/-- A line is logged that tells of details. -/
def debug (message : String) : Session σ ε Unit :=
  log .debug message

/-- A text and a line feed are written to standard output. -/
def printLine (text : String) : Session σ ε Unit :=
  record (.printed (text ++ "\n"))

/-- What the surroundings say. -/
def around : Session σ ε Surroundings :=
  return (← get).around

/-- A **call** of a program, answered by a runner. It is recorded once it is over, after what came
out meanwhile. -/
def perform (runner : Runner σ) (mode : Mode) (i : Invocation) : Session σ CallFault String :=
  ExceptT.mk fun w =>
    let r := runner.call w.around mode i w.runnerState w.tree
    (r.reply, { w with
      tree := r.tree
      runnerState := r.state
      past := .called ⟨mode, i, r.reply, w.tree, r.tree⟩ ::
        ((r.meanwhile.map .said).reverse ++ w.past) })

/-- Some seconds **pass**. -/
def wait (pacer : Pacer) (seconds : Nat) (message : String) : Session σ ε Unit :=
  modify fun w => { w with
    past := ((pacer.announce seconds message).map .said).reverse ++
      .waited seconds message :: w.past }

/-- A question to the file system. -/
def ask (question : Links → Tree → Place → α) : Session σ ε α := do
  let w ← get
  return question w.links w.tree w.around.cwd

/-- A **change** of the file tree; if it is refused, the tree stays as it is. -/
def change (request : Tree → Place → Except Fault Tree) : Session σ Fault Unit :=
  ExceptT.mk fun w =>
    match request w.tree w.around.cwd with
    | .ok t => (.ok (), { w with tree := t })
    | .error fault => (.error fault, w)

/-- The path that a path leads to, around all links. -/
def reach (p : Path) : Session σ Fault Path := do
  ofExcept (← ask fun links t cwd => links.follow t cwd true p)

/-- Whether a path leads to anything. -/
def existsAt (p : Path) : Session σ ε Bool :=
  ask fun links t cwd => links.existsAt t cwd p

/-- Whether a path leads to a regular file. -/
def isFile (p : Path) : Session σ ε Bool :=
  ask fun links t cwd => links.isFile t cwd p

/-- The text of the file at a path. -/
def readText (p : Path) : Session σ Fault String := do
  ofExcept (← ask fun links t cwd => links.readText t cwd p)

/-- What stops the next write, which then is no longer the next one. -/
def takeShortfall (content : ByteArray) : Session σ ε (Option Shortfall) :=
  modifyGet fun w => (w.shortfall? content, { w with shortfalls := w.shortfalls.tail })

/-- A file is **filled** with bytes: with all of them, or with the first ones and a fault. A request
that is refused leaves the tree as it is. -/
def fill (content : ByteArray) (request : ByteArray → Tree → Place → Except Fault Tree) :
    Session σ Fault Unit := do
  match ← takeShortfall content with
  | none => change (request content)
  | some s =>
    change (request (content.extract 0 s.written))
    throw s.fault

/-- The file at a path is given new bytes, and the permission to be executed that comes with them if
it is new, or if that is forced. -/
def writeBytes (p : Path) (content : ByteArray) (executable force : Bool) :
    Session σ Fault Unit := do
  let q ← reach p
  fill content fun bytes t cwd => t.writeBytes cwd q bytes executable force

/-- The file at a path is given a new text. -/
def writeText (p : Path) (content : String) : Session σ Fault Unit :=
  writeBytes p (Text.encode content) false false

/-- A file is **copied**, with its permission to be executed. -/
def copyFile (source destination : Path) : Session σ Fault Unit := do
  let from_ ← reach source
  let (content, executable) ← ofExcept (← ask fun _ t cwd => t.source cwd from_)
  writeBytes destination content executable true

/-- A directory is made, with every parent that is missing. The parents made before a fault stay. -/
def makeAll (p : Path) : Session σ Fault Unit :=
  ExceptT.mk fun w =>
    let made := w.links.makeAll w.tree w.around.cwd p
    let reply : Except Fault Unit := match made.fault? with
      | none => .ok ()
      | some fault => .error fault
    (reply, { w with tree := made.tree })

/-- The directory at a path is **removed** with all under it, or the link that the path is. -/
def removeDirectory (p : Path) : Session σ Fault Unit :=
  ExceptT.mk fun w =>
    match w.links.removeDirectory w.tree w.around.cwd p with
    | .ok (t, links) => (.ok (), { w with tree := t, links := links })
    | .error fault => (.error fault, w)

/-- Only a failure is seen as another one. -/
theorem run_withFault (f : ε → ε') (x : Session σ ε α) (w : World σ) :
    (withFault f x).run w = ((x.run w).1.mapError f, (x.run w).2) := rfl

/-- Nothing follows a part that failed. -/
theorem run_bind_of_error {β : Type} {x : Session σ ε α} {w w' : World σ} {fault : ε}
    (h : x.run w = (.error fault, w')) (next : α → Session σ ε β) :
    (x >>= next).run w = (.error fault, w') := by
  have unfolded : (x >>= next).run w =
      match x.run w with
      | (.ok a, w) => (next a).run w
      | (.error fault, w) => (.error fault, w) := by
    show (match x.run w with | (r, w) => ExceptT.bindCont next r w) = _
    rcases x.run w with ⟨_ | _, _⟩ <;> rfl
  rw [unfolded, h]

/-- A call adds itself to the record, after what came out meanwhile, and takes nothing away. -/
theorem events_perform (runner : Runner σ) (mode : Mode) (i : Invocation) (w : World σ) :
    ((perform runner mode i).run w).2.events = w.events ++
      ((runner.call w.around mode i w.runnerState w.tree).meanwhile.map .said ++
        [.called ⟨mode, i, ((perform runner mode i).run w).1, w.tree,
          ((perform runner mode i).run w).2.tree⟩]) := by
  simp [World.events, perform, ExceptT.run, ExceptT.mk]

end Session

end GeoBench.Machine
