import GeoBench.Command
import GeoBench.Config
import GeoBench.Number.Integer

/-!
# The command line

The arguments of the manager: options, the name of a command, and again options. The options that
say how to run may stand on either side of the name; those of a command stand behind it.

A command line is read in two **scopes**, before and behind the name of the command. In each scope
an option may be given once. The value of an option may be attached to it or be the next argument;
it is looked at only when the next option of the scope, or its end, comes.

## Reasons of a refusal

Arguments are looked at from the left, and the first one that is at fault decides the reason of the
refusal. An option that is repeated, or whose value does not fit, is found only when the option is
set, so a fault of the next argument's own shape comes after it. Help and the version are refusals
too, with another exit code: whoever asks for them is not refused for what comes behind.

## Wording

Which arguments are refused and with which exit code is what is modelled. The texts that explain a
refusal or the usage at length are not; one line stands for them.

## Main results

* `Options.target_eq_ok_iff` — a target is found exactly when one of the two is asked for.
* `Scope.settle_repeated` — an option that was given before is refused.
-/

namespace GeoBench.CommandLine

open GeoBench.Machine GeoBench.Number

/-- Why a command line is **not followed**. Asking for help or for the version is one reason. -/
inductive Refusal where
  | help
  | version
  | helpOnMissing
  | missingCommand
  | unknownCommand
  | unknownArgument
  | unwantedValue
  | badValue
  | repeated
  | badNumber
  deriving DecidableEq, Repr

/-- The exit code of a refusal. -/
def Refusal.exitCode : Refusal → Nat
  | help | version => 0
  | _ => 2

/-- The name and the version of the manager. -/
abbrev versionLine : String := "dsb-manager 0.1.0\n"

/-- The line that tells how the manager is used. -/
abbrev usageLine : String := "Usage: dsb-manager [OPTIONS] <COMMAND>\n"

/-! ### Options -/

/-- An **option** by what it says. -/
inductive Key where
  | localTarget
  | cloudTarget
  | baseDir
  | dryRun
  | budget
  | interval
  | format
  | noProgress
  | quiet
  | verbose
  | threads
  | connections
  | duration
  | rate
  | timestamp
  | help
  | version
  deriving DecidableEq, Repr

/-- What kind of value an option takes. -/
inductive ValueKind where
  | none
  | text
  | path
  | word32
  | word64
  | format
  deriving DecidableEq, Repr

/-- The kind of value of an option. -/
def Key.valueKind : Key → ValueKind
  | .baseDir => .path
  | .budget | .interval | .duration | .rate => .word64
  | .threads | .connections => .word32
  | .format => .format
  | .timestamp => .text
  | _ => .none

/-- Whether an option takes a value. -/
def Key.takesValue (k : Key) : Bool :=
  k.valueKind != .none

/-- The long names of the options that say how to run. -/
def sharedLong : List (String × Key) :=
  [("local", .localTarget), ("gcp", .cloudTarget), ("base-dir", .baseDir), ("dry-run", .dryRun),
   ("readiness-budget", .budget), ("readiness-interval", .interval), ("output-format", .format),
   ("no-progress", .noProgress), ("quiet", .quiet), ("verbose", .verbose), ("help", .help)]

/-- Their short names. -/
def sharedShort : List (Char × Key) :=
  [('q', .quiet), ('v', .verbose), ('h', .help)]

/-- The long names of the options of a command. -/
def commandLong : Verb → List (String × Key)
  | .workload =>
    [("threads", .threads), ("conns", .connections), ("duration", .duration), ("rate", .rate)]
  | .metrics => [("timestamp", .timestamp)]
  | _ => []

/-- Their short names. -/
def commandShort : Verb → List (Char × Key)
  | .workload => [('t', .threads), ('c', .connections), ('d', .duration), ('r', .rate)]
  | .metrics => [('t', .timestamp)]
  | _ => []

/-- The names that are known in a scope: behind the name of a command, or before any. -/
structure Names where
  long : List (String × Key)
  short : List (Char × Key)

/-- The names that are known before the name of a command, or behind it. -/
def Names.of : Option Verb → Names
  | none => ⟨sharedLong ++ [("version", .version)], sharedShort ++ [('V', .version)]⟩
  | some verb => ⟨sharedLong ++ commandLong verb, sharedShort ++ commandShort verb⟩

/-- What an option was **set** to. -/
inductive Setting where
  | on
  | text (s : String)
  | number (n : Nat)
  | format (f : Report.Format)
  deriving DecidableEq, Repr

/-- A value read for an option. -/
def readValue (kind : ValueKind) (s : String) : Except Refusal Setting :=
  match kind with
  | .none => .ok .on
  | .text => .ok (.text s)
  | .path => if s = "" then .error .badValue else .ok (.text s)
  | .word32 =>
    match readSigned 64 10 s.toList with
    | some (.ofNat n) => if n < twoTo 32 then .ok (.number n) else .error .badNumber
    | _ => .error .badNumber
  | .word64 =>
    match readUnsigned 64 10 s.toList with
    | some n => .ok (.number n)
    | none => .error .badNumber
  | .format =>
    if s = "yaml" then .ok (.format .record)
    else if s = "json" then .ok (.format .object)
    else .error .badValue

/-! ### Scopes -/

/-- What was read of a scope so far: the settings, and the last option if it was not looked at yet,
with its value if that came. -/
structure Scope where
  settings : List (Key × Setting) := []
  last? : Option (Key × Option String) := none
  /-- Whether the last option still waits for its value. -/
  awaiting : Bool := false
  /-- Whether the mark came behind which nothing is an option. -/
  closed : Bool := false
  /-- Whether an option was given at all. -/
  used : Bool := false

namespace Scope

/-- An option is **set**: it needs its value, must not be set before, and the value has to fit. -/
def settle (settings : List (Key × Setting)) (k : Key) (value? : Option String) :
    Except Refusal (List (Key × Setting)) :=
  if k.takesValue && value?.isNone then .error .badValue
  else if settings.any fun e => e.1 == k then .error .repeated
  else do
    let setting ← readValue k.valueKind (value?.getD "")
    return (k, setting) :: settings

/-- An option that was given before is refused. -/
theorem settle_repeated {settings : List (Key × Setting)} {k : Key} {s : Setting} {v : String}
    (h : (k, s) ∈ settings) : settle settings k (some v) = .error .repeated := by
  have : settings.any (fun e => e.1 == k) = true := List.any_eq_true.2 ⟨(k, s), h, by simp⟩
  simp [settle, this]

/-- The option that was not looked at yet is set. -/
def settleLast (s : Scope) : Except Refusal Scope :=
  match s.last? with
  | none => .ok s
  | some (k, value?) => do
    let settings ← settle s.settings k value?
    return { s with settings, last? := none }

/-- An option without a value comes. -/
def addFlag (s : Scope) (k : Key) : Except Refusal Scope := do
  let s ← s.settleLast
  match k with
  | .help => .error .help
  | .version => .error .version
  | _ =>
    let settings ← settle s.settings k none
    return { s with settings, awaiting := false, used := true }

/-- An option with its value comes. -/
def addValued (s : Scope) (k : Key) (value : String) : Except Refusal Scope := do
  let s ← s.settleLast
  let settings ← settle s.settings k (some value)
  return { s with settings, awaiting := false, used := true }

/-- An option comes whose value is the next argument. -/
def addAwaiting (s : Scope) (k : Key) : Except Refusal Scope := do
  let s ← s.settleLast
  return { s with last? := some (k, none), awaiting := true, used := true }

/-- The value that the last option waits for. -/
def giveValue (s : Scope) (value : String) : Scope :=
  { s with last? := s.last?.map fun (k, _) => (k, some value), awaiting := false }

/-- A long option, by the characters behind its two dashes. -/
def addLong (s : Scope) (names : Names) (cs : List Char) : Except Refusal Scope :=
  let name := String.ofList (cs.takeWhile (· != '='))
  let attached? : Option String := match cs.dropWhile (· != '=') with
    | _ :: value => some (String.ofList value)
    | [] => none
  match names.long.lookup name with
  | none => .error .unknownArgument
  | some k =>
    match attached? with
    | some value => if k.takesValue then s.addValued k value else .error .unwantedValue
    | none => if k.takesValue then s.addAwaiting k else s.addFlag k

/-- Short options, by the characters behind their dash. The first that takes a value has what is
left as its value, behind an equals sign or not. -/
def addShort (s : Scope) (names : Names) : List Char → Except Refusal Scope
  | [] => .ok s
  | c :: cs =>
    match names.short.lookup c with
    | none => .error .unknownArgument
    | some k =>
      if k.takesValue then
        match cs with
        | [] => s.addAwaiting k
        | '=' :: value => s.addValued k (String.ofList value)
        | value => s.addValued k (String.ofList value)
      else do
        let s ← s.addFlag k
        addShort s names cs

end Scope

/-! ### Reading -/

/-- What an argument **looks like**. -/
inductive Shape where
  | mark
  | long (cs : List Char)
  | short (cs : List Char)
  | other

/-- The shape of an argument. -/
def Shape.of (argument : String) : Shape :=
  match argument.toList with
  | ['-', '-'] => .mark
  | '-' :: '-' :: cs => .long cs
  | '-' :: c :: cs => .short (c :: cs)
  | _ => .other

/-- The name that stands for help, in the place of a command. -/
abbrev helpName : String := "help"

/-- Help on a command, by the arguments behind the word for help: at most the name of one. -/
def helpOn : List String → Refusal
  | [] => .help
  | [name] => if (Verb.ofName? name).isSome || name == helpName then .help else .unknownCommand
  | _ => .unknownCommand

/-- An argument that is neither an option nor the name of a command. -/
def refuseOther (verb? : Option Verb) (s : Scope) (argument : String) : Refusal :=
  match verb? with
  | some _ => .unknownArgument
  | none =>
    if s.closed && ((Verb.ofName? argument).isSome || argument == helpName) then .unknownArgument
    else .unknownCommand

/-- A scope read to its end: its settings so far, and the command behind it with the arguments that
follow, if a name of one ended the scope. -/
structure Finished where
  scope : Scope
  command? : Option (Verb × List String)

/-- The arguments of a **scope**, up to the name of a command in the first one. -/
def readScope (verb? : Option Verb) : Scope → List String → Except Refusal Finished
  | s, [] => .ok ⟨s, none⟩
  | s, argument :: rest =>
    if s.closed then .error (refuseOther verb? s argument)
    else
      let command? := if verb?.isNone && !s.awaiting then Verb.ofName? argument else none
      match command? with
      | some verb => .ok ⟨s, some (verb, rest)⟩
      | none =>
        if verb?.isNone && !s.awaiting && argument == helpName then .error (helpOn rest)
        else
          match Shape.of argument with
          | .mark => readScope verb? { s with closed := true } rest
          | .long cs =>
            match s.addLong (Names.of verb?) cs with
            | .ok s => readScope verb? s rest
            | .error refusal => .error refusal
          | .short cs =>
            match s.addShort (Names.of verb?) cs with
            | .ok s => readScope verb? s rest
            | .error refusal => .error refusal
          | .other =>
            if s.awaiting then readScope verb? (s.giveValue argument) rest
            else .error (refuseOther verb? s argument)

/-- The **options** that say how to run. -/
structure Options where
  localTarget : Bool := false
  cloudTarget : Bool := false
  baseDir? : Option Path := none
  dryRun : Bool := false
  budget : Nat := 120
  interval : Nat := 30
  format : Report.Format := .record
  noProgress : Bool := false
  quiet : Bool := false
  verbose : Bool := false
  deriving DecidableEq, Repr

/-- A command line that is **followed**. -/
structure Arguments where
  command : Command
  options : Options
  deriving DecidableEq, Repr

/-- The number that an option was set to, or the usual one. -/
def numberOf (settings : List (Key × Setting)) (k : Key) (usual : Nat) : Nat :=
  match settings.lookup k with
  | some (.number n) => n
  | _ => usual

/-- The text that an option was set to. -/
def textOf? (settings : List (Key × Setting)) (k : Key) : Option String :=
  match settings.lookup k with
  | some (.text s) => some s
  | _ => none

/-- The options that some settings come to. Where an option is set twice, the first setting
counts. -/
def Options.of (settings : List (Key × Setting)) : Options :=
  let isOn (k : Key) : Bool := (settings.lookup k).isSome
  { localTarget := isOn .localTarget
    cloudTarget := isOn .cloudTarget
    baseDir? := (textOf? settings .baseDir).map fun text => ⟨text⟩
    dryRun := isOn .dryRun
    budget := numberOf settings .budget 120
    interval := numberOf settings .interval 30
    format := match settings.lookup .format with
      | some (.format f) => f
      | _ => .record
    noProgress := isOn .noProgress
    quiet := isOn .quiet
    verbose := isOn .verbose }

/-- The command that a verb and the settings behind it come to. -/
def commandOf (verb : Verb) (settings : List (Key × Setting)) : Command :=
  match verb with
  | .workload => .workload {
      threads := numberOf settings .threads 2
      connections := numberOf settings .connections 2
      duration := numberOf settings .duration 30
      rate := numberOf settings .rate 50 }
  | .metrics => .metrics (textOf? settings .timestamp)
  | other => .plain other

/-- The **arguments** behind the name of the program, read. The settings behind the name of the
command are looked at first, and count before the others. -/
def read (arguments : List String) : Except Refusal Arguments := do
  let outer ← readScope none {} arguments
  match outer.command? with
  | none =>
    let s ← outer.scope.settleLast
    .error (if s.used then .missingCommand else .helpOnMissing)
  | some (verb, rest) =>
    let inner ← readScope (some verb) {} rest
    let innerScope ← inner.scope.settleLast
    let outerScope ← outer.scope.settleLast
    return {
      command := commandOf verb innerScope.settings
      options := Options.of (innerScope.settings ++ outerScope.settings) }

/-- The **target** that is asked for: exactly one of the two. -/
def Options.target (o : Options) : Except ConfigFault Site :=
  match o.localTarget, o.cloudTarget with
  | true, false => .ok .localhost
  | false, true => .ok .cloud
  | _, _ => .error .ambiguousTarget

/-- A target is found exactly when one of the two is asked for. -/
theorem Options.target_eq_ok_iff (o : Options) :
    (∃ site, o.target = .ok site) ↔ o.localTarget ≠ o.cloudTarget := by
  simp only [target]
  cases o.localTarget <;> cases o.cloudTarget <;> simp

/-- The **configuration** that options come to. The files are under the working directory unless
another one is named, and the cloud target needs its profile.

A session always has a working directory. That the system may fail to name it, when it was removed
while the process was in it, is left out; the options for this computer with no directory named
would then be a fault, and nothing else would change. -/
def Options.configure {σ : Type} (o : Options) : Session σ ConfigFault Config := do
  let site ← Session.ofExcept o.target
  let baseDir := o.baseDir?.getD (placePath (← Session.around).cwd)
  let profile? ←
    match site with
    | .cloud => do
      let p ← Cloud.Profile.load baseDir
      pure (some p)
    | .localhost => pure none
  return {
    baseDir, site
    dryRun := o.dryRun
    readiness := ⟨o.interval, o.budget⟩
    profile?
    format := o.format
    showProgress := !o.noProgress && !o.quiet }

end GeoBench.CommandLine
