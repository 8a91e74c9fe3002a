import GeoBench.Cloud.Instance
import GeoBench.Cloud.Profile
import GeoBench.Command
import GeoBench.Machine.World
import GeoBench.Readiness.Poll
import GeoBench.Report

/-!
# The configuration

Everything that a command has to know: the directory that all files are under, the target, the
application, the size of the cluster, how long to wait, the machines and the form of the output. The
files have fixed places under the base directory.

## Faults

A configuration fails for want of a clear target, or of a profile and of credentials where the
target needs them, and these are found before a command is begun. A profile that a command asks for
in vain, and a machine without an address, are faults of the same kind that come later.

## Main results

* `Config.requireProfile_eq_ok_iff` — the profile is found exactly when there is one.
-/

namespace GeoBench

open GeoBench.Machine GeoBench.Cloud

/-- Why a configuration **cannot be used**. -/
inductive ConfigFault where
  /-- Not exactly one target is asked for. -/
  | ambiguousTarget
  | unreadable (path : Path) (cause : Fault)
  | badProfile (path : Path) (cause : ProfileFault)
  | missingFile (path : Path)
  | missingProfile
  | noAddress (machine : String)
  | unsupported (verb : String) (site : String)
  deriving DecidableEq, Repr

namespace ConfigFault

/-- The wording of a fault. -/
def message : ConfigFault → String
  | ambiguousTarget => "exactly one of --local or --gcp must be provided"
  | unreadable path cause => "failed to read " ++ path.text ++ ": " ++ cause.message
  | badProfile path cause => "invalid profile " ++ path.text ++ ": " ++ cause.message
  | missingFile path => "missing file: " ++ path.text
  | missingProfile => "gcp profile is required for this command"
  | noAddress machine => "instance '" ++ machine ++ "' has no public address"
  | unsupported verb site => "command '" ++ verb ++ "' is not available for " ++ site

/-- The wordings of a fault and of what caused it. -/
def chain : ConfigFault → List String
  | unreadable path cause => [message (unreadable path cause), cause.message]
  | badProfile path cause => [message (badProfile path cause), cause.message]
  | other => [message other]

end ConfigFault

/-- The **configuration** of a run. -/
structure Config where
  baseDir : Path
  site : Site
  dryRun : Bool := false
  appPort : Nat := 9000
  runtimeProgram : String := "weaver"
  runtimeDeployer : String := "multi"
  swarmNodes : Nat := 3
  swarmServices : Nat := 20
  readiness : Readiness.Limits := ⟨30, 120⟩
  machinesSettleMillis : Nat := 30000
  datastoresSettleMillis : Nat := 30000
  layout : Layout := .standard
  profile? : Option Profile := none
  format : Report.Format := .record
  showProgress : Bool := true
  deriving DecidableEq, Repr

namespace Config

/-- A path under the base directory. -/
def path (c : Config) (steps : String) : Path :=
  c.baseDir.sub steps

/-- The directory for the generated files of a deployment. -/
def tmpDir (c : Config) : Path :=
  c.path "deploy/tmp"

/-- The directory for the results of workloads. -/
def evaluationDir (c : Config) : Path :=
  c.path "evaluation"

/-- The generated inventory of the machines. -/
def inventoryPath (c : Config) : Path :=
  c.tmpDir.sub "ansible-inventory-gcp.cfg"

/-- The generated variables of a deployment. -/
def varsPath (c : Config) : Path :=
  c.tmpDir.sub "ansible-vars.yml"

/-- The profile, which some commands cannot do without. -/
def requireProfile (c : Config) : Except ConfigFault Profile :=
  match c.profile? with
  | some p => .ok p
  | none => .error .missingProfile

/-- Where the application answers on this computer. -/
def localUrl (c : Config) : String :=
  "http://127.0.0.1:" ++ toString c.appPort

/-- The profile is found exactly when there is one. -/
theorem requireProfile_eq_ok_iff (c : Config) (p : Profile) :
    c.requireProfile = .ok p ↔ c.profile? = some p := by
  unfold requireProfile
  cases c.profile? <;> simp

end Config

namespace Cloud

/-- Where the profile is, under the base directory. -/
abbrev profileFile : String := "gcp/config.yml"

/-- Where the credentials are, under the base directory. -/
abbrev credentialsFile : String := "gcp/credentials.json"

/-- The profile under a base directory. The credentials have to be there too. -/
def Profile.load {σ : Type} (baseDir : Path) : Session σ ConfigFault Profile := do
  let path := baseDir.sub profileFile
  let content ← Session.withFault (.unreadable path) (Session.readText path)
  let profile ← Session.ofExcept ((Profile.parse content).mapError (.badProfile path))
  let credentials := baseDir.sub credentialsFile
  if ← Session.isFile credentials then return profile
  else throw (.missingFile credentials)

end Cloud

end GeoBench
