/-!
# Commands

What the manager can be asked to do: the verbs with their names, the parameters of a workload, the
target that a command runs against, and commands as verbs with their arguments.

## Main results

* `Verb.mem_all` — no verb is missing from the list of all.
* `Verb.name_injective` — a verb is known by its name.
* `Verb.eq_of_le_of_ge` — a verb is known by where it is declared.
-/

namespace GeoBench

/-- What a command **does**, without its arguments. -/
inductive Verb where
  | configure
  | deploy
  | start
  | stop
  | restart
  | clean
  | info
  | storageBuild
  | storageDeploy
  | storageRun
  | storageInfo
  | storageClean
  | initSocialGraph
  | workload
  | metrics
  deriving DecidableEq, Repr

namespace Verb

/-- Every verb, in the order of their declaration. -/
def all : List Verb :=
  [configure, deploy, start, stop, restart, clean, info, storageBuild, storageDeploy, storageRun,
    storageInfo, storageClean, initSocialGraph, workload, metrics]

/-- The name of a verb on the command line. -/
def name : Verb → String
  | configure => "configure"
  | deploy => "deploy"
  | start => "start"
  | stop => "stop"
  | restart => "restart"
  | clean => "clean"
  | info => "info"
  | storageBuild => "storage-build"
  | storageDeploy => "storage-deploy"
  | storageRun => "storage-run"
  | storageInfo => "storage-info"
  | storageClean => "storage-clean"
  | initSocialGraph => "init-social-graph"
  | workload => "wrk2"
  | metrics => "metrics"

/-- The verb with a name. -/
def ofName? (name : String) : Option Verb :=
  all.find? fun v => v.name == name

/-- Verbs are **ordered** as they are declared. -/
instance : LE Verb := ⟨fun v w => v.ctorIdx ≤ w.ctorIdx⟩

instance (v w : Verb) : Decidable (v ≤ w) :=
  inferInstanceAs (Decidable (v.ctorIdx ≤ w.ctorIdx))

/-- No verb is missing from the list of all. -/
theorem mem_all (v : Verb) : v ∈ all := by
  cases v <;> decide

/-- A verb is found again by its name. -/
theorem ofName?_name (v : Verb) : ofName? v.name = some v := by
  cases v <;> decide

/-- A verb is known by its name. -/
theorem name_injective {v w : Verb} (h : v.name = w.name) : v = w := by
  have := ofName?_name v
  rw [h, ofName?_name w] at this
  exact (Option.some.inj this).symm

/-- Of two verbs, each is known by where it is declared. -/
theorem eq_of_le_of_ge {v w : Verb} (h : v ≤ w) (h' : w ≤ v) : v = w := by
  have hidx : v.ctorIdx = w.ctorIdx := Nat.le_antisymm h h'
  revert hidx
  cases v <;> cases w <;> decide

end Verb

/-- The **target** of a command: this computer, or the machines of the cloud deployment. -/
inductive Site where
  | localhost
  | cloud
  deriving DecidableEq, Repr

/-- The name of a target. -/
def Site.name : Site → String
  | .localhost => "local"
  | .cloud => "gcp"

/-- The parameters of a load generator. -/
structure WorkloadParameters where
  threads : Nat := 2
  connections : Nat := 2
  duration : Nat := 30
  rate : Nat := 50
  deriving DecidableEq, Repr

/-- A **command**: a verb with its arguments. -/
inductive Command where
  | plain (verb : Verb)
  | workload (parameters : WorkloadParameters)
  | metrics (timestamp? : Option String)
  deriving DecidableEq, Repr

namespace Command

/-- The verb of a command. -/
def verb : Command → Verb
  | plain v => v
  | workload _ => .workload
  | metrics _ => .metrics

/-- The parameters of the workload that a command carries, or the usual ones. -/
def parameters : Command → WorkloadParameters
  | workload p => p
  | _ => {}

/-- The time stamp that a command for metrics carries. -/
def timestamp? : Command → Option String
  | metrics t? => t?
  | _ => none

end Command

end GeoBench
