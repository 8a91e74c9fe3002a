import GeoBench.Config
import GeoBench.Deployment.Vars
import GeoBench.Evaluation.Record
import GeoBench.Toml.Value

/-!
# Faults of a command

Why a command fails, by the part of the manager that it fails in, with one wording for each.

A fault has a wording and, behind it, the wordings of what caused it. The wording of a fault takes
up that of its first cause, under the name of the part of the manager that met it, so that one line
tells both where a command failed and why.

## Main results

* `CommandFault.message_eq_append_cause` — the wording of a fault ends with that of its cause.
-/

namespace GeoBench.Deployment

open GeoBench.Machine

/-- Why a file of a deployment **could not be generated**. -/
inductive TemplateFault where
  | unreadable (path : Path) (cause : Fault)
  | unwritable (path : Path) (cause : Fault)
  | badSettings (cause : Toml.Fault)
  | badVars (cause : VarsFault)
  deriving DecidableEq, Repr

namespace TemplateFault

/-- The wording of a fault. -/
def message : TemplateFault → String
  | unreadable path cause => "failed to read template " ++ path.text ++ ": " ++ cause.message
  | unwritable path cause => "failed to write " ++ path.text ++ ": " ++ cause.message
  | badSettings cause => "invalid TOML template: " ++ cause.message
  | badVars (.malformed cause) => "invalid YAML template: " ++ cause.message
  | badVars .notAMapping => "template root must be a mapping"

/-- The wordings of a fault and of what caused it. -/
def chain : TemplateFault → List String
  | unreadable path cause => [message (unreadable path cause), cause.message]
  | unwritable path cause => [message (unwritable path cause), cause.message]
  | badSettings cause => [message (badSettings cause), cause.message]
  | badVars (.malformed cause) => [message (badVars (.malformed cause)), cause.message]
  | badVars .notAMapping => [message (badVars .notAMapping)]

end TemplateFault

/-- Why a command **fails**. -/
inductive CommandFault where
  | config (cause : ConfigFault)
  | call (cause : CallFault)
  | report (cause : Evaluation.ReportFault)
  | readiness (cause : Readiness.PollFault)
  | template (cause : TemplateFault)
  | workload (text : String)
  | system (cause : Fault)
  deriving DecidableEq, Repr

namespace CommandFault

/-- The wording of a fault. -/
def message : CommandFault → String
  | config cause => "Configuration error: " ++ cause.message
  | call cause => "Command error: " ++ cause.message
  | report cause => "Metrics error: " ++ cause.message
  | readiness cause => "Readiness error: " ++ cause.message
  | template cause => "Template error: " ++ cause.message
  | workload text => "Workload error: " ++ text
  | system cause => "IO error: " ++ cause.message

/-- The wordings of what caused a fault. -/
def causes : CommandFault → List String
  | config cause => cause.chain
  | call cause => cause.chain
  | report cause => cause.chain
  | readiness cause => cause.chain
  | template cause => cause.chain
  | workload _ => []
  | system cause => [cause.message]

/-- The wordings of a fault and of what caused it. -/
def chain (f : CommandFault) : List String :=
  f.message :: f.causes

/-- **The wording of a fault** ends with that of its cause, if something caused it. -/
theorem message_eq_append_cause (f : CommandFault) :
    ∀ text ∈ f.causes.head?, ∃ kind, f.message = kind ++ text := by
  have hhead : ∀ {texts : List String} {kind own text : String}, texts.head? = some own →
      text ∈ texts.head? → ∃ kind', kind ++ own = kind' ++ text := by
    rintro texts kind own text hown htext
    obtain rfl : own = text := Option.some.inj (hown.symm.trans htext)
    exact ⟨kind, rfl⟩
  intro text htext
  cases f with
  | workload => cases htext
  | system cause => exact hhead rfl htext
  | config cause => exact hhead (by cases cause <;> rfl) htext
  | call cause => exact hhead (by cases cause <;> rfl) htext
  | report cause => exact hhead (by cases cause <;> rfl) htext
  | readiness cause => exact hhead (by cases cause <;> rfl) htext
  | template cause =>
      refine hhead ?_ htext
      cases cause with
      | badVars cause => cases cause <;> rfl
      | unreadable | unwritable | badSettings => rfl

end CommandFault

end GeoBench.Deployment
