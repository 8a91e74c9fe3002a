import GeoBench.Machine.World
import GeoBench.Report

/-!
# Aggregation of metrics

A report is made by asking the application runtime for the table of each metric, one call after the
other. The first call that fails ends the aggregation; a table without data rows counts as zero.

## Main results

* `lookup_zip_all` — what was fetched for a metric is found again under that metric.
-/

namespace GeoBench.Evaluation

open GeoBench.Machine GeoBench.Table

/-- Why there is no report, or why it could not be kept. -/
inductive ReportFault where
  | noSource (metric : Metric) (cause : CallFault)
  | notKept (path : Path) (cause : Fault)
  deriving DecidableEq, Repr

namespace ReportFault

/-- The wording of a fault. -/
def message : ReportFault → String
  | noSource metric cause =>
    "metrics source unavailable for '" ++ metric.exportName ++ "': " ++ cause.message
  | notKept path cause => "failed to write report to " ++ path.text ++ ": " ++ cause.message

/-- The wordings of a fault and of what caused it. -/
def chain : ReportFault → List String
  | noSource metric cause => message (noSource metric cause) :: cause.chain
  | notKept path cause => [message (notKept path cause), cause.message]

end ReportFault

/-- Where the tables come from: the runtime's program and the deployer it is asked about. -/
structure Source where
  program : String
  deployer : String
  deriving DecidableEq, Repr

/-- The call for the table of a metric. -/
def Source.invocation (s : Source) (metric : Metric) : Invocation where
  program := s.program
  arguments := [s.deployer, "metrics", metric.exportName]

section

variable {σ : Type}

/-- The **samples** of one metric, asked of the runtime. -/
def fetch (runner : Runner σ) (s : Source) (metric : Metric) :
    Session σ ReportFault (List Sample) := do
  let text ← Session.withFault (.noSource metric)
    (Session.perform runner .output (s.invocation metric))
  (remarks text).forM fun remark => Session.debug remark
  let found := samples text
  Session.debug (metric.exportName ++ ": " ++ toString found.length ++ " rows")
  return found

/-- The samples that were fetched for the metrics in order. -/
def samplesOf (found : List (List Sample)) (metric : Metric) : List Sample :=
  ((Metric.all.zip found).lookup metric).getD []

/-- The **report** on every metric. -/
def aggregate (runner : Runner σ) (s : Source) : Session σ ReportFault Report := do
  let found ← Metric.all.mapM fun metric => fetch runner s metric
  return Report.ofSamples (samplesOf found)

end

/-- What was fetched for a metric is found again under that metric. -/
theorem lookup_zip_all (f : Metric → List Sample) (metric : Metric) :
    samplesOf (Metric.all.map f) metric = f metric := by
  cases metric <;> rfl

end GeoBench.Evaluation
