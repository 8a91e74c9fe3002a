import GeoBench.Evaluation.Aggregate

/-!
# Records of reports

The results of one workload run lie in one directory, named for the target and the time stamp of the
run. A report that belongs to a run is kept there as its record, and shown on the console in the
same form; any other report is only shown.

The two are not one request. The report is printed first, then the directory is made, and then the
file is written, so that a report that cannot be kept has been seen.
-/

namespace GeoBench.Evaluation

open GeoBench.Machine

/-- The **directory** of a run. -/
def runDir (evaluationDir : Path) (site timestamp : String) : Path :=
  (evaluationDir.sub site).sub timestamp

/-- The **record** of a run. -/
def recordPath (evaluationDir : Path) (site timestamp : String) : Path :=
  (runDir evaluationDir site timestamp).sub "metrics.yml"

section

variable {σ : Type}

/-- A report is kept as the record of a run; the directory is made if it is missing. -/
def keep (evaluationDir : Path) (report : Report) (site timestamp : String) :
    Session σ ReportFault Path := do
  let path := recordPath evaluationDir site timestamp
  match path.parent? with
  | some parent => Session.withFault (.notKept parent) (Session.makeAll parent)
  | none => pure ()
  Session.withFault (.notKept path) (Session.writeText path report.toRecord)
  return path

/-- A report is **published**: shown, and kept when there is a time stamp. -/
def publish (evaluationDir : Path) (format : Report.Format) (report : Report) (site : String)
    (timestamp? : Option String) : Session σ ReportFault (Option Path) := do
  Session.printLine (report.echo format timestamp?.isSome)
  match timestamp? with
  | some timestamp =>
    let path ← keep evaluationDir report site timestamp
    Session.info ("evaluation results saved at " ++ path.text)
    return some path
  | none => return none

end

end GeoBench.Evaluation
