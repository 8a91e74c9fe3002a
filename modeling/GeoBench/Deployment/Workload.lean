import GeoBench.Deployment.Fault
import GeoBench.Machine.Runner

/-!
# Workload runs

A workload run calls the load generator on an address of the application and keeps what it wrote,
unchanged, in the directory of the run. The time stamp that names the run is also what its report is
kept under.

The load generator is told one address, and is told it three times: in the address of its requests,
and in the variables that name the hosts of the two regions.
-/

namespace GeoBench.Deployment

open GeoBench.Machine

/-- The load generator, under the base directory. -/
abbrev generatorFile : String := "wrk2/wrk"

/-- The requests that the load generator makes. -/
abbrev composeScript : String := "./wrk2/scripts/social-network/compose-post.lua"

/-- What follows the address of the application in a request. -/
abbrev composePath : String := "/wrk2-api/post/compose"

/-- The call of the **load generator**. -/
def generator (c : Config) (url : String) (p : WorkloadParameters) : Invocation where
  program := (c.path generatorFile).text
  arguments :=
    ["-D", "exp", "-t", toString p.threads, "-c", toString p.connections, "-d",
      toString p.duration, "-L", "-s", composeScript, url ++ composePath, "-R", toString p.rate]
  environment := [("HOST_EU", url), ("HOST_US", url)]
  directory? := some c.baseDir

/-- What a finished run leaves. -/
structure WorkloadRun where
  timestamp : String
  outputPath : Path
  output : String
  deriving DecidableEq, Repr

/-- A **workload run**. Without a dry run the load generator has to be there. -/
def runWorkload {σ : Type} (c : Config) (runner : Runner σ) (url : String)
    (p : WorkloadParameters) (timestamp : String) : Session σ CommandFault WorkloadRun := do
  let binary := c.path generatorFile
  let there ← Session.isFile binary
  if !c.dryRun && !there then
    throw (.workload ("'" ++ binary.text ++ "' file does not exist"))
  Session.info (countdownLine p.duration "running workload")
  let output ← Session.withFault .call (Session.perform runner .output (generator c url p))
  let dir := Evaluation.runDir c.evaluationDir c.site.name timestamp
  Session.withFault .system (Session.makeAll dir)
  let path := dir.sub "workload.out"
  Session.withFault .system (Session.writeText path output)
  Session.printLine output
  Session.info ("workload results saved at " ++ path.text)
  return { timestamp, outputPath := path, output }

end GeoBench.Deployment
