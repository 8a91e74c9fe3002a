import GeoBench.Deployment.Workload

/-!
# What every command can do

A command runs in a context: the configuration, something that answers its calls, and something that
lets time pass. The steps that several commands share are here: calls, waits, readiness gates, the
addresses of machines, playbooks, and the collection of metrics.

## Main results

* `Context.settle_dryRun` — in a dry run no time is let pass.
-/

namespace GeoBench.Deployment

open GeoBench.Machine GeoBench.Readiness GeoBench.Cloud

/-- What a command **runs in**. -/
structure Context (σ : Type) where
  config : Config
  runner : Runner σ
  pacer : Pacer

/-- The gate for the machines: all of them have joined the cluster. -/
def nodesGate (c : Config) : Gate where
  dimension := .nodes
  target := c.swarmNodes
  status := c.layout.storeManager.nodeListing
  token := "Ready"

/-- The gate for the services: all of them run as often as they should. -/
def servicesGate (c : Config) : Gate where
  dimension := .services
  target := c.swarmServices
  status := c.layout.storeManager.serviceListing
  token := "1/1"

namespace Context

variable {σ : Type} (ctx : Context σ)

/-- A call in the foreground. -/
def run (i : Invocation) : Session σ CommandFault Unit := do
  let _ ← Session.withFault .call (Session.perform ctx.runner .run i)

/-- A call for its output. -/
def output (i : Invocation) : Session σ CommandFault String :=
  Session.withFault .call (Session.perform ctx.runner .output i)

/-- A fixed wait, given in milliseconds and made in whole seconds. A dry run only tells of it. -/
def settle (millis : Nat) (message : String) : Session σ CommandFault Unit :=
  let seconds := millis / 1000
  if ctx.config.dryRun then
    Session.info ("[dry-run] " ++ message ++ " for " ++ toString seconds ++ " seconds")
  else Session.wait ctx.pacer seconds message

/-- A readiness gate is waited for. In a dry run it counts as passed. -/
def awaitGate (g : Gate) : Session σ CommandFault Outcome :=
  if ctx.config.dryRun then do
    Session.info ("[dry-run] wait for " ++ toString g.target ++ " " ++ g.dimension.text)
    return { check := { dimension := g.dimension, target := g.target, actual := g.target }
             attempts := 0, waited := 0 }
  else Session.withFault .readiness (g.await ctx.config.readiness ctx.pacer ctx.runner)

/-- The profile, which a command cannot do without. -/
def profile : Session σ CommandFault Profile :=
  Session.withFault .config (Session.ofExcept ctx.config.requireProfile)

/-- The call that asks for the public address of a machine. -/
def describeCall (p : Profile) (i : Instance) : Invocation where
  program := "gcloud"
  arguments :=
    ["compute", "instances", "describe", i.name, "--zone", i.zone, "--project", p.projectId,
      "--format=get(networkInterfaces[0].accessConfigs[0].natIP)"]

/-- The first line of an answer that is more than blanks, without the blanks around it. -/
def firstLine? (answer : String) : Option String :=
  ((Text.lines answer).map Text.trim).find? (· ≠ "")

/-- The **public address** of a machine. -/
def publicHost (p : Profile) (i : Instance) : Session σ CommandFault String := do
  let answer ← ctx.output (describeCall p i)
  match firstLine? answer with
  | some host =>
    Session.debug (i.name ++ " @ " ++ host)
    return host
  | none => throw (.config (.noAddress i.name))

/-- The address of a machine, or its name in brackets in a dry run. -/
def hostOf (i : Instance) : Session σ CommandFault String :=
  if ctx.config.dryRun then return "<" ++ i.name ++ ">"
  else do
    let p ← ctx.profile
    ctx.publicHost p i

/-- The call of a **playbook** on the generated inventory and variables. -/
def playbook (name : String) : Invocation where
  program := "ansible-playbook"
  arguments :=
    [((ctx.config.path "deploy/ansible/playbooks").sub name).text, "-i",
      ctx.config.inventoryPath.text, "--extra-vars", "@" ++ ctx.config.varsPath.text]
  directory? := some ctx.config.baseDir

/-- The metrics are **collected**: aggregated, shown, and kept when there is a time stamp. -/
def collectMetrics (timestamp? : Option String) : Session σ CommandFault Report :=
  Session.withFault .report do
    let report ← Evaluation.aggregate ctx.runner
      ⟨ctx.config.runtimeProgram, ctx.config.runtimeDeployer⟩
    let _ ← Evaluation.publish ctx.config.evaluationDir ctx.config.format report
      ctx.config.site.name timestamp?
    return report

/-- In a dry run no time is let pass. -/
theorem settle_dryRun (h : ctx.config.dryRun) (millis : Nat) (message : String) (w : World σ) :
    ((ctx.settle millis message).run w).2.past =
      .logged .info ("[dry-run] " ++ message ++ " for " ++ toString (millis / 1000) ++ " seconds")
        :: w.past := by
  simp only [settle, h, if_true]
  rfl

end Context

end GeoBench.Deployment
