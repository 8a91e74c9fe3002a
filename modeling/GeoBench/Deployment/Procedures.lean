import GeoBench.Deployment.Files

/-!
# Procedures

What is done for each command. The cloud deployment is set up, started, stopped and taken down by
playbooks and infrastructure plans, with a readiness gate wherever the next step needs the cluster;
on this computer the datastores are built and run in containers. Every procedure stops at its first
fault, but for the opening of the firewall, where each rule is tried.

## What a procedure is made of

A procedure is a session in a context, which brings the configuration, the runner and the pacer. It
is put together from the parts that the context offers (`GeoBench.Deployment.Context`), so most of
what sets a dry run apart is decided there and not in the procedures.

Which procedure a command has on which target is said by the registry (`GeoBench.Registry`), and a
pair without a procedure is refused there.

## Main results

* `Context.tryRule_ok` — a rule of the firewall that fails stops nothing.
-/

namespace GeoBench.Deployment

open GeoBench.Machine GeoBench.Cloud

/-- The rules of the firewall: a name and the ports that are opened. -/
def firewallRules : List (String × String) :=
  [("weaver-dsb-socialnetwork", "tcp:9000,tcp:9001"),
   ("weaver-dsb-storage",
    "tcp:27017,tcp:27018,tcp:15672,tcp:15673,tcp:5672,tcp:5673," ++
      "tcp:6381,tcp:6382,tcp:6383,tcp:6384,tcp:6385,tcp:6386,tcp:6387,tcp:6388," ++
      "tcp:11212,tcp:11213,tcp:11214,tcp:11215,tcp:11216,tcp:11217"),
   ("weaver-dsb-swarm", "tcp:2376,tcp:2377,tcp:7946,udp:4789,udp:7946")]

/-- The call that opens the ports of one rule. -/
def firewallCall (project name ports : String) : Invocation where
  program := "gcloud"
  arguments :=
    ["compute", "--project", project, "firewall-rules", "create", name, "--direction=INGRESS",
      "--priority=100", "--network=default", "--action=ALLOW", "--rules=" ++ ports,
      "--source-ranges=0.0.0.0/0"]

/-- The images of the datastores: a tag and what it is built from. -/
def datastoreImages : List (String × String) :=
  [("mongodb-delayed:4.4.6", "docker/mongodb-delayed/."),
   ("mongodb-setup:4.4.6", "docker/mongodb-setup/post-storage/."),
   ("rabbitmq-setup:3.8", "docker/rabbitmq-setup/write-home-timeline/.")]

/-- What a command does with its arguments. -/
inductive Procedure where
  | configure
  | deploy
  | start
  | stop
  | restart
  | clean
  | info
  | cloudSocialGraph
  | cloudMetrics
  | cloudWorkload
  | localSocialGraph
  | localMetrics
  | localWorkload
  | storageBuild
  | storageRun
  | storageClean
  | nothing
  deriving DecidableEq, Repr

namespace Context

variable {σ : Type} (ctx : Context σ)

/-- The call of an infrastructure plan. -/
def infrastructure (action : String) : Invocation where
  program := "terraform"
  arguments := ["-chdir=./deploy/terraform", action]
  directory? := some ctx.config.baseDir

/-- The call of the container composition. -/
def composition (arguments : List String) : Invocation where
  program := "docker-compose"
  arguments
  directory? := some ctx.config.baseDir

/-- One rule of the firewall is tried; a failure is told and passed over. -/
def tryRule (project name ports : String) : Session σ CommandFault Unit :=
  tryCatch (ctx.run (firewallCall project name ports)) fun fault =>
    Session.log .error ("could not configure firewall " ++ name ++ ": " ++ fault.message)

/-- The firewall is **opened**. -/
def configure : Session σ CommandFault Unit := do
  let p ← ctx.profile
  Session.info "configuring firewalls"
  firewallRules.forM fun (name, ports) => ctx.tryRule p.projectId name ports

/-- The machines are **set up** and everything is installed on them. -/
def deploy : Session σ CommandFault Unit := do
  ctx.run (ctx.infrastructure "init")
  ctx.run (ctx.infrastructure "apply")
  ctx.settle ctx.config.machinesSettleMillis "waiting for all machines to initialize"
  ctx.copyPlaybookConfig
  let tmp := ctx.config.tmpDir
  Session.withFault .system (Session.makeAll tmp)
  Session.info ("created " ++ tmp.text ++ " directory")
  ctx.generateSettings
  ctx.generateInventory
  ctx.generateVars none none
  ctx.run (ctx.playbook "install-machines.yml")
  let _ ← ctx.awaitGate (nodesGate ctx.config)

/-- The datastores are **started**, and the application once they are ready. -/
def start : Session σ CommandFault Unit := do
  ctx.run (ctx.playbook "start-datastores.yml")
  let _ ← ctx.awaitGate (servicesGate ctx.config)
  ctx.run (ctx.playbook "start-app.yml")

/-- The datastores and the application are **stopped**. -/
def stop : Session σ CommandFault Unit := do
  ctx.run (ctx.playbook "stop-datastores.yml")
  ctx.run (ctx.playbook "stop-app.yml")

/-- A stop and then a start. -/
def restart : Session σ CommandFault Unit := do
  ctx.stop
  ctx.start

/-- The machines are **taken down**, and the generated files are removed. -/
def clean : Session σ CommandFault Unit := do
  ctx.run (ctx.infrastructure "destroy")
  let tmp := ctx.config.tmpDir
  if ← Session.existsAt tmp then
    Session.withFault .system (Session.removeDirectory tmp)
    Session.info ("removed " ++ tmp.text ++ " directory")

/-- A line tells where something runs. -/
def tell (what : String) (machine : Instance) (ending : String) :
    Session σ CommandFault Unit := do
  let host ← ctx.hostOf machine
  Session.printLine (what ++ " running @ " ++ host ++ ending)

/-- The state of the cluster and the addresses of the machines are **shown**. -/
def showInfo : Session σ CommandFault Unit := do
  let layout := ctx.config.layout
  ctx.run layout.storeManager.nodeListing
  ctx.run layout.storeManager.serviceListing
  Session.printLine "\n--- DATASTORES ---"
  ctx.tell "storage manager" layout.storeManager ""
  ctx.tell ("storage in " ++ layout.storeEurope.zone) layout.storeEurope ""
  ctx.tell ("storage in " ++ layout.storeAmerica.zone) layout.storeAmerica ""
  Session.printLine "\n--- SERVICES ---"
  ctx.tell ("wrk2 in " ++ layout.appWorkload.zone) layout.appWorkload ""
  ctx.tell ("services in " ++ layout.appEurope.zone) layout.appEurope ""
  ctx.tell ("services in " ++ layout.appAmerica.zone) layout.appAmerica "\n"

/-- The metrics are collected, for the run with the time stamp that the command carries. -/
def metrics (command : Command) : Session σ CommandFault Unit := do
  let _ ← ctx.collectMetrics command.timestamp?

/-- A workload is **run** against the cloud deployment, and its metrics are gathered there. -/
def cloudWorkload (command : Command) : Session σ CommandFault Unit := do
  let host ← ctx.hostOf ctx.config.layout.appEurope
  let url := "http://" ++ host ++ ":" ++ toString ctx.config.appPort
  let timestamp := (← Session.around).clock
  let _ ← runWorkload ctx.config ctx.runner url command.parameters timestamp
  ctx.generateVars (some timestamp) (some .cloud)
  ctx.run (ctx.playbook "gather-metrics.yml")
  Session.info ("metrics results saved at evaluation/gcp/" ++ timestamp ++
    "/ in metrics-eu.yaml and metrics-us.yaml files")

/-- The social graph is **filled** on this computer. -/
def localSocialGraph : Session σ CommandFault Unit :=
  ctx.run {
    program := "./scripts/init_social_graph.py"
    environment := [("HOST_EU", ctx.config.localUrl), ("HOST_US", ctx.config.localUrl)]
    directory? := some ctx.config.baseDir }

/-- A workload is run on this computer, and its metrics are collected. -/
def localWorkload (command : Command) : Session σ CommandFault Unit := do
  let timestamp := (← Session.around).clock
  let _ ← runWorkload ctx.config ctx.runner ctx.config.localUrl command.parameters timestamp
  let _ ← ctx.collectMetrics (some timestamp)

/-- The images of the datastores are **built**. -/
def storageBuild : Session σ CommandFault Unit :=
  datastoreImages.forM fun (tag, source) =>
    ctx.run {
      program := "docker"
      arguments := ["build", "-t", tag, source]
      directory? := some ctx.config.baseDir }

/-- The datastores are run on this computer. -/
def storageRun : Session σ CommandFault Unit := do
  ctx.run (ctx.composition ["up", "-d"])
  ctx.settle ctx.config.datastoresSettleMillis "waiting for storages to be ready"

/-- The datastores on this computer are removed. -/
def storageClean : Session σ CommandFault Unit :=
  ctx.run (ctx.composition ["down"])

/-- A rule of the firewall that fails stops nothing. -/
theorem tryRule_ok (project name ports : String) (w : World σ) :
    ((ctx.tryRule project name ports).run w).1 = .ok () := by
  simp only [tryRule, tryCatch, tryCatchThe, MonadExceptOf.tryCatch, ExceptT.tryCatch,
    ExceptT.run, ExceptT.mk, bind, StateT.bind]
  split
  next r w' h =>
    cases r <;> rfl

end Context

/-- A procedure is **carried out** for a command. -/
def Procedure.perform {σ : Type} (p : Procedure) (ctx : Context σ) (command : Command) :
    Session σ CommandFault Unit :=
  match p with
  | configure => ctx.configure
  | deploy => ctx.deploy
  | start => ctx.start
  | stop => ctx.stop
  | restart => ctx.restart
  | clean => ctx.clean
  | info => ctx.showInfo
  | cloudSocialGraph => Session.info "nothing to be done for gcp"
  | cloudMetrics => ctx.metrics command
  | cloudWorkload => ctx.cloudWorkload command
  | localSocialGraph => ctx.localSocialGraph
  | localMetrics => ctx.metrics command
  | localWorkload => ctx.localWorkload command
  | storageBuild => ctx.storageBuild
  | storageRun => ctx.storageRun
  | storageClean => ctx.storageClean
  | nothing => Session.info "nothing to be done for local"

end GeoBench.Deployment
