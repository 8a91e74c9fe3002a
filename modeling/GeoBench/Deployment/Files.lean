import GeoBench.Deployment.AppSettings
import GeoBench.Deployment.Context
import GeoBench.Deployment.Inventory

/-!
# Generated files

The files that a deployment needs are generated from templates: the settings of the application for
each region, the inventory of the machines, and the variables of the playbooks. A file is written by
one request, after everything that goes into it is there; only a write that falls short can leave a
part of it.

Every generation has the same shape: templates are read, addresses are looked up, a text is made of
both, and the text is written. A failure at any step ends the generation, with the files before it
written and those behind it as they were.
-/

namespace GeoBench.Deployment

open GeoBench.Machine GeoBench.Cloud

section

variable {σ : Type}

/-- The text of a **template**. -/
def readTemplate (path : Path) : Session σ TemplateFault String :=
  Session.withFault (.unreadable path) (Session.readText path)

/-- A generated file is **written**; its directory is made if it is missing. -/
def writeOutput (path : Path) (content : String) : Session σ TemplateFault Unit := do
  match path.parent? with
  | some parent => Session.withFault (.unwritable parent) (Session.makeAll parent)
  | none => pure ()
  Session.withFault (.unwritable path) (Session.writeText path content)

namespace Context

variable (ctx : Context σ)

/-- The template of the settings for a region. -/
def settingsTemplate (region : String) : Path :=
  ctx.config.path ("deploy/weaver/weaver-template-" ++ region ++ ".toml")

/-- The generated settings for a region. -/
def settingsPath (region : String) : Path :=
  ctx.config.tmpDir.sub ("weaver-gcp-" ++ region ++ ".toml")

/-- The **settings** for one region, with its datastore host. -/
def generateSettingsFor (region : String) (datastore : Instance) :
    Session σ CommandFault Unit := do
  let host ← ctx.hostOf datastore
  let path := ctx.settingsPath region
  Session.withFault .template do
    let template ← readTemplate (ctx.settingsTemplate region)
    let text ← Session.withFault .badSettings (Session.ofExcept (renderSettings template host))
    writeOutput path text
  Session.info ("generated app config for GCP at " ++ path.text)

/-- The settings for both regions. -/
def generateSettings : Session σ CommandFault Unit := do
  ctx.generateSettingsFor "eu" ctx.config.layout.storeEurope
  ctx.generateSettingsFor "us" ctx.config.layout.storeAmerica

/-- The addresses of all machines. -/
def hosts : Session σ CommandFault Hosts := do
  let layout := ctx.config.layout
  return {
    storeManager := ← ctx.hostOf layout.storeManager
    storeEurope := ← ctx.hostOf layout.storeEurope
    storeAmerica := ← ctx.hostOf layout.storeAmerica
    appWorkload := ← ctx.hostOf layout.appWorkload
    appEurope := ← ctx.hostOf layout.appEurope
    appAmerica := ← ctx.hostOf layout.appAmerica }

/-- The **inventory** of all machines. -/
def generateInventory : Session σ CommandFault Unit := do
  let hosts ← ctx.hosts
  let p ← ctx.profile
  let path := ctx.config.inventoryPath
  Session.withFault .template (writeOutput path (renderInventory hosts p.username))
  Session.info ("generated ansible inventory for GCP at '" ++ path.text ++ "'")

/-- The **variables** of the playbooks. -/
def generateVars (timestamp? : Option String) (site? : Option Site) :
    Session σ CommandFault Unit :=
  Session.withFault .template do
    let template ← readTemplate (ctx.config.path "deploy/ansible/vars.yml")
    let text ← Session.withFault .badVars
      (Session.ofExcept (renderVars template
        { baseDir := ctx.config.baseDir.text, timestamp?, site? }))
    writeOutput ctx.config.varsPath text

/-- The playbooks' own configuration is copied into the home directory. A dry run only tells of
it. -/
def copyPlaybookConfig : Session σ CommandFault Unit := do
  let source := ctx.config.path "deploy/ansible/ansible.cfg"
  if ctx.config.dryRun then
    Session.info ("[dry-run] copy " ++ source.text ++ " to ~/.ansible.cfg")
  else
    match (← Session.around).home? with
    | none => throw (.system (.remark "HOME is not set"))
    | some home =>
      Session.withFault .system (Session.copyFile source (Path.sub ⟨home⟩ ".ansible.cfg"))
      Session.info ("copied " ++ source.text ++ " to ~/.ansible.cfg")

end Context

end

end GeoBench.Deployment
