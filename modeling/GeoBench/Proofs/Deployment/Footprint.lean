import GeoBench.Deployment.Procedures
import GeoBench.Proofs.Machine.Confined

/-!
# What a deployment touches

Between its calls, the setting up of a deployment makes directories, writes the generated files and
copies the playbooks' configuration into the home directory; it touches nothing else, wherever it
ends and wherever links lead. Which calls are allowed and along which paths files may be touched are
parameters, so that each part can be judged alone: a part that is allowed no call makes none.

## Parts

A deployment falls into the part that makes files ready, the part that generates them, and the
installation. Each is a procedure by itself (`Context.arrange`, `Context.generate`,
`Context.install`), and `deploy_eq` puts them together. A part is confined by the calls that it may
make and by the paths that it may touch; confinement can be loosened, so that each part is judged by
its own and the whole by the union.

A generated file is read from one path and written along another. It touches the second one only,
and the first one matters for what is written, not for where.

## Main results

* `confined_writeOutput` — a generated file touches the file along its own path.
* `Context.confined_awaitGate` — a gate touches nothing, by induction on the seconds that are left.
* `Context.confined_deploy` — the setting up as a whole.
-/

namespace GeoBench

open GeoBench.Machine

variable {σ : Type} {allowed : Invocation → Prop} {apart : Surroundings → Set Path}

namespace Readiness

/-- A poll is confined if its probe is. The induction is on the seconds that are left. -/
theorem confined_pollFrom {dimension : Dimension} {target : Nat} {limits : Limits} {pacer : Pacer}
    {probe : Session σ CallFault Nat} (hprobe : Confined allowed apart probe) (attempts : UInt32)
    (left : Nat) :
    Confined allowed apart (pollFrom dimension target limits pacer probe attempts left) := by
  induction left using Nat.strongRecOn generalizing attempts with
  | _ left ih =>
      rw [pollFrom]
      refine .bind (.debug _) fun _ => .bind (.wait _ _ _) fun _ => .bind (.debug _) fun _ =>
        .bind (.withFault hprobe) fun actual => ?_
      dsimp only
      split
      · exact .bind (.debug _) fun _ => .pure _
      · split
        · exact .bind (.debug _) fun _ => .throw _
        next hrest =>
          have hstep : 0 < step limits.interval left := step_pos limits.interval (by omega)
          exact .bind (.info _) fun _ => ih _ (by omega) _

/-- A gate that is waited for touches nothing. -/
theorem confined_await {g : Gate} (h : allowed g.status) (limits : Limits) (pacer : Pacer)
    (runner : Runner σ) : Confined allowed apart (g.await limits pacer runner) := by
  refine .bind (.info _) fun _ => .bind (confined_pollFrom ?_ _ _) fun _ => .bind (.info _)
    fun _ => .pure _
  exact .bind (.bind (.perform h) fun _ => .pure _) fun _ => .pure _

end Readiness

namespace Deployment

open GeoBench.Cloud GeoBench.Readiness

/-! ### Files -/

/-- A template that is read touches nothing. -/
theorem confined_readTemplate (path : Path) :
    Confined allowed apart (readTemplate path : Session σ TemplateFault String) :=
  .withFault (.readText _)

/-- A generated file is saved as a whole. -/
theorem writeOutput_eq (path : Path) (content : String) :
    (writeOutput path content : Session σ TemplateFault Unit) =
      Session.saveText .unwritable path content := by
  cases hparent : path.parent? <;> simp [writeOutput, Session.saveText, hparent]

/-- **A generated file** touches the file along its own path. -/
theorem confined_writeOutput {path : Path} (h : ∀ s, path ∈ apart s)
    (content : String) :
    Confined allowed apart (writeOutput path content : Session σ TemplateFault Unit) := by
  rw [writeOutput_eq]
  exact .saveText h

/-- A file is **rendered** from a template. -/
def renderFile {ε : Type} (template out : Path) (fault : ε → TemplateFault)
    (render : String → Except ε String) : Session σ TemplateFault Unit := do
  let source ← readTemplate template
  let text ← Session.withFault fault (Session.ofExcept (render source))
  writeOutput out text

/-- A file that is rendered touches its own path, and not that of its template. -/
theorem confined_renderFile {ε : Type} {template out : Path} {fault : ε → TemplateFault}
    {render : String → Except ε String} (h : ∀ s, out ∈ apart s) :
    Confined allowed apart (renderFile template out fault render : Session σ TemplateFault Unit) :=
  .bind (confined_readTemplate _) fun _ => .bind (.withFault (.ofExcept _)) fun _ =>
    confined_writeOutput h _

namespace Context

variable (ctx : Context σ)

/-! ### Calls -/

/-- A call in the foreground touches nothing itself. -/
theorem confined_run {i : Invocation} (h : allowed i) : Confined allowed apart (ctx.run i) :=
  .bind (.withFault (.perform h)) fun _ => .pure _

/-- What is waited for to settle touches nothing. -/
theorem confined_settle (millis : Nat) (message : String) :
    Confined allowed apart (ctx.settle millis message) := by
  rw [settle]
  split
  · exact .info _
  · exact .wait _ _ _

/-- A gate is waited for by asking for its status. -/
theorem confined_awaitGate {g : Gate} (h : allowed g.status) :
    Confined allowed apart (ctx.awaitGate g) := by
  rw [awaitGate]
  split
  · exact .bind (.info _) fun _ => .pure _
  · exact .withFault (Readiness.confined_await h _ _ _)

/-- The profile is at hand without a call. -/
theorem confined_profile : Confined allowed apart ctx.profile :=
  .withFault (.ofExcept _)

/-- A machine is looked up by the call that asks for its address. -/
theorem confined_hostOf {i : Instance} (h : ∀ p, allowed (describeCall p i)) :
    Confined allowed apart (ctx.hostOf i) := by
  rw [hostOf]
  split
  · exact .pure _
  · refine .bind ctx.confined_profile fun p => .bind (.withFault (.perform (h p))) fun answer => ?_
    split
    · exact .bind (.debug _) fun _ => .pure _
    · exact .throw _

/-! ### Generated files -/

/-- The settings of a region are one lookup and one file. -/
theorem confined_generateSettingsFor {region : String} {datastore : Instance}
    (hcalls : ∀ p, allowed (describeCall p datastore))
    (hpath : ∀ s, ctx.settingsPath region ∈ apart s) :
    Confined allowed apart (ctx.generateSettingsFor region datastore) :=
  .bind (ctx.confined_hostOf hcalls) fun _ =>
    .bind (.withFault (confined_renderFile hpath)) fun _ => .info _

/-- All machines, in the order in which they are looked up for the inventory. -/
def machines : List Instance :=
  let l := ctx.config.layout
  [l.storeManager, l.storeEurope, l.storeAmerica, l.appWorkload, l.appEurope, l.appAmerica]

/-- The addresses for the inventory are told in lookups of all machines. -/
theorem confined_hosts (h : ∀ p, ∀ i ∈ ctx.machines, allowed (describeCall p i)) :
    Confined allowed apart ctx.hosts :=
  .bind (ctx.confined_hostOf fun p => h p _ (by simp [machines])) fun _ =>
    .bind (ctx.confined_hostOf fun p => h p _ (by simp [machines])) fun _ =>
    .bind (ctx.confined_hostOf fun p => h p _ (by simp [machines])) fun _ =>
    .bind (ctx.confined_hostOf fun p => h p _ (by simp [machines])) fun _ =>
    .bind (ctx.confined_hostOf fun p => h p _ (by simp [machines])) fun _ =>
    .bind (ctx.confined_hostOf fun p => h p _ (by simp [machines])) fun _ => .pure _

/-- The inventory is made of lookups, and is one file. -/
theorem confined_generateInventory (hcalls : ∀ p i, allowed (describeCall p i))
    (hpath : ∀ s, ctx.config.inventoryPath ∈ apart s) :
    Confined allowed apart ctx.generateInventory :=
  .bind (ctx.confined_hosts fun p i _ => hcalls p i) fun _ => .bind ctx.confined_profile fun _ =>
    .bind (.withFault (confined_writeOutput hpath _)) fun _ => .info _

/-- The variables are one file, and nothing is called for it. -/
theorem confined_generateVars (timestamp? : Option String) (site? : Option Site)
    (hpath : ∀ s, ctx.config.varsPath ∈ apart s) :
    Confined allowed apart (ctx.generateVars timestamp? site?) :=
  .withFault (confined_renderFile hpath)

/-- The files that are **generated** for a deployment. -/
def generatedPaths : List Path :=
  [ctx.settingsPath "eu", ctx.settingsPath "us", ctx.config.inventoryPath, ctx.config.varsPath]

/-- Where the playbooks' configuration is copied **to**, seen from a home directory. -/
def homeConfigPath (home : String) : Path :=
  Path.sub ⟨home⟩ ".ansible.cfg"

/-- The path of the playbooks' configuration in the home directory, if there is one. -/
def homeConfigPaths (s : Surroundings) : Set Path :=
  {p | ∃ home, s.home? = some home ∧ p = homeConfigPath home}

/-- The place of the playbooks' configuration in the home directory, if there is one. -/
def homeConfig (s : Surroundings) : Set Place :=
  {at_ | ∃ home, s.home? = some home ∧ at_ = (homeConfigPath home).place s.cwd}

/-- The playbooks' configuration is copied to the home directory, if at all. -/
theorem confined_copyPlaybookConfig (hpaths : ∀ s, homeConfigPaths s ⊆ apart s) :
    Confined allowed apart ctx.copyPlaybookConfig := by
  rw [copyPlaybookConfig]
  split
  · exact .info _
  · refine .around_bind fun s => ?_
    split
    · exact .throw _
    next home hhome =>
      refine .bind (.withFault (.copyFile fun s' => ?_)) fun _ => .info _
      rintro rfl
      exact hpaths s' ⟨home, hhome, rfl⟩

/-! ### The setting up -/

/-- The paths along which the setting up of a deployment **may touch** files: those of the generated
files, and that of the playbooks' configuration. -/
def deploymentPaths (s : Surroundings) : Set Path :=
  {p | p ∈ ctx.generatedPaths} ∪ homeConfigPaths s

/-- What is made ready in the file tree before anything is generated. -/
def arrange : Session σ CommandFault Unit := do
  ctx.settle ctx.config.machinesSettleMillis "waiting for all machines to initialize"
  ctx.copyPlaybookConfig
  let tmp := ctx.config.tmpDir
  Session.withFault .system (Session.makeAll tmp)
  Session.info ("created " ++ tmp.text ++ " directory")

/-- All files of a deployment are **generated**. -/
def generate : Session σ CommandFault Unit := do
  ctx.generateSettings
  ctx.generateInventory
  ctx.generateVars none none

/-- Everything that comes before the installation. -/
def prepare : Session σ CommandFault Unit := do
  ctx.run (ctx.infrastructure "init")
  ctx.run (ctx.infrastructure "apply")
  ctx.arrange
  ctx.generate

/-- The playbook that **installs** everything on the machines. -/
def installation : Invocation :=
  ctx.playbook "install-machines.yml"

/-- Everything is installed on the machines, which then have to join the cluster. -/
def install : Session σ CommandFault Unit := do
  ctx.run ctx.installation
  let _ ← ctx.awaitGate (nodesGate ctx.config)

/-- A deployment is prepared, and then installed. -/
theorem deploy_eq : ctx.deploy = (ctx.prepare >>= fun _ => ctx.install) := by
  simp [deploy, prepare, arrange, generate, install, installation]

/-- What is made ready before anything is generated touches the playbooks' configuration. -/
theorem confined_arrange (hpaths : ∀ s, homeConfigPaths s ⊆ apart s) :
    Confined allowed apart ctx.arrange :=
  .bind (ctx.confined_settle _ _) fun _ => .bind (ctx.confined_copyPlaybookConfig hpaths) fun _ =>
    .bind (.withFault (.makeAll _)) fun _ => .info _

/-- The generation as a whole touches the generated files. -/
theorem confined_generate (hcalls : ∀ p i, allowed (describeCall p i))
    (hpaths : ∀ s, ∀ p ∈ ctx.generatedPaths, p ∈ apart s) : Confined allowed apart ctx.generate :=
  .bind (.bind
      (ctx.confined_generateSettingsFor (hcalls · _) fun s => hpaths s _ (by simp [generatedPaths]))
      fun _ => ctx.confined_generateSettingsFor (hcalls · _)
        fun s => hpaths s _ (by simp [generatedPaths]))
    fun _ => .bind
      (ctx.confined_generateInventory hcalls fun s => hpaths s _ (by simp [generatedPaths]))
      fun _ => ctx.confined_generateVars _ _ fun s => hpaths s _ (by simp [generatedPaths])

/-- Nothing is played before the installation. -/
theorem confined_prepare :
    Confined (fun i => i.program ≠ "ansible-playbook") ctx.deploymentPaths ctx.prepare := by
  have hplan : "terraform" ≠ "ansible-playbook" := by decide
  have hlookup : "gcloud" ≠ "ansible-playbook" := by decide
  exact .bind (ctx.confined_run hplan) fun _ => .bind (ctx.confined_run hplan) fun _ =>
    .bind (ctx.confined_arrange fun _ => Set.subset_union_right) fun _ =>
    ctx.confined_generate (fun _ _ => hlookup) fun _ _ hp => .inl hp

end Context

end Deployment

end GeoBench
