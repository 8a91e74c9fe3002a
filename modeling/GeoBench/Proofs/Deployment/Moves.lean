import GeoBench.Proofs.Deployment.Collection
import GeoBench.Proofs.Deployment.WorkloadRun
import GeoBench.Registry

/-!
# What a command may do

All that any command may do is listed once: the moves that it may make, and the faults that it may
fail with, each with the condition that it depends on. Some depend on the command: only a clean
removes something, only a workload keeps an output. Some depend on the run being dry: then nothing
is waited for, looked up or copied, no call fails, and what is kept is the output of calls that gave
nothing. That every command keeps to the list is proved by following the way in which commands are
put together, with one case for each procedure.

## Conditions on moves

The list is made so that later statements can be read off it. A move is listed with everything that
is needed to judge it: a file is generated along one of four paths; an output is kept only for a
workload, and is empty in a dry run; a report is kept under the time stamp that the command carries,
or under that of the clock for a workload on this computer. A lookup is listed apart from the other
calls, since none is made in a dry run.

## What the list is for

What a dry run does (`GeoBench.Proofs.Deployment.DryRun`), what a history of commands may change
(`GeoBench.Proofs.Deployment.History`) and which commands need a profile
(`GeoBench.Proofs.Deployment.ProfileNeed`) are all proved from the list by looking at its cases. A
procedure that changes needs its own case here, and the list only if it makes a new kind of move.

## Main results

* `Context.within_runWorkload`, `Context.within_collectMetrics` — the parts that keep results.
* `Procedure.permitted_perform` — the procedures, with one case for each of them.
* `Registry.permitted_dispatch` — whatever is dispatched keeps to the list.
-/

namespace GeoBench

open GeoBench.Machine GeoBench.Cloud

variable {σ : Type}

namespace Deployment

open GeoBench.Evaluation GeoBench.Readiness

/-! ### What may be called -/

/-- The listings of the members of the cluster, asked of some machine. -/
def IsListing (i : Invocation) : Prop :=
  ∃ machine : Instance, i = machine.nodeListing ∨ i = machine.serviceListing

/-- A listing is told from a lookup by its second argument. -/
theorem IsListing.ne_describeCall {i : Invocation} (h : IsListing i) (p : Profile)
    (machine : Instance) : i ≠ Context.describeCall p machine := by
  have hne : some "ssh" ≠ some "instances" := by decide
  rintro rfl
  obtain ⟨_, heq | heq⟩ := h
  · exact hne (congrArg (fun i => i.arguments[1]?) heq).symm
  · exact hne (congrArg (fun i => i.arguments[1]?) heq).symm

/-- A call that looks up no address and lists no members of the cluster. -/
structure IsPlain (i : Invocation) : Prop where
  no_lookup : ∀ p machine, i ≠ Context.describeCall p machine
  no_listing : ¬ IsListing i

/-- Lookups and listings are told by their second argument. -/
theorem isPlain_of_arguments {i : Invocation} {second? : Option String}
    (h : i.arguments[1]? = second?) (hlookup : second? ≠ some "instances")
    (hlisting : second? ≠ some "ssh") : IsPlain i where
  no_lookup p machine := by
    rintro rfl
    exact hlookup h.symm
  no_listing := by
    rintro ⟨machine, rfl | rfl⟩
    · exact hlisting h.symm
    · exact hlisting h.symm

namespace Context

variable (ctx : Context σ)

/-- A call for the infrastructure is plain unless it looks something up. -/
theorem isPlain_infrastructure {action : String} (hlookup : action ≠ "instances")
    (hlisting : action ≠ "ssh") : IsPlain (ctx.infrastructure action) :=
  isPlain_of_arguments rfl (fun h => hlookup (Option.some.inj h))
    fun h => hlisting (Option.some.inj h)

/-- So is a playbook. -/
theorem isPlain_playbook (name : String) : IsPlain (ctx.playbook name) :=
  isPlain_of_arguments (show _ = some "-i" from rfl) (by decide) (by decide)

/-! ### The list -/

/-- The time stamps that a command keeps a **report** under: the one that it carries, or for a
workload on this computer the one of the clock. -/
def Reports (command : Command) (s : Surroundings) (timestamp : String) : Prop :=
  command.timestamp? = some timestamp ∨
    command.verb = .workload ∧ ctx.config.site = .localhost ∧ timestamp = s.clock

/-- All **moves** that a command may make. -/
inductive May (command : Command) (s : Surroundings) : Move → Prop
  | say (u : Utterance) : May command s (.say u)
  | pass (hdry : ctx.config.dryRun = false) (n : Nat) (message : String) :
      May command s (.pass ctx.pacer n message)
  | call (mode : Mode) {i : Invocation} (hplain : IsPlain i) : May command s (.call mode i)
  | lookup (hdry : ctx.config.dryRun = false) (p : Profile) (machine : Instance) :
      May command s (.call .output (describeCall p machine))
  | status (hdry : ctx.config.dryRun = false) {i : Invocation} (hlisting : IsListing i) :
      May command s (.call .output i)
  | list (hverb : command.verb = .info) {i : Invocation} (hlisting : IsListing i) :
      May command s (.call .run i)
  | makeAll (p : Path) : May command s (.makeAll p)
  | generate {p : Path} (hp : p ∈ ctx.generatedPaths) (text : String) :
      May command s (.write p text)
  | keepOutput (hverb : command.verb = .workload) (text : String)
      (hdry : ctx.runner = dryRun → text = "") :
      May command s (.write (outputPath ctx.config s.clock) text)
  | keepReport {timestamp : String} (hnamed : ctx.Reports command s timestamp) (r : Report)
      (hdry : ctx.runner = dryRun → r = Report.nothing) :
      May command s (.write (reportPath ctx.config timestamp) r.toRecord)
  | copy (hdry : ctx.config.dryRun = false) {home : String} (hhome : s.home? = some home) :
      May command s
        (.copy (ctx.config.path "deploy/ansible/ansible.cfg") (homeConfigPath home))
  | remove (hverb : command.verb = .clean) : May command s (.remove ctx.config.tmpDir)

/-- All **faults** that a command may fail with. -/
inductive MayFail : CommandFault → Prop
  | missingProfile (hprofile : ctx.config.profile? = none) : MayFail (.config .missingProfile)
  | noAddress (hdry : ctx.config.dryRun = false) (machine : String) :
      MayFail (.config (.noAddress machine))
  | unsupported (verb site : String) : MayFail (.config (.unsupported verb site))
  | call (hrunner : ctx.runner ≠ dryRun) (cause : CallFault) : MayFail (.call cause)
  | noSource (hrunner : ctx.runner ≠ dryRun) (metric : Metric) (cause : CallFault) :
      MayFail (.report (.noSource metric cause))
  | notKept (path : Path) (cause : Fault) : MayFail (.report (.notKept path cause))
  | readiness (hdry : ctx.config.dryRun = false) (cause : PollFault) : MayFail (.readiness cause)
  | template (cause : TemplateFault) : MayFail (.template cause)
  | workload (hdry : ctx.config.dryRun = false) (text : String) : MayFail (.workload text)
  | system (cause : Fault) : MayFail (.system cause)

/-- A session that keeps to what a command **may** do. -/
def Permitted {α : Type} (command : Command) (x : Session σ CommandFault α) : Prop :=
  Within ctx.runner (ctx.May command) ctx.MayFail x

end Context

/-! ### What commands share -/

/-- A poll waits and probes, and only tells of details. The induction is on the seconds that are
left. -/
theorem within_pollFrom {runner : Runner σ} {may : Surroundings → Move → Prop}
    {dimension : Dimension} {target : Nat} {limits : Limits} {pacer : Pacer}
    {fails : CallFault → Prop} {probe : Session σ CallFault Nat} (hsay : ∀ s u, may s (.say u))
    (hpass : ∀ s n message, may s (.pass pacer n message))
    (hprobe : Within runner may fails probe) (attempts : UInt32) (left : Nat) :
    Within runner may (fun _ => True)
      (pollFrom dimension target limits pacer probe attempts left) := by
  induction left using Nat.strongRecOn generalizing attempts with
  | _ left ih =>
      rw [pollFrom]
      refine .bind (.debug fun s => hsay s _) fun _ => .bind (.wait fun s => hpass s _ _) fun _ =>
        .bind (.debug fun s => hsay s _) fun _ =>
        .bind (.withFault hprobe fun _ _ => trivial) fun actual => ?_
      dsimp only
      split
      · exact .bind (.debug fun s => hsay s _) fun _ => .pure _
      · split
        · exact .bind (.debug fun s => hsay s _) fun _ => .throw trivial
        next hrest =>
          have hstep : 0 < step limits.interval left := step_pos limits.interval (by omega)
          exact .bind (.info fun s => hsay s _) fun _ => ih _ (by omega) _

namespace Context

variable (ctx : Context σ) {command : Command}

/-- Telling is always permitted. -/
theorem permitted_info (message : String) : ctx.Permitted command (Session.info message) :=
  .info fun _ => .say _

/-- So is printing. -/
theorem permitted_printLine (text : String) : ctx.Permitted command (Session.printLine text) :=
  .printLine fun _ => .say _

/-- A call in the foreground is permitted if the call is. -/
theorem permitted_run {i : Invocation} (h : ∀ s, ctx.May command s (.call .run i)) :
    ctx.Permitted command (ctx.run i) :=
  .bind (.withFault (.perform h) fun cause hrunner => .call hrunner cause) fun _ => .pure _

/-- Plain calls are permitted to every command. -/
theorem permitted_plain {i : Invocation} (h : IsPlain i) : ctx.Permitted command (ctx.run i) :=
  ctx.permitted_run fun _ => .call _ h

/-- Playbooks are plain. -/
theorem permitted_playbook (name : String) : ctx.Permitted command (ctx.run (ctx.playbook name)) :=
  ctx.permitted_plain (ctx.isPlain_playbook name)

/-- What is waited for to settle is time that passes, or a line in a dry run. -/
theorem permitted_settle (millis : Nat) (message : String) :
    ctx.Permitted command (ctx.settle millis message) := by
  rw [settle]
  split
  · exact ctx.permitted_info _
  next hdry => exact .wait fun _ => .pass (Bool.eq_false_iff.mpr hdry) _ _

/-- A gate is not asked about in a dry run. -/
theorem permitted_awaitGate {g : Gate} (h : IsListing g.status) :
    ctx.Permitted command (ctx.awaitGate g) := by
  rw [awaitGate]
  split
  · exact .bind (ctx.permitted_info _) fun _ => .pure _
  next hdry =>
    have hdry := Bool.eq_false_iff.mpr hdry
    have hprobe : Within ctx.runner (ctx.May command) (fun _ => ctx.runner ≠ dryRun)
        (do return (← g.check ctx.runner).actual) :=
      .bind (.bind (.perform fun _ => .status hdry h) fun _ => .pure _) fun _ => .pure _
    have hawait : Within ctx.runner (ctx.May command) (fun _ => True)
        (g.await ctx.config.readiness ctx.pacer ctx.runner) :=
      .bind (.info fun _ => .say _) fun _ =>
        .bind (within_pollFrom (fun _ => .say) (fun _ => .pass hdry) hprobe _ _) fun _ =>
        .bind (.info fun _ => .say _) fun _ => .pure _
    exact .withFault hawait fun cause _ => .readiness hdry cause

/-- The status of the nodes is a listing. -/
theorem isListing_nodes : IsListing (nodesGate ctx.config).status :=
  ⟨_, .inl rfl⟩

/-- The status of the services is a listing. -/
theorem isListing_services : IsListing (servicesGate ctx.config).status :=
  ⟨_, .inr rfl⟩

/-- Reading the profile makes no move. -/
theorem permitted_profile : ctx.Permitted command ctx.profile := by
  refine .withFault (.ofExcept fun f hf => hf) fun f hf => ?_
  rw [Config.requireProfile] at hf
  split at hf
  · cases hf
  next hprofile =>
    rw [← Except.error.inj hf]
    exact .missingProfile hprofile

/-- An address is not looked up in a dry run. -/
theorem permitted_hostOf (i : Instance) : ctx.Permitted command (ctx.hostOf i) := by
  rw [hostOf]
  split
  · exact .pure _
  next hdry =>
    have hdry := Bool.eq_false_iff.mpr hdry
    refine .bind ctx.permitted_profile fun p => .bind (.withFault
      (.perform fun _ => .lookup hdry p i) fun cause hrunner => .call hrunner cause) fun _ => ?_
    split
    · exact .bind (.debug fun _ => .say _) fun _ => .pure _
    · exact .throw (.noAddress hdry _)

/-! ### Generated files -/

/-- Writing a generated file makes its directory and writes it. -/
theorem within_writeOutput {path : Path} (h : path ∈ ctx.generatedPaths) (content : String) :
    Within ctx.runner (ctx.May command) (fun _ => True)
      (writeOutput path content : Session σ TemplateFault Unit) := by
  rw [writeOutput_eq]
  exact .saveText (fun _ => .makeAll) (fun _ => .generate h _) fun _ _ => trivial

/-- Rendering a file reads its template besides. -/
theorem within_renderFile {ε : Type} {template out : Path} {fault : ε → TemplateFault}
    {render : String → Except ε String} (h : out ∈ ctx.generatedPaths) :
    Within ctx.runner (ctx.May command) (fun _ => True)
      (renderFile template out fault render : Session σ TemplateFault Unit) := by
  have hread : Within ctx.runner (ctx.May command) (fun _ => True)
      (Session.readText template : Session σ Fault String) :=
    .bind (.ask _) fun _ => .ofExcept fun _ _ => trivial
  have hrender : ∀ source, Within ctx.runner (ctx.May command) (fun _ => True)
      (Session.ofExcept (render source) : Session σ ε String) :=
    fun _ => .ofExcept fun _ _ => trivial
  exact .bind (.withFault hread fun _ _ => trivial) fun source =>
    .bind (.withFault (hrender source) fun _ _ => trivial) fun _ => ctx.within_writeOutput h _

/-- The settings of a region are a lookup and a file. -/
theorem permitted_generateSettingsFor {region : String} {datastore : Instance}
    (h : ctx.settingsPath region ∈ ctx.generatedPaths) :
    ctx.Permitted command (ctx.generateSettingsFor region datastore) :=
  .bind (ctx.permitted_hostOf _) fun _ =>
    .bind (.withFault (ctx.within_renderFile h) fun cause _ => .template cause) fun _ =>
    ctx.permitted_info _

/-- The settings of both regions. -/
theorem permitted_generateSettings : ctx.Permitted command ctx.generateSettings :=
  .bind (ctx.permitted_generateSettingsFor (by simp [generatedPaths])) fun _ =>
    ctx.permitted_generateSettingsFor (by simp [generatedPaths])

/-- The addresses of all machines are lookups. -/
theorem permitted_hosts : ctx.Permitted command ctx.hosts :=
  .bind (ctx.permitted_hostOf _) fun _ => .bind (ctx.permitted_hostOf _) fun _ =>
    .bind (ctx.permitted_hostOf _) fun _ => .bind (ctx.permitted_hostOf _) fun _ =>
    .bind (ctx.permitted_hostOf _) fun _ => .bind (ctx.permitted_hostOf _) fun _ => .pure _

/-- The inventory is lookups and a file. -/
theorem permitted_generateInventory : ctx.Permitted command ctx.generateInventory := by
  have hpath : ctx.config.inventoryPath ∈ ctx.generatedPaths := by simp [generatedPaths]
  exact .bind ctx.permitted_hosts fun _ => .bind ctx.permitted_profile fun _ =>
    .bind (.withFault (ctx.within_writeOutput hpath _) fun cause _ => .template cause) fun _ =>
    ctx.permitted_info _

/-- The variables are a file. -/
theorem permitted_generateVars (timestamp? : Option String) (site? : Option Site) :
    ctx.Permitted command (ctx.generateVars timestamp? site?) := by
  have hpath : ctx.config.varsPath ∈ ctx.generatedPaths := by simp [generatedPaths]
  exact .withFault (ctx.within_renderFile hpath) fun cause _ => .template cause

/-- The playbooks' configuration is not copied in a dry run. -/
theorem permitted_copyPlaybookConfig : ctx.Permitted command ctx.copyPlaybookConfig := by
  rw [copyPlaybookConfig]
  split
  · exact ctx.permitted_info _
  next hdry =>
    have hdry := Bool.eq_false_iff.mpr hdry
    refine .around_bind fun s => ?_
    split
    · exact .throw (.system _)
    next home hhome =>
      refine .bind (.withFault (.copyFile ?_) fun cause _ => .system cause) fun _ =>
        (ctx.permitted_info _).given
      rintro s' rfl
      exact .copy hdry hhome

/-! ### Results that are kept -/

/-- In a dry run a call gives an empty output, whatever is called. -/
theorem gives_perform (runner : Runner σ) (mode : Mode) (i : Invocation) :
    Gives (fun text => runner = dryRun → text = "") (Session.perform runner mode i) := by
  intro w text v hrun
  rintro rfl
  exact Gives.perform mode i w text v hrun

/-- The report of a dry run is the one on nothing. -/
theorem gives_report (s : Source) :
    Gives (fun r => ctx.runner = dryRun → r = Report.nothing) (aggregate ctx.runner s) := by
  intro w r v hrun hrunner
  rw [hrunner] at hrun
  exact gives_aggregate s w r v hrun

/-- **A workload run** keeps what the load generator wrote, under the time stamp of the clock. -/
theorem within_runWorkload {given : Surroundings → Prop} (hverb : command.verb = .workload)
    (url : String) (p : WorkloadParameters) {timestamp : String}
    (h : ∀ s, given s → timestamp = s.clock) :
    Within ctx.runner (fun s m => given s → ctx.May command s m) ctx.MayFail
      (runWorkload ctx.config ctx.runner url p timestamp) := by
  refine .bind (.ask _) fun there => ?_
  split
  next hmissing =>
    rw [Bool.and_eq_true, Bool.not_eq_true'] at hmissing
    exact .throw (.workload hmissing.1 _)
  · refine .bind (.info fun _ _ => .say _) fun _ => ?_
    have hplain : IsPlain (generator ctx.config url p) :=
      isPlain_of_arguments (show _ = some "exp" from rfl) (by decide) (by decide)
    refine .bind_of_gives (.withFault (.perform fun _ _ => .call _ hplain) fun cause hrunner =>
      .call hrunner cause) (.withFault (gives_perform _ _ _)) fun output houtput => ?_
    refine .bind (.withFault (.makeAll fun _ _ => .makeAll _) fun cause _ => .system cause) fun _ =>
      .bind (.withFault (.writeText ?_) fun cause _ => .system cause) fun _ =>
      .bind (.printLine fun _ _ => .say _) fun _ => .bind (.info fun _ _ => .say _) fun _ => .pure _
    intro s hgiven
    rw [h s hgiven]
    exact .keepOutput hverb output houtput

/-- Tables may be asked for by any command. -/
theorem May.of_mayAsk {s : Surroundings} {source : Source} {m : Move} (h : source.MayAsk m) :
    ctx.May command s m := by
  cases h with
  | call metric =>
      exact .call _
        (isPlain_of_arguments (show _ = some "metrics" from rfl) (by decide) (by decide))
  | detail message => exact .say _

/-- **The metrics are collected**, and the report is kept under a time stamp if there is one. -/
theorem within_collectMetrics {given : Surroundings → Prop} {timestamp? : Option String}
    (h : ∀ s, given s → ∀ timestamp ∈ timestamp?, ctx.Reports command s timestamp) :
    Within ctx.runner (fun s m => given s → ctx.May command s m) ctx.MayFail
      (ctx.collectMetrics timestamp?) := by
  have haggregate : Within ctx.runner (fun s m => given s → ctx.May command s m)
      (fun f => ctx.MayFail (.report f)) (aggregate ctx.runner
        ⟨ctx.config.runtimeProgram, ctx.config.runtimeDeployer⟩) := by
    refine (within_aggregate ctx.runner _).mono (fun s m hm _ => .of_mayAsk ctx hm) ?_
    rintro _ ⟨hrunner, m, cause, rfl⟩
    exact .noSource hrunner m cause
  refine .withFault (.bind_of_gives haggregate (ctx.gives_report _) fun report hreport =>
    .bind ((within_publish ctx.config report timestamp? ctx.runner).mono ?_ ?_) fun _ => .pure _)
    fun _ hf => hf
  · rintro s m (⟨u, rfl⟩ | ⟨timestamp, htimestamp, hm⟩) hgiven
    · exact .say u
    · cases hm with
      | makeAll q => exact .makeAll q
      | write => exact .keepReport (h s hgiven timestamp htimestamp) report hreport
      | tell message => exact .say _
  · rintro _ ⟨path, cause, rfl⟩
    exact .notKept path cause

/-! ### Procedures -/

/-- A rule of the firewall is one call; its failure is a line of the log. -/
theorem permitted_tryRule (project name ports : String) :
    ctx.Permitted command (ctx.tryRule project name ports) := by
  have hplain : IsPlain (firewallCall project name ports) :=
    isPlain_of_arguments (show _ = some "--project" from rfl) (by decide) (by decide)
  exact .tryCatch (.bind (.withFault (.perform fun _ => .call _ hplain) fun _ _ => trivial)
    fun _ => .pure _) fun _ => .log fun _ => .say _

/-- The firewall is opened rule by rule. -/
theorem permitted_configure : ctx.Permitted command ctx.configure :=
  .bind ctx.permitted_profile fun _ => .bind (ctx.permitted_info _) fun _ =>
    .forM fun _ => ctx.permitted_tryRule _ _ _

/-- A deployment generates its files and copies the playbooks' configuration. -/
theorem permitted_deploy : ctx.Permitted command ctx.deploy :=
  .bind (ctx.permitted_plain (ctx.isPlain_infrastructure (by decide) (by decide))) fun _ =>
    .bind (ctx.permitted_plain (ctx.isPlain_infrastructure (by decide) (by decide))) fun _ =>
    .bind (ctx.permitted_settle _ _) fun _ => .bind ctx.permitted_copyPlaybookConfig fun _ =>
    .bind (.withFault (.makeAll fun _ => .makeAll _) fun cause _ => .system cause) fun _ =>
    .bind (ctx.permitted_info _) fun _ => .bind ctx.permitted_generateSettings fun _ =>
    .bind ctx.permitted_generateInventory fun _ => .bind (ctx.permitted_generateVars _ _) fun _ =>
    .bind (ctx.permitted_playbook _) fun _ =>
    .bind (ctx.permitted_awaitGate ctx.isListing_nodes) fun _ => .pure _

/-- The start plays and waits for gates. -/
theorem permitted_start : ctx.Permitted command ctx.start :=
  .bind (ctx.permitted_playbook _) fun _ =>
    .bind (ctx.permitted_awaitGate ctx.isListing_services) fun _ => ctx.permitted_playbook _

/-- The stop plays. -/
theorem permitted_stop : ctx.Permitted command ctx.stop :=
  .bind (ctx.permitted_playbook _) fun _ => ctx.permitted_playbook _

/-- A clean is the only command that removes. -/
theorem permitted_clean (hverb : command.verb = .clean) : ctx.Permitted command ctx.clean := by
  refine .bind (ctx.permitted_plain (ctx.isPlain_infrastructure (by decide) (by decide))) fun _ =>
    .bind (.ask _) fun _ => ?_
  split
  · exact .bind (.withFault (.removeDirectory fun _ => .remove hverb)
      fun cause _ => .system cause) fun _ => ctx.permitted_info _
  · exact .pure _

/-- What is told of a machine is its address. -/
theorem permitted_tell (what : String) (machine : Instance) (ending : String) :
    ctx.Permitted command (ctx.tell what machine ending) :=
  .bind (ctx.permitted_hostOf _) fun _ => ctx.permitted_printLine _

/-- The summary is told from lookups and printed. -/
theorem permitted_showInfo (hverb : command.verb = .info) :
    ctx.Permitted command ctx.showInfo :=
  .bind (ctx.permitted_run fun _ => .list hverb ⟨_, .inl rfl⟩) fun _ =>
    .bind (ctx.permitted_run fun _ => .list hverb ⟨_, .inr rfl⟩) fun _ =>
    .bind (ctx.permitted_printLine _) fun _ => .bind (ctx.permitted_tell _ _ _) fun _ =>
    .bind (ctx.permitted_tell _ _ _) fun _ => .bind (ctx.permitted_tell _ _ _) fun _ =>
    .bind (ctx.permitted_printLine _) fun _ => .bind (ctx.permitted_tell _ _ _) fun _ =>
    .bind (ctx.permitted_tell _ _ _) fun _ => ctx.permitted_tell _ _ _

/-- The metrics of a command keep a report if it carries a time stamp. -/
theorem permitted_metrics : ctx.Permitted command (ctx.metrics command) := by
  have hreports : ∀ s : Surroundings, True → ∀ timestamp ∈ command.timestamp?,
      ctx.Reports command s timestamp := fun _ _ _ htimestamp => .inl htimestamp
  exact .bind ((ctx.within_collectMetrics hreports).mono (fun _ _ hmay => hmay trivial)
    fun _ hf => hf) fun _ => .pure _

/-- The gathering writes the variables and plays. -/
theorem permitted_gather (timestamp : String) : ctx.Permitted command (ctx.gather timestamp) :=
  .bind (ctx.permitted_generateVars _ _) fun _ => .bind (ctx.permitted_playbook _) fun _ =>
    ctx.permitted_info _

/-- A workload on the cloud deployment keeps its output. -/
theorem permitted_cloudWorkload (hverb : command.verb = .workload) :
    ctx.Permitted command (ctx.cloudWorkload command) := by
  refine .bind (ctx.permitted_hostOf _) fun _ => .around_bind fun s => ?_
  have hclock : ∀ s', s' = s → s.clock = s'.clock := fun _ heq => by rw [heq]
  exact .bind (ctx.within_runWorkload hverb _ _ hclock) fun _ => (ctx.permitted_gather _).given

/-- A workload on this computer keeps its output, and a report beside it. -/
theorem permitted_localWorkload (hverb : command.verb = .workload)
    (hsite : ctx.config.site = .localhost) :
    ctx.Permitted command (ctx.localWorkload command) := by
  refine .around_bind fun s => ?_
  have hclock : ∀ s', s' = s → s.clock = s'.clock := fun _ heq => by rw [heq]
  have hreports : ∀ s', s' = s → ∀ timestamp ∈ some s.clock, ctx.Reports command s' timestamp := by
    rintro s' rfl timestamp htimestamp
    exact .inr ⟨hverb, hsite, (Option.some.inj htimestamp).symm⟩
  exact .bind (ctx.within_runWorkload hverb _ _ hclock) fun _ =>
    .bind (ctx.within_collectMetrics hreports) fun _ => .pure _

/-- The social graph is filled by one call. -/
theorem permitted_localSocialGraph : ctx.Permitted command ctx.localSocialGraph :=
  ctx.permitted_plain (isPlain_of_arguments (show _ = none from rfl) nofun nofun)

/-- Each image of the datastores is built by one call. -/
theorem permitted_storageBuild : ctx.Permitted command ctx.storageBuild :=
  .forM fun _ => ctx.permitted_plain
    (isPlain_of_arguments (show _ = some "-t" from rfl) (by decide) (by decide))

/-- The datastores are run by one call, and then waited for. -/
theorem permitted_storageRun : ctx.Permitted command ctx.storageRun :=
  .bind (ctx.permitted_plain
    (isPlain_of_arguments (show _ = some "-d" from rfl) (by decide) (by decide)))
    fun _ => ctx.permitted_settle _ _

/-- The datastores are removed by one call. -/
theorem permitted_storageClean : ctx.Permitted command ctx.storageClean :=
  ctx.permitted_plain (isPlain_of_arguments (show _ = none from rfl) nofun nofun)

end Context

end Deployment

open GeoBench.Deployment

/-- What is taken for granted of the target and the verb that a procedure is carried out for. -/
def Deployment.Procedure.Suits : Procedure → Site → Verb → Prop
  | clean, _, verb => verb = .clean
  | info, _, verb => verb = .info
  | cloudWorkload, _, verb => verb = .workload
  | localWorkload, site, verb => site = .localhost ∧ verb = .workload
  | _, _, _ => True

/-- The procedures that are registered suit their targets and verbs. -/
theorem Registry.suits_of_find? {site : Site} {verb : Verb} {p : Procedure}
    (h : Registry.standard.find? site verb = some p) : p.Suits site verb := by
  cases site <;> cases verb <;> cases h <;> simp [Procedure.Suits]

/-- **Every procedure** keeps to what the command may do. -/
theorem Deployment.Procedure.permitted_perform {p : Procedure} {ctx : Context σ} {command : Command}
    (h : p.Suits ctx.config.site command.verb) : ctx.Permitted command (p.perform ctx command) := by
  cases p with
  | configure => exact ctx.permitted_configure
  | deploy => exact ctx.permitted_deploy
  | start => exact ctx.permitted_start
  | stop => exact ctx.permitted_stop
  | restart => exact .bind ctx.permitted_stop fun _ => ctx.permitted_start
  | clean => exact ctx.permitted_clean h
  | info => exact ctx.permitted_showInfo h
  | cloudSocialGraph => exact ctx.permitted_info _
  | cloudMetrics => exact ctx.permitted_metrics
  | cloudWorkload => exact ctx.permitted_cloudWorkload h
  | localSocialGraph => exact ctx.permitted_localSocialGraph
  | localMetrics => exact ctx.permitted_metrics
  | localWorkload => exact ctx.permitted_localWorkload h.2 h.1
  | storageBuild => exact ctx.permitted_storageBuild
  | storageRun => exact ctx.permitted_storageRun
  | storageClean => exact ctx.permitted_storageClean
  | nothing => exact ctx.permitted_info _

/-- **Every dispatched command** keeps to what it may do. -/
theorem Registry.permitted_dispatch (ctx : Context σ) (command : Command) :
    ctx.Permitted command (Registry.standard.dispatch ctx command) := by
  rw [dispatch, resolve]
  cases hfind : Registry.standard.find? ctx.config.site command.verb with
  | none => exact .throw (.unsupported _ _)
  | some p => exact p.permitted_perform (suits_of_find? hfind)

/-- A command that something is registered for is that procedure. -/
theorem Registry.dispatch_eq_perform {ctx : Context σ} {command : Command} {p : Procedure}
    (h : Registry.standard.find? ctx.config.site command.verb = some p) :
    Registry.standard.dispatch ctx command = p.perform ctx command := by
  rw [dispatch, resolve, h]

/-- The command for metrics is registered for both targets, with the same procedure. -/
theorem Registry.dispatch_metrics (ctx : Context σ) (timestamp? : Option String) :
    Registry.standard.dispatch ctx (.metrics timestamp?) = ctx.metrics (.metrics timestamp?) := by
  cases hsite : ctx.config.site with
  | localhost =>
      exact (dispatch_eq_perform (p := .localMetrics) (by rw [hsite]; rfl)).trans rfl
  | cloud =>
      exact (dispatch_eq_perform (p := .cloudMetrics) (by rw [hsite]; rfl)).trans rfl

end GeoBench
