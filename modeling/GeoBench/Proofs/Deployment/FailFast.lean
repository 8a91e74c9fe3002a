import GeoBench.Proofs.Deployment.Context
import GeoBench.Proofs.Machine.FailFast
import GeoBench.Registry

/-!
# Commands that stop at their first failed call

Every command but one stops at its first failed call. The proof follows the way in which commands
are put together: what several of them share fails fast (a poll by induction on the seconds that are
left), so each procedure does, and so does whatever is dispatched. The exception is the opening of
the firewall, where each rule is attempted and a failure is only told.

## Sources of faults

A fault knows the failure of the call that it is owed to, if it is owed to one (`source?`). A
session fails fast if it makes no call after one that failed, and then fails with a fault that is
owed to that very call. So a command that fails for another reason, or succeeds, made no call that
failed.

Parts without calls fail fast because no fault of theirs is owed to a call. They are listed all the
same, one lemma for each: a part that came to make a call would need a new proof here.

## The exception

The opening of the firewall tries every rule, whatever became of the ones before, and tells each
failure in a line of the log. Its calls are told by attempts, one for each rule and in their order.

## Main results

* `Procedure.failFast_perform` — one case for each procedure.
* `Context.run_tryRules` — every rule of the firewall is tried, in order.
* `Registry.dispatch_stops_at_failure` — what a dispatched command does about failed calls.
-/

namespace GeoBench

open GeoBench.Machine

variable {σ : Type}

/-! ### The sources of faults -/

/-- The failed call that a failed poll comes from, if it comes from one. -/
def Readiness.PollFault.source? : Readiness.PollFault → Option CallFault
  | .timeout .. => none
  | .noStatus _ cause => some cause

/-- The failed call that a report is missing for, if it is missing for one. -/
def Evaluation.ReportFault.source? : Evaluation.ReportFault → Option CallFault
  | .noSource _ cause => some cause
  | .notKept .. => none

/-- The failed call that a command **fails for**, if it fails for one. -/
def Deployment.CommandFault.source? : Deployment.CommandFault → Option CallFault
  | .call cause => some cause
  | .report cause => cause.source?
  | .readiness cause => cause.source?
  | _ => none

/-! ### Polls -/

namespace Readiness

/-- A poll fails fast if its probe does. The induction is on the seconds that are left. -/
theorem failFast_pollFrom {dimension : Dimension} {target : Nat} {limits : Limits} {pacer : Pacer}
    {probe : Session σ CallFault Nat} (hprobe : FailFast some probe) (attempts : UInt32)
    (left : Nat) :
    FailFast PollFault.source? (pollFrom dimension target limits pacer probe attempts left) := by
  induction left using Nat.strongRecOn generalizing attempts with
  | _ left ih =>
      rw [pollFrom]
      refine .bind (.debug _) fun _ => .bind (.wait _ _ _) fun _ => .bind (.debug _) fun _ =>
        .bind (.withFault (fun _ => rfl) hprobe) fun actual => ?_
      dsimp only
      split
      · exact .bind (.debug _) fun _ => .pure _
      · split
        · exact .bind (.debug _) fun _ => .throw rfl
        next hrest =>
          have hstep : 0 < step limits.interval left := step_pos limits.interval (by omega)
          exact .bind (.info _) fun _ => ih _ (by omega) _

/-- A gate is waited for by calls of its status command. -/
theorem failFast_await (g : Gate) (limits : Limits) (pacer : Pacer) (runner : Runner σ) :
    FailFast PollFault.source? (g.await limits pacer runner) := by
  refine .bind (.info _) fun _ => .bind (failFast_pollFrom ?_ _ _) fun _ => .bind (.info _)
    fun _ => .pure _
  exact .bind (.bind (.perform _ _ _) fun _ => .pure _) fun _ => .pure _

end Readiness

/-! ### Reports -/

namespace Evaluation

/-- The table of one metric is one call. -/
theorem failFast_fetch (runner : Runner σ) (s : Source) (metric : Metric) :
    FailFast ReportFault.source? (fetch runner s metric) :=
  .bind (.withFault (fun _ => rfl) (.perform _ _ _)) fun _ =>
    .bind (.forM fun _ => .debug _) fun _ => .bind (.debug _) fun _ => .pure _

/-- The first table that cannot be had ends the aggregation. -/
theorem failFast_aggregate (runner : Runner σ) (s : Source) :
    FailFast ReportFault.source? (aggregate runner s) :=
  .bind (.mapM fun metric => failFast_fetch runner s metric) fun _ => .pure _

/-- A record is kept without a call. -/
theorem failFast_keep (evaluationDir : Path) (report : Report) (site timestamp : String) :
    FailFast ReportFault.source? (keep evaluationDir report site timestamp : Session σ _ _) := by
  have hwrite : FailFast ReportFault.source? (do
      Session.withFault (.notKept (recordPath evaluationDir site timestamp))
        (Session.writeText (recordPath evaluationDir site timestamp) report.toRecord)
      return recordPath evaluationDir site timestamp : Session σ ReportFault Path) :=
    .bind (.withFault (fun _ => rfl) (.writeText _ _)) fun _ => .pure _
  rw [keep]
  split
  · exact .bind (.withFault (fun _ => rfl) (.makeAll _)) fun _ => hwrite
  · exact hwrite

/-- A report is published without a call. -/
theorem failFast_publish (evaluationDir : Path) (format : Report.Format) (report : Report)
    (site : String) (timestamp? : Option String) :
    FailFast ReportFault.source?
      (publish evaluationDir format report site timestamp? : Session σ _ _) := by
  refine .bind (.printLine _) fun _ => ?_
  split
  · exact .bind (failFast_keep _ _ _ _) fun _ => .bind (.info _) fun _ => .pure _
  · exact .pure _

end Evaluation

namespace Deployment

open GeoBench.Readiness GeoBench.Cloud

/-! ### What commands share -/

namespace Context

variable (ctx : Context σ)

/-- A call in the foreground stops the session when it fails. -/
theorem failFast_run (i : Invocation) : FailFast CommandFault.source? (ctx.run i) :=
  .bind (.withFault (fun _ => rfl) (.perform _ _ _)) fun _ => .pure _

/-- So does a call for its output. -/
theorem failFast_output (i : Invocation) : FailFast CommandFault.source? (ctx.output i) :=
  .withFault (fun _ => rfl) (.perform _ _ _)

/-- What is waited for to settle makes no call. -/
theorem failFast_settle (millis : Nat) (message : String) :
    FailFast CommandFault.source? (ctx.settle millis message) := by
  rw [settle]
  split
  · exact .info _
  · exact .wait _ _ _

/-- A gate stops at the first status that cannot be told. -/
theorem failFast_awaitGate (g : Gate) : FailFast CommandFault.source? (ctx.awaitGate g) := by
  rw [awaitGate]
  split
  · exact .bind (.info _) fun _ => .pure _
  · exact .withFault (fun _ => rfl) (failFast_await _ _ _ _)

/-- The profile is at hand without a call. -/
theorem failFast_profile : FailFast CommandFault.source? ctx.profile :=
  .withFault (fun _ => rfl) (.ofExcept _)

/-- The address of a machine is one call. -/
theorem failFast_publicHost (p : Profile) (i : Instance) :
    FailFast CommandFault.source? (ctx.publicHost p i) := by
  refine .bind (ctx.failFast_output _) fun answer => ?_
  split
  · exact .bind (.debug _) fun _ => .pure _
  · exact .throw rfl

/-- A lookup is at most one call. -/
theorem failFast_hostOf (i : Instance) : FailFast CommandFault.source? (ctx.hostOf i) := by
  rw [hostOf]
  split
  · exact .pure _
  · exact .bind ctx.failFast_profile fun _ => ctx.failFast_publicHost _ _

/-- A collection of metrics stops at the first table that is not told. -/
theorem failFast_collectMetrics (timestamp? : Option String) :
    FailFast CommandFault.source? (ctx.collectMetrics timestamp?) :=
  .withFault (fun _ => rfl) (.bind (Evaluation.failFast_aggregate _ _) fun _ =>
    .bind (Evaluation.failFast_publish _ _ _ _ _) fun _ => .pure _)

end Context

/-- A workload run calls the load generator, and keeps its output only if there is one. -/
theorem failFast_runWorkload (c : Config) (runner : Runner σ) (url : String)
    (p : WorkloadParameters) (timestamp : String) :
    FailFast CommandFault.source? (runWorkload c runner url p timestamp) := by
  refine .bind (.isFile _) fun there => ?_
  split
  · exact .throw_bind rfl _
  · refine .bind (.info _) fun _ => .bind (.withFault (fun _ => rfl) (.perform _ _ _)) fun _ => ?_
    exact .bind (.withFault (fun _ => rfl) (.makeAll _)) fun _ =>
      .bind (.withFault (fun _ => rfl) (.writeText _ _)) fun _ =>
      .bind (.printLine _) fun _ => .bind (.info _) fun _ => .pure _

/-! ### Generated files -/

section

/-- No fault of a template has a call as its source. -/
theorem failFast_readTemplate (path : Path) :
    FailFast (fun _ => none) (readTemplate path : Session σ TemplateFault String) :=
  .withFault (fun _ => rfl) (.readText _)

/-- A generated file is written without a call. -/
theorem failFast_writeOutput (path : Path) (content : String) :
    FailFast (fun _ => none) (writeOutput path content : Session σ TemplateFault Unit) := by
  have hwrite : FailFast (fun _ => none)
      (Session.withFault (.unwritable path) (Session.writeText path content) :
        Session σ TemplateFault Unit) :=
    .withFault (fun _ => rfl) (.writeText _ _)
  rw [writeOutput]
  split
  · exact .bind (.withFault (fun _ => rfl) (.makeAll _)) fun _ => hwrite
  · exact hwrite

end

namespace Context

variable (ctx : Context σ)

/-- The settings of a region stop at their lookup. -/
theorem failFast_generateSettingsFor (region : String) (datastore : Instance) :
    FailFast CommandFault.source? (ctx.generateSettingsFor region datastore) :=
  .bind (ctx.failFast_hostOf _) fun _ =>
    .bind (.withFault (fun _ => rfl) (.bind (failFast_readTemplate _) fun _ =>
      .bind (.withFault (fun _ => rfl) (.ofExcept _)) fun _ => failFast_writeOutput _ _))
    fun _ => .info _

/-- The settings of both regions stop at the first lookup that fails. -/
theorem failFast_generateSettings : FailFast CommandFault.source? ctx.generateSettings :=
  .bind (ctx.failFast_generateSettingsFor _ _) fun _ => ctx.failFast_generateSettingsFor _ _

/-- The addresses are asked for one after the other. -/
theorem failFast_hosts : FailFast CommandFault.source? ctx.hosts :=
  .bind (ctx.failFast_hostOf _) fun _ => .bind (ctx.failFast_hostOf _) fun _ =>
    .bind (ctx.failFast_hostOf _) fun _ => .bind (ctx.failFast_hostOf _) fun _ =>
    .bind (ctx.failFast_hostOf _) fun _ => .bind (ctx.failFast_hostOf _) fun _ => .pure _

/-- The inventory stops at the first lookup that fails. -/
theorem failFast_generateInventory : FailFast CommandFault.source? ctx.generateInventory :=
  .bind ctx.failFast_hosts fun _ => .bind ctx.failFast_profile fun _ =>
    .bind (.withFault (fun _ => rfl) (failFast_writeOutput _ _)) fun _ => .info _

/-- The variables are rendered without a call. -/
theorem failFast_generateVars (timestamp? : Option String) (site? : Option Site) :
    FailFast CommandFault.source? (ctx.generateVars timestamp? site?) :=
  .withFault (fun _ => rfl) (.bind (failFast_readTemplate _) fun _ =>
    .bind (.withFault (fun _ => rfl) (.ofExcept _)) fun _ => failFast_writeOutput _ _)

/-- The playbooks' configuration is copied without a call. -/
theorem failFast_copyPlaybookConfig : FailFast CommandFault.source? ctx.copyPlaybookConfig := by
  rw [copyPlaybookConfig]
  split
  · exact .info _
  · refine .bind .around fun s => ?_
    split
    · exact .throw rfl
    · exact .bind (.withFault (fun _ => rfl) (.copyFile _ _)) fun _ => .info _

/-! ### Procedures -/

/-- A deployment stops at its first call that fails. -/
theorem failFast_deploy : FailFast CommandFault.source? ctx.deploy :=
  .bind (ctx.failFast_run _) fun _ => .bind (ctx.failFast_run _) fun _ =>
    .bind (ctx.failFast_settle _ _) fun _ => .bind ctx.failFast_copyPlaybookConfig fun _ =>
    .bind (.withFault (fun _ => rfl) (.makeAll _)) fun _ => .bind (.info _) fun _ =>
    .bind ctx.failFast_generateSettings fun _ => .bind ctx.failFast_generateInventory fun _ =>
    .bind (ctx.failFast_generateVars _ _) fun _ => .bind (ctx.failFast_run _) fun _ =>
    .bind (ctx.failFast_awaitGate _) fun _ => .pure _

/-- So does the start of the application. -/
theorem failFast_start : FailFast CommandFault.source? ctx.start :=
  .bind (ctx.failFast_run _) fun _ => .bind (ctx.failFast_awaitGate _) fun _ =>
    ctx.failFast_run _

/-- So does its stop. -/
theorem failFast_stop : FailFast CommandFault.source? ctx.stop :=
  .bind (ctx.failFast_run _) fun _ => ctx.failFast_run _

/-- A restart stops where its stop or its start does. -/
theorem failFast_restart : FailFast CommandFault.source? ctx.restart :=
  .bind ctx.failFast_stop fun _ => ctx.failFast_start

/-- A clean removes nothing after a call that failed. -/
theorem failFast_clean : FailFast CommandFault.source? ctx.clean := by
  refine .bind (ctx.failFast_run _) fun _ => .bind (.existsAt _) fun there => ?_
  split
  · exact .bind (.withFault (fun _ => rfl) (.removeDirectory _)) fun _ => .info _
  · exact .pure _

/-- What is told of a machine needs its address. -/
theorem failFast_tell (what : String) (machine : Instance) (ending : String) :
    FailFast CommandFault.source? (ctx.tell what machine ending) :=
  .bind (ctx.failFast_hostOf _) fun _ => .printLine _

/-- The summary stops at the first call that fails, for a listing or for an address. -/
theorem failFast_showInfo : FailFast CommandFault.source? ctx.showInfo :=
  .bind (ctx.failFast_run _) fun _ => .bind (ctx.failFast_run _) fun _ =>
    .bind (.printLine _) fun _ => .bind (ctx.failFast_tell _ _ _) fun _ =>
    .bind (ctx.failFast_tell _ _ _) fun _ => .bind (ctx.failFast_tell _ _ _) fun _ =>
    .bind (.printLine _) fun _ => .bind (ctx.failFast_tell _ _ _) fun _ =>
    .bind (ctx.failFast_tell _ _ _) fun _ => ctx.failFast_tell _ _ _

/-- The metrics of a command are a collection. -/
theorem failFast_metrics (command : Command) :
    FailFast CommandFault.source? (ctx.metrics command) :=
  .bind (ctx.failFast_collectMetrics _) fun _ => .pure _

/-- A workload on the cloud deployment stops at its lookup, its load generator or its playbook. -/
theorem failFast_cloudWorkload (command : Command) :
    FailFast CommandFault.source? (ctx.cloudWorkload command) :=
  .bind (ctx.failFast_hostOf _) fun _ => .bind .around fun _ =>
    .bind (failFast_runWorkload _ _ _ _ _) fun _ => .bind (ctx.failFast_generateVars _ _) fun _ =>
    .bind (ctx.failFast_run _) fun _ => .info _

/-- A workload on this computer stops at its load generator or at a table. -/
theorem failFast_localWorkload (command : Command) :
    FailFast CommandFault.source? (ctx.localWorkload command) :=
  .bind .around fun _ => .bind (failFast_runWorkload _ _ _ _ _) fun _ =>
    .bind (ctx.failFast_collectMetrics _) fun _ => .pure _

/-- The images of the datastores are built up to the first one that fails. -/
theorem failFast_storageBuild : FailFast CommandFault.source? ctx.storageBuild :=
  .forM fun _ => ctx.failFast_run _

/-- The datastores are not waited for if they do not run. -/
theorem failFast_storageRun : FailFast CommandFault.source? ctx.storageRun :=
  .bind (ctx.failFast_run _) fun _ => ctx.failFast_settle _ _

end Context

/-- **Every procedure but the opening of the firewall** stops at its first failed call. -/
theorem Procedure.failFast_perform {p : Procedure} (hp : p ≠ .configure) (ctx : Context σ)
    (command : Command) : FailFast CommandFault.source? (p.perform ctx command) := by
  cases p with
  | configure => exact absurd rfl hp
  | deploy => exact ctx.failFast_deploy
  | start => exact ctx.failFast_start
  | stop => exact ctx.failFast_stop
  | restart => exact ctx.failFast_restart
  | clean => exact ctx.failFast_clean
  | info => exact ctx.failFast_showInfo
  | cloudSocialGraph => exact .info _
  | cloudMetrics => exact ctx.failFast_metrics command
  | cloudWorkload => exact ctx.failFast_cloudWorkload command
  | localSocialGraph => exact ctx.failFast_run _
  | localMetrics => exact ctx.failFast_metrics command
  | localWorkload => exact ctx.failFast_localWorkload command
  | storageBuild => exact ctx.failFast_storageBuild
  | storageRun => exact ctx.failFast_storageRun
  | storageClean => exact ctx.failFast_run _
  | nothing => exact .info _

/-! ### The opening of the firewall -/

/-- An **attempt** at one rule of the firewall: the texts that came out meanwhile, and its call. -/
structure Attempt where
  meanwhile : List Utterance
  exchange : Exchange

/-- What happens in an attempt at the rule with a name: a failure is told behind the call. -/
def Attempt.events (name : String) (a : Attempt) : List Event :=
  a.meanwhile.map .said ++ .called a.exchange ::
    match a.exchange.reply with
    | .ok _ => []
    | .error e =>
      [.logged .error ("could not configure firewall " ++ name ++ ": " ++
        (CommandFault.call e).message)]

namespace Context

variable (ctx : Context σ)

/-- One rule is tried by one call, and the procedure goes on. -/
theorem run_tryRule (project name ports : String) (w : World σ) :
    ∃ (a : Attempt) (v : World σ), (ctx.tryRule project name ports).run w = (.ok (), v) ∧
      a.exchange.mode = .run ∧ a.exchange.invocation = firewallCall project name ports ∧
      v.events = w.events ++ a.events name := by
  obtain ⟨x, u, said, hrun, hmode, hcall, hevents⟩ :=
    ctx.run_run (firewallCall project name ports) w
  rw [tryRule, Session.run_tryCatch, hrun]
  cases hreply : x.reply with
  | ok text =>
      rw [foreground_of_ok hreply]
      refine ⟨⟨said, x⟩, u, rfl, hmode, hcall, ?_⟩
      rw [hevents, Attempt.events, hreply]
  | error e =>
      rw [foreground_of_error hreply]
      refine ⟨⟨said, x⟩, _, Session.run_log _ _ u, hmode, hcall, ?_⟩
      rw [World.events_note, hevents, Attempt.events, hreply, List.append_assoc, List.append_assoc]
      rfl

/-- Every rule is tried, in order. -/
theorem run_tryRules (project : String) (rules : List (String × String)) (w : World σ) :
    ∃ (attempts : List Attempt) (v : World σ),
      (rules.forM fun (name, ports) => ctx.tryRule project name ports).run w = (.ok (), v) ∧
      attempts.map (fun a => (a.exchange.mode, a.exchange.invocation)) =
        rules.map (fun r => (Mode.run, firewallCall project r.1 r.2)) ∧
      v.events = w.events ++ (rules.zip attempts).flatMap fun (r, a) => a.events r.1 := by
  induction rules generalizing w with
  | nil => exact ⟨[], w, rfl, rfl, (List.append_nil w.events).symm⟩
  | cons rule rules ih =>
      obtain ⟨a, u, hrun, hmode, hcall, hevents⟩ := ctx.run_tryRule project rule.1 rule.2 w
      obtain ⟨attempts, v, hrest, hcalls, hmore⟩ := ih u
      refine ⟨a :: attempts, v, ?_, ?_, ?_⟩
      · show (ctx.tryRule project rule.1 rule.2 >>= fun _ =>
          rules.forM fun (name, ports) => ctx.tryRule project name ports).run w = _
        rw [Session.run_bind_of_ok hrun, hrest]
      · rw [List.map_cons, List.map_cons, hcalls, hmode, hcall]
      · rw [hmore, hevents, List.zip_cons_cons, List.flatMap_cons, List.append_assoc]

end Context

end Deployment

/-! ### Dispatch -/

open GeoBench.Deployment

/-- Only one command stands for the opening of the firewall. -/
theorem Registry.standard_find?_ne_configure {site : Site} {verb : Verb}
    (h : (site, verb) ≠ (.cloud, .configure)) :
    Registry.standard.find? site verb ≠ some .configure := by
  revert h
  cases site <;> cases verb <;> decide

/-- Every other command stops at its first failed call. -/
theorem Registry.failFast_dispatch (ctx : Context σ) (command : Command)
    (h : (ctx.config.site, command.verb) ≠ (.cloud, .configure)) :
    FailFast CommandFault.source? (Registry.standard.dispatch ctx command) := by
  rw [dispatch, resolve]
  cases hfind : Registry.standard.find? ctx.config.site command.verb with
  | none => exact .throw rfl
  | some p =>
      refine Procedure.failFast_perform ?_ ctx command
      rintro rfl
      exact standard_find?_ne_configure h hfind

/-- The faults that have a call as their source. -/
theorem Deployment.CommandFault.eq_of_source? {f : CommandFault} {e : CallFault}
    (h : f.source? = some e) :
    f = .call e ∨ (∃ dimension, f = .readiness (.noStatus dimension e)) ∨
      ∃ metric, f = .report (.noSource metric e) := by
  cases f with
  | call cause => exact .inl (congrArg _ (Option.some.inj h))
  | report cause =>
      cases cause with
      | noSource metric cause => exact .inr (.inr ⟨metric, by rw [Option.some.inj h]⟩)
      | notKept => cases h
  | readiness cause =>
      cases cause with
      | timeout => cases h
      | noStatus dimension cause => exact .inr (.inl ⟨dimension, by rw [Option.some.inj h]⟩)
  | config | template | workload | system => cases h

/-- **What a dispatched command does about failed calls.** Nothing follows one: no event is recorded
behind it, the file tree stays as the call left it, and the command fails with the fault of the
call, or with a fault that names it as the reason why there is no status or no source of metrics. If
the command succeeds, so did every call. The opening of the firewall is the one exception: with a
profile it attempts every rule once, in order, tells each failure, and succeeds. -/
theorem Registry.dispatch_stops_at_failure (ctx : Context σ) (command : Command) (w : World σ) :
    ((ctx.config.site, command.verb) ≠ (.cloud, .configure) →
      ∃ result v new, (Registry.standard.dispatch ctx command).run w = (result, v) ∧
        v.events = w.events ++ new ∧
        (result = .ok () → ∀ x ∈ calls new, x.succeeded) ∧
        ∀ before x after e, new = before ++ .called x :: after → x.reply = .error e →
          after = [] ∧ v.tree = x.left ∧ ∃ f, result = .error f ∧
            (f = .call e ∨ (∃ dimension, f = .readiness (.noStatus dimension e)) ∨
              ∃ metric, f = .report (.noSource metric e))) ∧
    (ctx.config.site = .cloud → command.verb = .configure →
      ∀ p, ctx.config.profile? = some p →
      ∃ (attempts : List Attempt) (v : World σ),
        (Registry.standard.dispatch ctx command).run w = (.ok (), v) ∧
        attempts.map (fun a => (a.exchange.mode, a.exchange.invocation)) =
          firewallRules.map (fun r => (Mode.run, firewallCall p.projectId r.1 r.2)) ∧
        v.events = w.events ++ .logged .info "configuring firewalls" ::
          (firewallRules.zip attempts).flatMap fun (r, a) => a.events r.1) := by
  constructor
  · intro hother
    have horderly := failFast_dispatch ctx command hother w
    obtain ⟨new, hnew⟩ := horderly.exists_events
    refine ⟨_, _, new, rfl, hnew, horderly.succeeded_of_ok hnew, ?_⟩
    rintro before x after e rfl he
    obtain ⟨hafter, htree, f, hresult, hsource⟩ := horderly.last_of_failed hnew he
    exact ⟨hafter, htree, f, hresult, CommandFault.eq_of_source? hsource⟩
  · intro hsite hverb p hprofile
    have hdispatch : Registry.standard.dispatch ctx command = ctx.configure := by
      rw [dispatch, hsite, hverb]
      rfl
    have hrun : ctx.profile.run w = (.ok p, w) := by
      rw [Context.profile, Session.run_withFault, Session.run_ofExcept,
        (Config.requireProfile_eq_ok_iff ctx.config p).mpr hprofile]
      rfl
    obtain ⟨attempts, v, hrules, hcalls, hevents⟩ := ctx.run_tryRules p.projectId firewallRules
      (w.note [.logged .info "configuring firewalls"])
    refine ⟨attempts, v, ?_, hcalls, ?_⟩
    · rw [hdispatch, Context.configure, Session.run_bind_of_ok hrun,
        Session.run_bind_of_ok (Session.run_info _ w), hrules]
    · rw [hevents, World.events_note, List.append_assoc, List.singleton_append]

end GeoBench
