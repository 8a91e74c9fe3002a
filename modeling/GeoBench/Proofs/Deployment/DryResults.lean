import GeoBench.Proofs.Deployment.DryRun

/-!
# Results of dry runs

A dry run changes no result by a call, but what calls give is kept as in any other run: the output
of a load generator that was never called, and the report on tables that were never told. Both have
the names and the directory of the results of a run that was made, so whatever was recorded under
the same time stamp is gone after a dry run that succeeds. Every other result is left alone.

## Why this is a loss

Both results of a dry run look like results of a run that measured nothing. A report that was
recorded under a time stamp is replaced by one in which nothing was counted if the same time stamp
is given to a dry run, and the run tells of no fault. The calls of other commands are guarded
against this, the collection of metrics and the workload are not.

## Where links matter

Which results are replaced is told by places, for a world without links; an output and a report that
are one file could not both be read back.

## Main results

* `Aggregated.eq_nothing` — the report on tables that are all empty.
* `dry_evaluation` — all that can become of a recorded result in a dry run.
* `metrics_of_dry_ok` — a dry run is not stopped by a report that was recorded.
* `Registry.results_of_dry` — which results a dry run replaces, and with what.
-/

namespace GeoBench

open GeoBench.Machine

variable {σ : Type}

/-! ### Reports on nothing -/

namespace Evaluation

open GeoBench.Table

/-- The tables tell the whole report. -/
theorem SumsUp.unique {r r' : Report} {texts : Metric → String} (h : SumsUp r texts)
    (h' : SumsUp r' texts) : r' = r := by
  have hshare := h.share_eq h' rfl rfl
  obtain ⟨composed, received, inconsistencies, share, compose, write, queue⟩ := r
  obtain ⟨composed', received', inconsistencies', share', compose', write', queue'⟩ := r'
  simp only [Report.mk.injEq]
  exact ⟨h'.composedPosts.trans h.composedPosts.symm,
    h'.receivedNotifications.trans h.receivedNotifications.symm,
    h'.inconsistencies.trans h.inconsistencies.symm, hshare,
    h'.composeMean.trans h.composeMean.symm, h'.writeMean.trans h.writeMean.symm,
    h'.queueMean.trans h.queueMean.symm⟩

/-- **The report on empty answers** is the one on nothing. -/
theorem Aggregated.eq_nothing {s : Source} {xs : List Exchange} {r : Report}
    (h : Aggregated s xs (.ok r)) (hempty : ∀ x ∈ xs, x.reply = .ok "") : r = Report.nothing := by
  cases h with
  | whole texts _ htells hreport =>
      have htexts : texts = fun _ => "" := by
        funext m
        have hm : m ∈ Metric.all := Metric.mem_all m
        obtain ⟨x, hx, hreply⟩ := exists_mem_of_map_eq_map htells.2.symm hm
        rw [hempty x hx] at hreply
        exact (Except.ok.inj hreply).symm
      rw [htexts] at hreport
      exact (SumsUp.ofSamples fun _ => "").unique hreport

/-- In a dry run there is always a report, and the tree stays as it is. -/
theorem aggregate_dry (s : Source) (w : World σ) : ∃ report v,
    (aggregate dryRun s).run w = (.ok report, v) ∧ v.tree = w.tree ∧ v.around = w.around ∧
      w.Onward v := by
  have hwithin := within_aggregate (dryRun : Runner σ) s
  have htree : ((aggregate dryRun s).run w).2.tree = w.tree :=
    hwithin.rel (R := fun u v => v.tree = u.tree) w (fun _ => rfl) (fun h h' => h'.trans h)
      fun m u hm _ => by cases hm <;> rfl
  have haround := hwithin.around_run w
  have honward : w.Onward ((aggregate dryRun s).run w).2 :=
    hwithin.rel w .refl .trans fun _ _ _ _ => Move.onward_after
  rcases hrun : (aggregate dryRun s).run w with ⟨fault | report, v⟩
  · obtain ⟨hrunner, -⟩ := (hwithin w).2 fault (by rw [hrun])
    exact absurd rfl hrunner
  · rw [hrun] at htree haround honward
    exact ⟨report, v, rfl, htree, haround, honward⟩

end Evaluation

namespace Deployment

open GeoBench.Evaluation

/-! ### Results that are replaced -/

/-- What a dry run **keeps as results**: a text in a file. -/
inductive DryResult (c : Config) (command : Command) (clock : String) : Path → String → Prop
  /-- A workload keeps the output of a call that gave nothing. -/
  | output (hverb : command.verb = .workload) : DryResult c command clock (outputPath c clock) ""
  /-- A time stamp that the command carries is that of a report on nothing. -/
  | report (timestamp : String) (hcarried : command.timestamp? = some timestamp) :
      DryResult c command clock (reportPath c timestamp) Report.nothing.toRecord
  /-- On this computer a workload keeps a report on nothing too. -/
  | workloadReport (hverb : command.verb = .workload) (hsite : c.site = .localhost) :
      DryResult c command clock (reportPath c clock) Report.nothing.toRecord

/-- What is below the directory of the results is not below that of the generated files. -/
theorem not_below_tmpDir {c : Config} {cwd at_ : Place}
    (h : Place.Below (c.evaluationDir.place cwd) at_) :
    ¬ Place.Below (c.tmpDir.place cwd) at_ := by
  rintro ⟨htmp, -⟩
  obtain ⟨hevaluation, -⟩ := h
  rw [Config.evaluationDir, Config.path,
    Path.place_sub_names cwd c.baseDir (by decide) (by decide), Tree.isUnder,
    List.isSuffixOf_iff_suffix] at hevaluation
  rw [Config.tmpDir, Config.path, place_tmpDir, Tree.isUnder, List.isSuffixOf_iff_suffix] at htmp
  have hnested := List.suffix_of_suffix_length_le hevaluation htmp (by
    rw [List.length_append, List.length_append]
    exact Nat.add_le_add_right (by decide) _)
  exact absurd (List.suffix_append_self_iff.mp hnested) (by decide)

section

variable (c : Config) (pacer : Pacer) (command : Command)

/-- **What becomes of a recorded result** in a dry run without links: it stays as it is, or what the
dry run keeps is in its place, or a start of it if a write falls short. -/
theorem dry_evaluation {w : World σ} (hfree : w.LinkFree) {at_ : Place}
    (hat : Place.Below (c.evaluationDir.place w.around.cwd) at_) :
    ((Registry.standard.dispatch (.dry c pacer) command).run w).2.tree.file? at_ =
        w.tree.file? at_ ∨
      ∃ p text, DryResult c command w.around.clock p text ∧ at_ = p.place w.around.cwd ∧
        ((Registry.standard.dispatch (.dry c pacer) command).run w).2.tree.HoldsStart at_ text ∧
        (w.WritesWhole →
          ((Registry.standard.dispatch (.dry c pacer) command).run w).2.tree.Holds at_ text) := by
  obtain ⟨new, hnew, hhappens⟩ := dry_events c pacer command w
  have hspared : ∀ x ∈ calls new, x.SparesAt at_ := by
    intro x hx
    cases hhappens _ (mem_of_mem_calls hx) with
    | called _ _ hleft => rw [Exchange.SparesAt, hleft]
  have hrewrites : w.Rewrites {text | ∃ p, DryResult c command w.around.clock p text ∧
      at_ = p.place w.around.cwd} at_
      ((Registry.standard.dispatch (.dry c pacer) command).run w).2 := by
    refine (Registry.permitted_dispatch (.dry c pacer) command).rewrites w fun m hm => ?_
    by_cases htouched : at_ ∈ m.touches w.around
    · cases hm with
      | say | call | list | makeAll => exact absurd htouched (Set.notMem_empty at_)
      | pass hdry | lookup hdry | status hdry | copy hdry => cases hdry
      | remove => exact absurd htouched (not_below_tmpDir hat)
      | generate hp text =>
          refine absurd ?_ (not_below_tmpDir hat)
          rw [show at_ = _ from htouched]
          exact Context.below_tmpDir_of_mem_generatedPaths (.dry c pacer) hp
      | keepOutput hverb text hempty =>
          rw [hempty rfl]
          exact .inr ⟨_, _, rfl, _, .output hverb, htouched⟩
      | keepReport hreports r hempty =>
          rw [hempty rfl]
          refine .inr ⟨_, _, rfl, _, ?_, htouched⟩
          rcases hreports with hcarried | ⟨hverb, hsite, rfl⟩
          · exact .report _ hcarried
          · exact .workloadReport hverb hsite
    · exact .inl htouched
  exact (hrewrites.file? hnew hfree hspared).imp_right fun ⟨text, ⟨p, hkept, hp⟩, hholds⟩ =>
    ⟨p, text, hkept, hp, hholds⟩

/-! ### Results that are kept -/

/-- A call that gave **nothing** and changed nothing. -/
structure Idle (x : Exchange) : Prop where
  reply : x.reply = .ok ""
  left : x.left = x.found

/-- Such a call spares every path. -/
theorem Idle.spares {x : Exchange} (h : Idle x) (links : Links) (cwd : Place) (p : Path) :
    x.Spares links cwd p := by
  constructor
  · intro at_ _
    rw [Exchange.SparesAt, h.left]
  · rw [h.left]

/-- The calls of a dry run gave nothing and changed nothing. -/
theorem dry_idle {apart : Set Path} {w v : World σ} {xs : List Exchange}
    {result : Except CommandFault Unit}
    (hrun : (Registry.standard.dispatch (.dry c pacer) command).run w = (result, v))
    (h : Passage apart w xs v) : ∀ x ∈ xs, Idle x := by
  obtain ⟨new, hnew, rfl⟩ := h.events
  obtain ⟨new', hnew', hhappens⟩ := dry_events c pacer command w
  rw [hrun] at hnew'
  obtain rfl : new = new' := List.append_cancel_left (hnew.symm.trans hnew')
  intro x hx
  cases hhappens _ (mem_of_mem_calls hx) with
  | called _ hreply hleft => exact ⟨hreply, hleft⟩

end

/-- The output of a run whose calls gave nothing is empty, and stays so, where there are no
links. -/
theorem Ran.readText_output {c : Config} {url : String} {p : WorkloadParameters}
    {Finished : World σ → World σ → List Exchange → Except CommandFault Unit → Prop}
    {q : Path} {w v : World σ} {xs : List Exchange}
    (h : Ran c url p Finished w v xs (.ok ())) (hfree : w.LinkFree) (hidle : ∀ x ∈ xs, Idle x)
    (hfinish : ∀ {u after}, Finished u v after (.ok ()) → Passage {q} u after v)
    (hout : (outputPath c w.around.clock).place w.around.cwd ≠ q.place w.around.cwd) :
    v.tree.readText w.around.cwd (outputPath c w.around.clock) = .ok "" := by
  cases h with
  | finished called after run u _ hworked hfinished =>
      cases hworked with
      | kept x output _ _ _ hreply hpassage hkept =>
          have hx := (hidle x (List.mem_append_left _ List.mem_cons_self)).reply
          rw [hreply] at hx
          obtain rfl : output = "" := Except.ok.inj hx
          have hpassage' := hpassage.linkFree hfree
          have hfinal := hfinish hfinished
          rw [← Session.readText_eq_of_linkFree (hfinal.linkFree hpassage'), hfinal.links,
            ← hpassage.around]
          refine hfinal.readText ?_ (fun y hy =>
            (hidle y (List.mem_append_right _ hy)).spares _ _ _) (by rwa [hpassage.around])
          rw [show u.links = [] from hpassage', Links.reached_singleton, Links.arrivals_nil,
            Links.arrivals_nil, Set.disjoint_singleton, hpassage.around]
          exact hout

section

variable (c : Config) (pacer : Pacer) (command : Command) {w v : World σ}

/-- A command of a dry run is its procedure. -/
theorem dispatch_dry_eq {p : Procedure}
    (h : Registry.standard.find? c.site command.verb = some p) :
    Registry.standard.dispatch (.dry c pacer) command = p.perform (.dry c pacer : Context σ)
      command :=
  Registry.dispatch_eq_perform h

/-- A report is asked for with a time stamp by one command only. -/
theorem dispatch_dry_metrics {timestamp : String} (hcarried : command.timestamp? = some timestamp) :
    Registry.standard.dispatch (.dry c pacer : Context σ) command =
      (Context.dry c pacer).metrics command := by
  cases command with
  | plain | workload => cases hcarried
  | metrics => exact Registry.dispatch_metrics _ _

/-- A report that is asked for with a time stamp is on nothing, and kept. -/
theorem report_of_dry (hfree : w.LinkFree) {timestamp : String}
    (hcarried : command.timestamp? = some timestamp)
    (h : (Registry.standard.dispatch (.dry c pacer) command).run w = (.ok (), v)) :
    v.tree.readText w.around.cwd (reportPath c timestamp) = .ok Report.nothing.toRecord := by
  obtain ⟨result, xs, ms, hrun, -, hcollects⟩ :=
    (Context.dry c pacer : Context σ).collects_collectMetrics command.timestamp? w
  have hall := h
  rw [dispatch_dry_metrics c pacer command hcarried, Context.metrics] at hall
  cases result with
  | error fault =>
      rw [Session.run_bind_of_error hrun] at hall
      cases (Prod.mk.inj hall).1
  | ok report =>
      rw [Session.run_bind_of_ok hrun] at hall
      obtain ⟨-, rfl⟩ := Prod.mk.inj hall
      obtain ⟨hwhole, -, -, hread⟩ := hcollects.kept timestamp hcarried report rfl
      have hidle := dry_idle c pacer command h hcollects.passage
      rwa [hwhole.eq_nothing fun x hx => (hidle x hx).reply,
        Session.readText_eq_of_linkFree (hcollects.passage.linkFree hfree)] at hread

/-- Metrics are collected by an aggregation that succeeds and a report that is published. -/
theorem Context.run_collectMetrics_of_ok (ctx : Context σ) {timestamp? : Option String}
    {report : Report} {path? : Option Path} {u : World σ}
    (haggregate : (aggregate ctx.runner
      ⟨ctx.config.runtimeProgram, ctx.config.runtimeDeployer⟩).run w = (.ok report, u))
    (hpublish : (publish ctx.config.evaluationDir ctx.config.format report ctx.config.site.name
      timestamp?).run u = (.ok path?, v)) :
    (ctx.collectMetrics timestamp?).run w = (.ok report, v) := by
  rw [collectMetrics, Session.run_withFault, Session.run_bind_of_ok haggregate,
    Session.run_bind_of_ok hpublish]
  rfl

/-- A report that was recorded does not stop a dry run, where there are no links and no write falls
short. -/
theorem metrics_of_dry_ok (hfree : w.LinkFree) (hwhole : w.WritesWhole) {timestamp text : String}
    (hcarried : command.timestamp? = some timestamp)
    (hparent : ∀ parent ∈ (reportPath c timestamp).parent?,
      w.tree.makeAll w.around.cwd parent = ⟨w.tree, none⟩)
    (hread : w.tree.readText w.around.cwd (reportPath c timestamp) = .ok text) :
    ∃ v, (Registry.standard.dispatch (.dry c pacer) command).run w = (.ok (), v) := by
  obtain ⟨report, u, haggregate, htree, haround, honward⟩ :=
    aggregate_dry ⟨c.runtimeProgram, c.runtimeDeployer⟩ w
  rw [← htree, ← haround] at hparent hread
  obtain ⟨v, hsave⟩ : ∃ v, (Session.saveText ReportFault.notKept (reportPath c timestamp)
      report.toRecord).run (u.note [.printed (report.toRecord ++ "\n")]) = (.ok (), v) :=
    Session.run_saveText_of_readText (honward.linkFree hfree) (honward.writesWhole hwhole)
      hparent hread
  have hcollect := (Context.dry c pacer).run_collectMetrics_of_ok haggregate
    (run_publish_of_saveText c timestamp report hsave)
  rw [dispatch_dry_metrics c pacer command hcarried, Context.metrics, hcarried,
    Session.run_bind_of_ok hcollect]
  exact ⟨_, rfl⟩

/-- On this computer a workload run keeps an empty output, and a report on nothing beside it. -/
theorem workload_of_dry_localhost (hfree : w.LinkFree) (hverb : command.verb = .workload)
    (hsite : c.site = .localhost)
    (h : (Registry.standard.dispatch (.dry c pacer) command).run w = (.ok (), v)) :
    v.tree.readText w.around.cwd (outputPath c w.around.clock) = .ok "" ∧
      v.tree.readText w.around.cwd (reportPath c w.around.clock) =
        .ok Report.nothing.toRecord := by
  have hdispatch : Registry.standard.dispatch (.dry c pacer : Context σ) command =
      (Context.dry c pacer).workloadOn c.localUrl command.parameters
        (Context.dry c pacer).measure :=
    (dispatch_dry_eq c pacer command (p := .localWorkload) (by rw [hsite, hverb]; rfl)).trans rfl
  obtain ⟨result, v', xs, hrun, hran⟩ := Context.ran_workloadOn (w := w)
    (fun u _ => (Context.dry c pacer).measured_measure w.around.clock u)
    c.localUrl command.parameters
  rw [← hdispatch, h] at hrun
  obtain ⟨rfl, rfl⟩ := Prod.mk.inj hrun
  have hidle := dry_idle c pacer command h (hran.passage (Set.mem_insert _ _)
    fun hmeasured => hmeasured.passage.mono (Set.subset_insert _ _))
  refine ⟨hran.readText_output hfree hidle Measured.passage (place_reportPath_ne _ _ _).symm, ?_⟩
  cases hran with
  | finished called after run u _ hworked hmeasured =>
      cases hmeasured with
      | kept report hwhole hpassage hread =>
          have hfree' := hpassage.linkFree (hworked.passage.linkFree hfree)
          rwa [hwhole.eq_nothing fun x hx => (hidle x (List.mem_append_right _ hx)).reply,
            hworked.passage.around, Session.readText_eq_of_linkFree hfree'] at hread

/-- The address of a machine is not looked up in a dry run; its name stands for it. -/
theorem hostOf_dry (m : Cloud.Instance) :
    (Context.dry c pacer : Context σ).hostOf m = pure ("<" ++ m.name ++ ">") := rfl

/-- On the cloud deployment a workload run keeps an empty output. -/
theorem workload_of_dry_cloud (hfree : w.LinkFree) (hverb : command.verb = .workload)
    (hsite : c.site = .cloud)
    (h : (Registry.standard.dispatch (.dry c pacer) command).run w = (.ok (), v)) :
    v.tree.readText w.around.cwd (outputPath c w.around.clock) = .ok "" := by
  have hdispatch : Registry.standard.dispatch (.dry c pacer : Context σ) command =
      (Context.dry c pacer).cloudWorkload (.workload command.parameters) :=
    (dispatch_dry_eq c pacer command (p := .cloudWorkload) (by rw [hsite, hverb]; rfl)).trans rfl
  rw [Context.cloudWorkload_eq, hostOf_dry, pure_bind] at hdispatch
  obtain ⟨result, v', xs, hrun, hran⟩ := Context.ran_workloadOn (w := w)
    (fun u _ => (Context.dry c pacer).gathered_gather w.around.clock u) _ command.parameters
  rw [← hdispatch, h] at hrun
  obtain ⟨rfl, rfl⟩ := Prod.mk.inj hrun
  have hidle := dry_idle c pacer command h (hran.passage (Set.mem_insert _ _)
    fun hgathered => hgathered.passage.mono (Set.subset_insert _ _))
  exact hran.readText_output hfree hidle Context.Gathered.passage
    ((hasName_outputPath c _).place_ne (Context.dry c pacer : Context σ).hasName_vars (by decide))

end

end Deployment

namespace Registry

open GeoBench.Deployment

/-- The results of **one run**, in a tree that holds nothing else. -/
def recordedRun : Tree where
  entries := [
    (["metrics.yml", "ts", "local", "evaluation", "bench"],
      .file (Text.encode "num_composed_posts: 5\n") false),
    (["ts", "local", "evaluation", "bench"], .directory),
    (["local", "evaluation", "bench"], .directory),
    (["evaluation", "bench"], .directory),
    (["bench"], .directory)]

variable (c : Config) (pacer : Pacer) (command : Command) (w : World σ)

/-- **Which results a dry run replaces**, and with what, in a world without links. A file below the
directory of the results stays as it is, or it is one in which the dry run keeps what calls gave
that were never made, or a start of it if a write falls short. If the dry run succeeds, every such
file holds just that in the end, whatever was recorded in it. -/
theorem results_of_dry : ∃ result v,
    (standard.dispatch (.dry c pacer) command).run w = (result, v) ∧
      (w.LinkFree → ∀ at_, Place.Below (c.evaluationDir.place w.around.cwd) at_ →
        v.tree.file? at_ = w.tree.file? at_ ∨
          ∃ p text, DryResult c command w.around.clock p text ∧ at_ = p.place w.around.cwd ∧
            v.tree.HoldsStart at_ text ∧ (w.WritesWhole → v.tree.Holds at_ text)) ∧
      (w.LinkFree → result = .ok () → ∀ p text, DryResult c command w.around.clock p text →
        v.tree.readText w.around.cwd p = .ok text) := by
  have hkeeps : w.LinkFree → ∀ at_, Place.Below (c.evaluationDir.place w.around.cwd) at_ → _ :=
    fun hfree _ hat => dry_evaluation c pacer command hfree hat
  rcases hrun : (standard.dispatch (.dry c pacer) command).run w with ⟨result, v⟩
  rw [hrun] at hkeeps
  refine ⟨result, v, rfl, hkeeps, ?_⟩
  rintro hfree rfl p text hkept
  cases hkept with
  | output hverb =>
      cases hsite : c.site with
      | localhost => exact (workload_of_dry_localhost c pacer command hfree hverb hsite hrun).1
      | cloud => exact workload_of_dry_cloud c pacer command hfree hverb hsite hrun
  | report timestamp hcarried => exact report_of_dry c pacer command hfree hcarried hrun
  | workloadReport hverb hsite =>
      exact (workload_of_dry_localhost c pacer command hfree hverb hsite hrun).2

/-- A report is recorded under a time stamp, and a dry run for that time stamp replaces it. -/
theorem report_lost_in_dry_run :
    let c : Config := { baseDir := ⟨"bench"⟩, site := .localhost }
    let w : World Unit := ⟨⟨[], [], ""⟩, recordedRun, (), [], [], []⟩
    ∃ v, (standard.dispatch (.dry c silentPacer) (.metrics (some "ts"))).run w = (.ok (), v) ∧
      w.tree.readText [] (reportPath c "ts") = .ok "num_composed_posts: 5\n" ∧
      v.tree.readText [] (reportPath c "ts") ≠ .ok "num_composed_posts: 5\n" := by
  intro c w
  have hpath : reportPath c "ts" = ⟨"bench/evaluation/local/ts/metrics.yml"⟩ := by decide
  have hdir : recordedRun.resolve [] ⟨"bench/evaluation/local/ts"⟩ =
      .ok (.present ["ts", "local", "evaluation", "bench"] .directory) := by
    rw [Tree.resolve, if_neg (by simp)]
    rfl
  have hread : recordedRun.readText [] (reportPath c "ts") = .ok "num_composed_posts: 5\n" := by
    refine Tree.readText_eq_ok_iff.mpr ⟨false, ?_, by decide⟩
    rw [hpath, Tree.resolve, if_neg (by simp)]
    rfl
  have hparent : ∀ parent ∈ (reportPath c "ts").parent?,
      recordedRun.makeAll [] parent = ⟨recordedRun, none⟩ := by
    intro parent hparent
    obtain rfl : ⟨"bench/evaluation/local/ts"⟩ = parent :=
      Option.some.inj ((show _ = _ by decide).trans hparent)
    exact Tree.makeAll_of_resolve hdir
  have hwhole : w.WritesWhole := by simp [w, World.WritesWhole]
  obtain ⟨v, hrun⟩ :=
    metrics_of_dry_ok c silentPacer (.metrics (some "ts")) (w := w) rfl hwhole rfl hparent hread
  refine ⟨v, hrun, hread, ?_⟩
  have hreport := report_of_dry c silentPacer (.metrics (some "ts")) (w := w) rfl rfl hrun
  rw [show v.tree.readText [] (reportPath c "ts") = _ from hreport]
  decide

end Registry

end GeoBench
