import GeoBench.Deployment.Context
import GeoBench.Proofs.Evaluation.ReportReading

/-!
# The files of a workload run

All that is kept of a workload run is in one directory, which is named for the target and the time
stamp of the run: the output of the load generator, and the report on the metrics that were
collected after it. Each is written by a part of its own, so that the two agree on the directory is
something to prove.

How each part ends is told by an inductive, with one case for each way. Nothing is written before
the call of the load generator succeeded, and no report before all metrics were told.

## Through links

Each part touches one file, the one along the path it writes to, and what it wrote is read back
along that path. Both hold wherever links lead. That the two parts do not touch the same file is not
said here: through links the output and the report may be one file, and then the report is what is
left.

## Main results

* `place_outputPath`, `place_reportPath` — both files are in the directory of the run.
* `worked_runWorkload` — the call of the load generator, and what is kept of it.
* `Context.measured_measure` — the calls for the metrics, and what is kept of them.
-/

namespace GeoBench.Deployment

open GeoBench.Machine GeoBench.Evaluation

variable {σ : Type}

/-! ### The directory of a run -/

/-- The results on a target are kept under a name. -/
theorem isName_site (site : Site) : Path.IsName site.name := by
  cases site <;> decide

/-- Where the **output** of the load generator is kept. -/
def outputPath (c : Config) (timestamp : String) : Path :=
  (runDir c.evaluationDir c.site.name timestamp).sub "workload.out"

/-- Where the **report** on the metrics is kept. -/
def reportPath (c : Config) (timestamp : String) : Path :=
  recordPath c.evaluationDir c.site.name timestamp

section

variable (c : Config) (timestamp : String)

/-- The name of the output. -/
theorem hasName_outputPath : (outputPath c timestamp).HasName "workload.out" :=
  Path.hasName_sub _ (by decide) (by decide) (by decide) (by decide)

/-- The name of the report. -/
theorem hasName_reportPath : (reportPath c timestamp).HasName "metrics.yml" :=
  Path.hasName_sub _ (by decide) (by decide) (by decide) (by decide)

/-- The report is kept at another place than the output. -/
theorem place_reportPath_ne (cwd : Place) :
    (reportPath c timestamp).place cwd ≠ (outputPath c timestamp).place cwd :=
  (hasName_reportPath c timestamp).place_ne (hasName_outputPath c timestamp) (by decide)

variable {timestamp}

/-- The directory of a run is named for the target and the time stamp. -/
theorem place_runDir (h : Path.IsName timestamp) (cwd : Place) :
    (runDir c.evaluationDir c.site.name timestamp).place cwd =
      timestamp :: c.site.name :: "evaluation" :: c.baseDir.place cwd := by
  rw [runDir, Path.place_sub_name _ _ h, Path.place_sub_name _ _ (isName_site _),
    Config.evaluationDir, Config.path, Path.place_sub_name _ _ (by decide)]

/-- The output is in the directory of the run. -/
theorem place_outputPath (h : Path.IsName timestamp) (cwd : Place) :
    (outputPath c timestamp).place cwd =
      "workload.out" :: timestamp :: c.site.name :: "evaluation" :: c.baseDir.place cwd := by
  rw [outputPath, Path.place_sub_name _ _ (by decide),
    place_runDir c h]

/-- So is the report. -/
theorem place_reportPath (h : Path.IsName timestamp) (cwd : Place) :
    (reportPath c timestamp).place cwd =
      "metrics.yml" :: timestamp :: c.site.name :: "evaluation" :: c.baseDir.place cwd := by
  rw [reportPath, recordPath,
    Path.place_sub_name _ _ (by decide), place_runDir c h]

end

/-! ### The output -/

/-- A call of the **load generator** on an address, word by word: with the numbers of a workload,
the script of its requests, and the one address for both regions, from the base directory. -/
structure LoadCall (c : Config) (url : String) (p : WorkloadParameters) (call : Invocation) :
    Prop where
  program : call.program = (c.baseDir.sub "wrk2/wrk").text
  arguments : call.arguments =
    ["-D", "exp", "-t", toString p.threads, "-c", toString p.connections, "-d",
      toString p.duration, "-L", "-s", "./wrk2/scripts/social-network/compose-post.lua",
      url ++ "/wrk2-api/post/compose", "-R", toString p.rate]
  environment : call.environment = [("HOST_EU", url), ("HOST_US", url)]
  directory : call.directory? = some c.baseDir

/-- These are the words that the load generator is called with, and no others. -/
theorem loadCall_iff {c : Config} {url : String} {p : WorkloadParameters} {call : Invocation} :
    LoadCall c url p call ↔ call = generator c url p := by
  constructor
  · rintro ⟨hprogram, harguments, henvironment, hdirectory⟩
    obtain ⟨program, arguments, environment, directory?⟩ := call
    obtain rfl := hprogram
    obtain rfl := harguments
    obtain rfl := henvironment
    obtain rfl := hdirectory
    rfl
  · rintro rfl
    exact ⟨rfl, rfl, rfl, rfl⟩

/-- An exchange in which the **load generator** was called for its output. -/
def Generates (c : Config) (url : String) (p : WorkloadParameters) (x : Exchange) : Prop :=
  x.mode = .output ∧ LoadCall c url p x.invocation

/-- Whether the load generator may be called: its path has to lead to a file, unless the run is
dry. -/
def MayGenerate (c : Config) (links : Links) (cwd : Place) (t : Tree) : Prop :=
  c.dryRun = true ∨ links.isFile t cwd (c.path "wrk2/wrk") = true

/-- The test in front of the call of the load generator is whether it may be called. -/
theorem mayGenerate_iff {c : Config} {links : Links} {cwd : Place} {t : Tree} :
    MayGenerate c links cwd t ↔
      ¬ (!c.dryRun && !links.isFile t cwd (c.path generatorFile)) = true := by
  rw [MayGenerate]
  cases c.dryRun <;> simp

/-- How a **workload run** ends, with its calls. -/
inductive Worked (c : Config) (url : String) (p : WorkloadParameters) (timestamp : String)
    (w v : World σ) : List Exchange → Except CommandFault WorkloadRun → Prop
  /-- The load generator could not be called. -/
  | missing (text : String) (hmissing : ¬ MayGenerate c w.links w.around.cwd w.tree)
      (hpassage : Passage ∅ w [] v) : Worked c url p timestamp w v [] (.error (.workload text))
  /-- The load generator failed. -/
  | failed (x : Exchange) (e : CallFault)
      (hmay : MayGenerate c w.links w.around.cwd w.tree)
      (hx : Generates c url p x) (hfound : x.found = w.tree) (hreply : x.reply = .error e)
      (hpassage : Passage ∅ w [x] v) : Worked c url p timestamp w v [x] (.error (.call e))
  /-- Its output could not be kept. -/
  | unkept (x : Exchange) (output : String) (fault : CommandFault)
      (hmay : MayGenerate c w.links w.around.cwd w.tree) (hx : Generates c url p x)
      (hfound : x.found = w.tree) (hreply : x.reply = .ok output)
      (hpassage : Passage {outputPath c timestamp} w [x] v) :
      Worked c url p timestamp w v [x] (.error fault)
  /-- Its output was kept. -/
  | kept (x : Exchange) (output : String)
      (hmay : MayGenerate c w.links w.around.cwd w.tree)
      (hx : Generates c url p x) (hfound : x.found = w.tree) (hreply : x.reply = .ok output)
      (hpassage : Passage {outputPath c timestamp} w [x] v)
      (hkept : v.links.readText v.tree w.around.cwd (outputPath c timestamp) = .ok output) :
      Worked c url p timestamp w v [x] (.ok ⟨timestamp, outputPath c timestamp, output⟩)

namespace Worked

variable {c : Config} {url : String} {p : WorkloadParameters} {timestamp : String}
  {w v : World σ} {xs : List Exchange} {result : Except CommandFault WorkloadRun} {x : Exchange}

/-- Only the output is touched. -/
theorem passage (h : Worked c url p timestamp w v xs result) :
    Passage {outputPath c timestamp} w xs v := by
  cases h with
  | missing _ _ hpassage => exact hpassage.mono (Set.empty_subset _)
  | failed _ _ _ _ _ _ hpassage => exact hpassage.mono (Set.empty_subset _)
  | unkept _ _ _ _ _ _ _ hpassage => exact hpassage
  | kept _ _ _ _ _ _ hpassage => exact hpassage

/-- Nothing but the load generator is called, and only if it may be. -/
theorem calls (h : Worked c url p timestamp w v xs result) (hx : x ∈ xs) :
    Generates c url p x ∧ x.found = w.tree ∧ MayGenerate c w.links w.around.cwd w.tree := by
  cases h with
  | missing => cases hx
  | failed y e hmay hy hfound => exact List.mem_singleton.mp hx ▸ ⟨hy, hfound, hmay⟩
  | unkept y output fault hmay hy hfound => exact List.mem_singleton.mp hx ▸ ⟨hy, hfound, hmay⟩
  | kept y output hmay hy hfound => exact List.mem_singleton.mp hx ▸ ⟨hy, hfound, hmay⟩

/-- If the load generator is missing, nothing is called or kept. -/
theorem of_missing (h : Worked c url p timestamp w v xs result)
    (hmissing : ¬ MayGenerate c w.links w.around.cwd w.tree) :
    xs = [] ∧ Passage ∅ w [] v ∧ ∃ fault, result = .error fault := by
  cases h with
  | missing text _ hpassage => exact ⟨rfl, hpassage, _, rfl⟩
  | failed _ _ hmay => exact absurd hmay hmissing
  | unkept _ _ _ hmay => exact absurd hmay hmissing
  | kept _ _ hmay => exact absurd hmay hmissing

/-- If the load generator fails, nothing is kept. -/
theorem of_error {e : CallFault} (h : Worked c url p timestamp w v xs result) (hx : x ∈ xs)
    (he : x.reply = .error e) : result = .error (.call e) ∧ Passage ∅ w xs v := by
  have hcontra : ∀ {y : Exchange} {output : String}, x ∈ [y] → y.reply ≠ .ok output := by
    rintro y output hy hreply
    rw [← List.mem_singleton.mp hy, he] at hreply
    cases hreply
  cases h with
  | missing => cases hx
  | failed y e' _ _ _ hreply hpassage =>
      rw [← List.mem_singleton.mp hx, he] at hreply
      rw [Except.error.inj hreply]
      exact ⟨rfl, hpassage⟩
  | unkept y output _ _ _ _ hreply => exact absurd hreply (hcontra hx)
  | kept y output _ _ _ hreply => exact absurd hreply (hcontra hx)

end Worked

/-- The output of the load generator is **kept**. -/
def keepOutput (c : Config) (timestamp output : String) : Session σ CommandFault WorkloadRun := do
  Session.withFault .system (Session.makeAll (runDir c.evaluationDir c.site.name timestamp))
  Session.withFault .system (Session.writeText (outputPath c timestamp) output)
  Session.printLine output
  Session.info ("workload results saved at " ++ (outputPath c timestamp).text)
  return { timestamp, outputPath := outputPath c timestamp, output }

section

variable {c : Config} {timestamp output : String}

/-- Keeping an output touches its file. -/
theorem confined_keepOutput :
    Confined (fun _ => False) (fun _ => {outputPath c timestamp})
      (keepOutput c timestamp output : Session σ CommandFault WorkloadRun) :=
  .bind (.withFault (.makeAll _)) fun _ =>
    .bind (.withFault (.writeText fun _ => Set.mem_singleton _)) fun _ =>
      .bind (.printLine _) fun _ => .bind (.info _) fun _ => .pure _

/-- An output that was kept is read again, wherever links lead. -/
theorem keepOutput_ok {r : WorkloadRun} {w v : World σ}
    (h : (keepOutput c timestamp output).run w = (.ok r, v)) :
    r = ⟨timestamp, outputPath c timestamp, output⟩ ∧
      v.links.readText v.tree w.around.cwd (outputPath c timestamp) = .ok output := by
  obtain ⟨_, u, hmake, h⟩ := Session.exists_of_run_bind_eq_ok h
  obtain ⟨_, u', hwrite, h⟩ := Session.exists_of_run_bind_eq_ok h
  have hmade := Session.requested_makeAll (runDir c.evaluationDir c.site.name timestamp) w
  rw [Session.run_of_run_withFault_eq_ok hmake] at hmade
  have hread := Session.readText_of_run_writeText (Session.run_of_run_withFault_eq_ok hwrite)
  obtain ⟨hr, rfl⟩ := Prod.mk.inj h
  rw [← hmade.around]
  exact ⟨(Except.ok.inj hr).symm, hread⟩

end

/-- The load generator is **called**, and its output is kept. -/
def generate (c : Config) (runner : Runner σ) (url : String) (p : WorkloadParameters)
    (timestamp : String) : Session σ CommandFault WorkloadRun := do
  Session.info (countdownLine p.duration "running workload")
  let output ← Session.withFault .call (Session.perform runner .output (generator c url p))
  keepOutput c timestamp output

section

variable (c : Config) (runner : Runner σ) (url : String) (p : WorkloadParameters)
  (timestamp : String) (w : World σ)

/-- Where the load generator may not be called, nothing happens but the failure. -/
theorem run_runWorkload_of_missing (h : ¬ MayGenerate c w.links w.around.cwd w.tree) :
    ∃ text, (runWorkload c runner url p timestamp).run w = (.error (.workload text), w) := by
  rw [mayGenerate_iff, not_not] at h
  rw [runWorkload, Session.isFile, Session.run_bind_of_ok (Session.run_ask _ w), if_pos h]
  exact ⟨_, rfl⟩

/-- Where it may be called, it is called. -/
theorem run_runWorkload_of_found (h : MayGenerate c w.links w.around.cwd w.tree) :
    (runWorkload c runner url p timestamp).run w =
      (generate c runner url p timestamp).run w := by
  rw [mayGenerate_iff] at h
  rw [runWorkload, Session.isFile, Session.run_bind_of_ok (Session.run_ask _ w), if_neg h]
  rfl

/-- **A workload run** calls the load generator once if it may, and keeps what it wrote. -/
theorem worked_runWorkload : ∃ result v xs,
    (runWorkload c runner url p timestamp).run w = (result, v) ∧
      Worked c url p timestamp w v xs result := by
  by_cases hmay : MayGenerate c w.links w.around.cwd w.tree
  · rw [run_runWorkload_of_found c runner url p timestamp w hmay, generate,
      Session.run_bind_of_ok (Session.run_info _ w)]
    obtain ⟨x, u, hcall, hcalled, hmode, hx, hfound, -⟩ :=
      Passage.exists_call ∅ CommandFault.call runner .output (generator c url p)
        (w.note [.logged .info (countdownLine p.duration "running workload")])
    have hpassage : Passage ∅ w [x] u := (Passage.note ∅ w rfl).trans hcalled
    cases hreply : x.reply with
    | error e =>
        rw [hreply] at hcall
        exact ⟨_, u, [x], Session.run_bind_of_error hcall _,
          .failed x e hmay ⟨hmode, loadCall_iff.mpr hx⟩ hfound hreply hpassage⟩
    | ok output =>
        rw [hreply] at hcall
        rw [Session.run_bind_of_ok hcall]
        rcases hkeep : (keepOutput c timestamp output).run u with ⟨result, v⟩
        have hkept := confined_keepOutput.passage hkeep
        have hall := (hpassage.mono (Set.empty_subset _)).trans hkept
        cases result with
        | error fault =>
            exact ⟨_, v, [x], rfl,
              .unkept x output fault hmay ⟨hmode, loadCall_iff.mpr hx⟩ hfound hreply hall⟩
        | ok r =>
            obtain ⟨rfl, hread⟩ := keepOutput_ok hkeep
            rw [hpassage.around] at hread
            exact ⟨_, v, [x], rfl, .kept x output hmay ⟨hmode, loadCall_iff.mpr hx⟩ hfound hreply
              hall hread⟩
  · obtain ⟨text, hrun⟩ := run_runWorkload_of_missing c runner url p timestamp w hmay
    exact ⟨_, w, [], hrun, .missing text hmay (.refl ∅ w)⟩

end

/-! ### The report -/

/-- How the **metrics** for a run are collected and how that ends. -/
inductive Measured (c : Config) (timestamp : String) (w v : World σ) (xs : List Exchange) :
    Except CommandFault Unit → Prop
  /-- The table of a metric was not told. -/
  | unmeasured (m : Metric) (e : CallFault)
      (hcut : Aggregated ⟨c.runtimeProgram, c.runtimeDeployer⟩ xs (.error (.noSource m e)))
      (hpassage : Passage ∅ w xs v) :
      Measured c timestamp w v xs (.error (.report (.noSource m e)))
  /-- The report could not be kept. -/
  | unkept (report : Report) (fault : ReportFault)
      (hwhole : Aggregated ⟨c.runtimeProgram, c.runtimeDeployer⟩ xs (.ok report))
      (hpassage : Passage {reportPath c timestamp} w xs v) :
      Measured c timestamp w v xs (.error (.report fault))
  /-- The report was kept. -/
  | kept (report : Report)
      (hwhole : Aggregated ⟨c.runtimeProgram, c.runtimeDeployer⟩ xs (.ok report))
      (hpassage : Passage {reportPath c timestamp} w xs v)
      (hkept : v.links.readText v.tree w.around.cwd (reportPath c timestamp) =
        .ok report.toRecord) :
      Measured c timestamp w v xs (.ok ())

namespace Measured

variable {c : Config} {timestamp : String} {w v : World σ} {xs : List Exchange}
  {result : Except CommandFault Unit}

/-- Only the report is touched. -/
theorem passage (h : Measured c timestamp w v xs result) :
    Passage {reportPath c timestamp} w xs v := by
  cases h with
  | unmeasured _ _ _ hpassage => exact hpassage.mono (Set.empty_subset _)
  | unkept _ _ _ hpassage => exact hpassage
  | kept _ _ hpassage => exact hpassage

/-- Only tables are asked for. -/
theorem exists_metric (h : Measured c timestamp w v xs result) {x : Exchange} (hx : x ∈ xs) :
    ∃ m, x.invocation = Source.invocation ⟨c.runtimeProgram, c.runtimeDeployer⟩ m := by
  cases h with
  | unmeasured _ _ hcut => exact hcut.exists_metric hx
  | unkept _ _ hwhole => exact hwhole.exists_metric hx
  | kept _ hwhole => exact hwhole.exists_metric hx

/-- If the table of a metric was not told, nothing is kept. -/
theorem of_error (h : Measured c timestamp w v xs result) {y : Exchange} (hy : y ∈ xs)
    {e : CallFault} (he : y.reply = .error e) :
    (∃ m, result = .error (.report (.noSource m e))) ∧ Passage ∅ w xs v := by
  cases h with
  | unmeasured m e' hcut hpassage =>
      obtain ⟨m', hm'⟩ := hcut.of_error hy he
      exact ⟨⟨m', by rw [Except.error.inj hm']⟩, hpassage⟩
  | unkept _ _ hwhole =>
      obtain ⟨m, hm⟩ := hwhole.of_error hy he
      cases hm
  | kept _ hwhole =>
      obtain ⟨m, hm⟩ := hwhole.of_error hy he
      cases hm

end Measured

/-- A record is saved as a whole. -/
theorem keep_eq (evaluationDir : Path) (report : Report) (site timestamp : String) :
    (keep evaluationDir report site timestamp : Session σ ReportFault Path) =
      (Session.saveText .notKept (recordPath evaluationDir site timestamp) report.toRecord >>=
        fun _ => pure (recordPath evaluationDir site timestamp)) := by
  cases hparent : (recordPath evaluationDir site timestamp).parent? <;>
    simp [keep, Session.saveText, hparent]

section

variable {evaluationDir : Path} {format : Report.Format} {report : Report} {site timestamp : String}

/-- A report that is published with a time stamp touches its file. -/
theorem confined_publish : Confined (fun _ => False)
    (fun _ => {recordPath evaluationDir site timestamp})
    (publish evaluationDir format report site (some timestamp) :
      Session σ ReportFault (Option Path)) := by
  refine .bind (.printLine _) fun _ => .bind ?_ fun _ => .bind (.info _) fun _ => .pure _
  rw [keep_eq]
  exact .bind (.saveText fun _ => Set.mem_singleton _) fun _ => .pure _

/-- A report that was published with a time stamp is read again, wherever links lead. -/
theorem publish_ok {path? : Option Path} {w v : World σ}
    (h : (publish evaluationDir format report site (some timestamp)).run w = (.ok path?, v)) :
    v.links.readText v.tree w.around.cwd (recordPath evaluationDir site timestamp) =
      .ok report.toRecord := by
  rw [publish, Session.run_bind_of_ok (Session.run_printLine _ w)] at h
  obtain ⟨path, u, hkeep, h⟩ := Session.exists_of_run_bind_eq_ok h
  rw [keep_eq] at hkeep
  obtain ⟨_, u', hsave, hpure⟩ := Session.exists_of_run_bind_eq_ok hkeep
  obtain ⟨hpassage, hread⟩ := Passage.of_saveText hsave
  rw [← hpassage.links] at hread
  obtain ⟨-, rfl⟩ := Prod.mk.inj hpure
  obtain ⟨-, rfl⟩ := Prod.mk.inj h
  exact hread

end

namespace Context

variable (ctx : Context σ)

/-- The metrics for a run are collected and its report is kept. -/
def measure (timestamp : String) : Session σ CommandFault Unit := do
  let _ ← ctx.collectMetrics (some timestamp)

/-- **The metrics for a run** are asked for, and the report is kept if all were told. -/
theorem measured_measure (timestamp : String) (w : World σ) :
    ∃ result v xs, (ctx.measure timestamp).run w = (result, v) ∧
      Measured ctx.config timestamp w v xs result := by
  obtain ⟨result, u, xs, hrun, hpassage, haggregated⟩ :=
    aggregated_aggregate ctx.runner ⟨ctx.config.runtimeProgram, ctx.config.runtimeDeployer⟩ w
  rw [measure, Session.run_bind, collectMetrics, Session.run_withFault]
  cases result with
  | error fault =>
      rw [Session.run_bind_of_error hrun]
      cases haggregated with
      | cut asked rest m done x e hall hcalls hasks hdone hreply =>
          exact ⟨_, u, xs, rfl,
            .unmeasured m e (.cut asked rest m done x e hall hcalls hasks hdone hreply) hpassage⟩
  | ok report =>
      rw [Session.run_bind_of_ok hrun]
      rcases hpublish : (publish ctx.config.evaluationDir ctx.config.format report
        ctx.config.site.name (some timestamp)).run u with ⟨published, v⟩
      have hpublished := confined_publish.passage hpublish
      have hboth := (hpassage.mono (Set.empty_subset _)).trans hpublished
      rw [List.append_nil] at hboth
      cases published with
      | error fault =>
          rw [Session.run_bind_of_error hpublish]
          exact ⟨_, v, xs, rfl, .unkept report fault haggregated hboth⟩
      | ok path? =>
          rw [Session.run_bind_of_ok hpublish]
          have hread := publish_ok hpublish
          rw [hpassage.around] at hread
          exact ⟨_, v, xs, rfl, .kept report haggregated hboth hread⟩

end Context

end GeoBench.Deployment
