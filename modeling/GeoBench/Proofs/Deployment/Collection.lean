import GeoBench.Proofs.Deployment.WorkloadOutput
import GeoBench.Proofs.Machine.Console

/-!
# The collection of metrics

The metrics are collected for a report that is shown and, if there is a time stamp, kept. The report
is printed before it is kept, and it is put into words once for the console and once for the file.
Nothing is printed before all tables were told, and what the file holds then is what was printed.

What is asked, and what is done to save a text, is told by the moves that are made.

## Failures in the middle

The tables are asked for one after the other, and the first one that is not told ends the collection
with nothing printed and nothing touched. A report that is there is printed first and kept after
that. If it cannot be kept, it was printed all the same, and the files are as they were: the
directory was in the way, or the file, and nothing was written. Only a write that falls short leaves
something, and that is supposed away by name where nothing may change (`World.WritesWhole`).

## Through links

All of it is told for every file system. The record is read back along the path that it was written
to, and every file at which that path cannot arrive is as it was.

## Main results

* `within_aggregate`, `gives_aggregate` — the moves of an aggregation, and what it gives in a dry
  run.
* `published_publish` — a report is printed once, and then saved if there is a time stamp.
* `Context.collected_whole` — what is printed, kept and left alone when metrics are collected.
-/

namespace GeoBench

open GeoBench.Machine

variable {σ : Type}

/-- The report on tables that have **no rows**. -/
def Report.nothing : Report :=
  Report.ofSamples fun _ => []

namespace Evaluation

open GeoBench.Table

/-! ### Asking -/

/-- The moves by which a source is **asked** for tables: calls for them, and lines on details. -/
inductive Source.MayAsk (s : Source) : Move → Prop
  | call (m : Metric) : s.MayAsk (.call .output (s.invocation m))
  | detail (message : String) : s.MayAsk (.say (.logged .debug message))

/-- A source is asked without a print. -/
theorem Source.MayAsk.print? {s : Source} {m : Move} (h : s.MayAsk m) : m.print? = none := by
  cases h <;> rfl

/-- No file is asked for. -/
theorem Source.MayAsk.isQuiet {s : Source} {m : Move} (h : s.MayAsk m) : m.IsQuiet := by
  cases h <;> trivial

/-- A source is asked in the words of the session. -/
theorem Source.MayAsk.isOwnWords {s : Source} {m : Move} (h : s.MayAsk m) : m.IsOwnWords := by
  cases h
  · exact rfl
  · trivial

/-- The fault of an aggregation: there is no table for a metric. -/
def IsNoSource (f : ReportFault) : Prop :=
  ∃ m cause, f = .noSource m cause

section

variable (runner : Runner σ) (s : Source)

/-- A table is asked for, and what fails then is the call for it. -/
theorem within_fetch (m : Metric) : Within runner (fun _ => s.MayAsk)
    (fun f => runner ≠ dryRun ∧ IsNoSource f) (fetch runner s m) :=
  .bind (.withFault (.perform fun _ => .call m) fun cause hrunner => ⟨hrunner, m, cause, rfl⟩)
    fun _ => .bind (.forM fun _ => .debug fun _ => .detail _) fun _ =>
    .bind (.debug fun _ => .detail _) fun _ => .pure _

/-- **An aggregation** asks for tables, and fails only if the run is not dry. -/
theorem within_aggregate : Within runner (fun _ => s.MayAsk)
    (fun f => runner ≠ dryRun ∧ IsNoSource f) (aggregate runner s) :=
  .bind (.mapM (within_fetch runner s)) fun _ => .pure _

end

/-- A dry run tells no sample. -/
theorem gives_fetch (s : Source) (metric : Metric) :
    Gives (· = []) (fetch (dryRun : Runner σ) s metric) := by
  refine .bind (.withFault (.perform _ _)) fun text htext => ?_
  refine .bind (.any _) fun _ _ => .bind (.any _) fun _ _ => .pure ?_
  rw [htext]
  rfl

/-- In a dry run the report is the one on nothing. -/
theorem gives_aggregate (s : Source) :
    Gives (· = Report.nothing) (aggregate (dryRun : Runner σ) s) := by
  refine .bind (.mapM (gives_fetch s)) fun found hfound => .pure ?_
  have hsamples : samplesOf (Metric.all.map fun _ => []) = fun _ => [] :=
    funext (lookup_zip_all fun _ => [])
  rw [hfound, hsamples, Report.nothing]

end Evaluation

namespace Deployment

open GeoBench.Evaluation

/-! ### Saving -/

/-- The moves by which a text is **saved** at a path: directories are made, the text is written, and
lines tell of it. -/
inductive MaySave (p : Path) (text : String) : Move → Prop
  | makeAll (q : Path) : MaySave p text (.makeAll q)
  | write : MaySave p text (.write p text)
  | tell (message : String) : MaySave p text (.say (.logged .info message))

/-- A text is saved without a print. -/
theorem MaySave.print? {p : Path} {text : String} {m : Move} (h : MaySave p text m) :
    m.print? = none := by
  cases h <;> rfl

/-- A text is saved in the words of the session. -/
theorem MaySave.isOwnWords {p : Path} {text : String} {m : Move} (h : MaySave p text m) :
    m.IsOwnWords := by
  cases h <;> trivial

/-- A report is **saved** as the record of a run, and that is told. -/
def save (c : Config) (timestamp : String) (report : Report) :
    Session σ ReportFault (Option Path) := do
  Session.saveText .notKept (reportPath c timestamp) report.toRecord
  Session.info ("evaluation results saved at " ++ (reportPath c timestamp).text)
  return some (reportPath c timestamp)

section

variable (c : Config) (timestamp : String) (report : Report)

/-- A report with a time stamp is printed as its record, and saved. -/
theorem publish_some : (publish c.evaluationDir c.format report c.site.name (some timestamp) :
    Session σ ReportFault (Option Path)) =
      (Session.printLine report.toRecord >>= fun _ => save c timestamp report) := by
  rw [publish, keep_eq]
  simp only [bind_assoc, pure_bind]
  rfl

/-- A report is published if its record can be saved. -/
theorem run_publish_of_saveText {w v : World σ}
    (h : (Session.saveText ReportFault.notKept (reportPath c timestamp) report.toRecord).run
      (w.note [.printed (report.toRecord ++ "\n")]) = (.ok (), v)) :
    (publish c.evaluationDir c.format report c.site.name (some timestamp)).run w =
      (.ok (some (reportPath c timestamp)), v.note [.logged .info
        ("evaluation results saved at " ++ (reportPath c timestamp).text)]) := by
  rw [publish_some, Session.run_bind_of_ok (Session.run_printLine _ w), save,
    Session.run_bind_of_ok h, Session.run_bind_of_ok (Session.run_info _ v)]
  rfl

/-- A report is saved by the moves of a text that is saved, and fails as such. -/
theorem within_save (runner : Runner σ) : Within runner
    (fun _ => MaySave (reportPath c timestamp) report.toRecord)
    (fun f => ∃ path cause, f = .notKept path cause) (save c timestamp report) :=
  .bind (.saveText (fun _ => .makeAll) (fun _ => .write) fun q cause => ⟨q, cause, rfl⟩) fun _ =>
    .bind (.info fun _ => .tell _) fun _ => .pure _

/-- A report is published by a line on the console, and by what saves it under a time stamp. -/
theorem within_publish (timestamp? : Option String) (runner : Runner σ) : Within runner
    (fun _ m => (∃ u, m = .say u) ∨
      ∃ timestamp ∈ timestamp?, MaySave (reportPath c timestamp) report.toRecord m)
    (fun f => ∃ path cause, f = .notKept path cause)
    (publish c.evaluationDir c.format report c.site.name timestamp?) := by
  cases timestamp? with
  | none => exact .bind (.printLine fun _ => .inl ⟨_, rfl⟩) fun _ => .pure _
  | some timestamp =>
      rw [publish_some]
      exact .bind (.printLine fun _ => .inl ⟨_, rfl⟩) fun _ =>
        (within_save c timestamp report runner).mono (fun _ _ hm => .inr ⟨timestamp, rfl, hm⟩)
          fun _ hf => hf

/-- How a report is **published**. -/
inductive Published (c : Config) (report : Report) (w v : World σ) :
    Option String → Except ReportFault (Option Path) → Prop
  /-- Without a time stamp it is only shown. -/
  | shown (hpassage : Passage ∅ w [] v) (htree : v.tree = w.tree) :
      Published c report w v none (.ok none)
  /-- With a time stamp its record is in its file. -/
  | kept (timestamp : String)
      (hpassage : Passage {reportPath c timestamp} w [] v)
      (hread : v.links.readText v.tree w.around.cwd (reportPath c timestamp) =
        .ok report.toRecord) :
      Published c report w v (some timestamp) (.ok (some (reportPath c timestamp)))
  /-- Or it cannot be kept. No file was changed then, unless a write fell short. -/
  | unkept (timestamp : String) (path : Path) (cause : Fault)
      (hpassage : Passage {reportPath c timestamp} w [] v)
      (hwhole : w.WritesWhole → Passage ∅ w [] v) :
      Published c report w v (some timestamp) (.error (.notKept path cause))

/-- With a time stamp the record is in its file in the end, or no file was changed. -/
theorem published_some {w v : World σ} {result : Except ReportFault (Option Path)}
    (h : (publish c.evaluationDir c.format report c.site.name (some timestamp)).run w =
      (result, v)) : Published c report w v (some timestamp) result := by
  have hprinted : ∀ apart, Passage apart w [] (w.note [.printed (report.toRecord ++ "\n")]) :=
    fun apart => .note apart w (calls_said _ [])
  rw [publish_some, Session.run_bind_of_ok (Session.run_printLine _ w)] at h
  have hfails := (within_save c timestamp report (dryRun : Runner σ)
    (w.note [.printed (report.toRecord ++ "\n")])).2
  rw [h] at hfails
  rw [save] at h
  rcases hsave : (Session.saveText ReportFault.notKept (reportPath c timestamp)
    report.toRecord).run (w.note [.printed (report.toRecord ++ "\n")]) with ⟨fault | _, u⟩
  · rw [Session.run_bind_of_error hsave] at h
    obtain ⟨rfl, rfl⟩ := Prod.mk.inj h
    obtain ⟨path, cause, rfl⟩ := hfails fault rfl
    exact .unkept timestamp path cause
      ((hprinted _).trans (Confined.passage (.saveText fun _ => Set.mem_singleton _) hsave))
      fun hwhole => (hprinted ∅).trans (.of_saveText_error hwhole hsave)
  · rw [Session.run_bind_of_ok hsave, Session.run_bind_of_ok (Session.run_info _ u)] at h
    obtain ⟨rfl, rfl⟩ := Prod.mk.inj h
    obtain ⟨hpassage, hread⟩ := Passage.of_saveText hsave
    rw [← hpassage.links] at hread
    exact .kept timestamp ((hprinted _).trans (hpassage.trans (.note _ u rfl))) hread

/-- **A report is published** by printing it once, and then by saving it if there is a time
stamp. -/
theorem published_publish (timestamp? : Option String) (runner : Runner σ) (w : World σ) :
    ∃ result ms, (publish c.evaluationDir c.format report c.site.name timestamp?).run w =
        (result, Move.replay runner ms w) ∧
      Move.prints ms = [report.echo c.format timestamp?.isSome ++ "\n"] ∧
      (∀ m ∈ ms, m.IsOwnWords) ∧
      Published c report w (Move.replay runner ms w) timestamp? result := by
  cases timestamp? with
  | none =>
      refine ⟨.ok none, [.say (.printed (report.render c.format ++ "\n"))], rfl, rfl, ?_,
        .shown (.note ∅ w (calls_said _ [])) rfl⟩
      intro m hm
      rw [List.mem_singleton.mp hm]
      trivial
  | some timestamp =>
      obtain ⟨⟨ms, hmoves, hms⟩, -⟩ := within_save c timestamp report runner
        (w.note [.printed (report.toRecord ++ "\n")])
      have hquiet : Move.prints ms = [] := Move.prints_eq_nil fun m hm => (hms m hm).print?
      rcases hrun : (publish c.evaluationDir c.format report c.site.name (some timestamp)).run w
        with ⟨result, v⟩
      have hpublished := published_some c timestamp report hrun
      rw [publish_some, Session.run_bind_of_ok (Session.run_printLine _ w)] at hrun
      rw [hrun] at hmoves
      obtain rfl : v = Move.replay runner ms (w.note [.printed (report.toRecord ++ "\n")]) := hmoves
      refine ⟨result, .say (.printed (report.toRecord ++ "\n")) :: ms, rfl, ?_, ?_, hpublished⟩
      · exact congrArg ((report.toRecord ++ "\n") :: ·) hquiet
      · intro m hm
        rcases List.mem_cons.mp hm with rfl | hm
        · trivial
        · exact (hms m hm).isOwnWords

end

/-! ### Collections -/

/-- What a **collection** of metrics owes: nothing partial is printed or kept, and what is kept is
what was printed. -/
structure Collects (c : Config) (timestamp? : Option String) (w v : World σ) (xs : List Exchange)
    (ms : List Move) (result : Except CommandFault Report) : Prop where
  /-- No file is touched but that of the report. -/
  passage : Passage {p | ∃ timestamp ∈ timestamp?, p = reportPath c timestamp} w xs v
  /-- Only tables are asked for, in order. -/
  asks : Source.AsksInOrder ⟨c.runtimeProgram, c.runtimeDeployer⟩ xs
  /-- **If a call fails**, nothing is printed, and only the calls change the tree. -/
  cut : ∀ x ∈ xs, ∀ e, x.reply = .error e →
    (∃ m, result = .error (.report (.noSource m e))) ∧ Move.prints ms = [] ∧
      OnlyCalls w.tree xs v.tree ∧ v.links = w.links
  /-- Otherwise there is a report, which is printed. **Without a time stamp** it is printed in the
  form that was chosen, and only the calls change the tree. -/
  shown : (∀ x ∈ xs, x.succeeded) → timestamp? = none →
    ∃ report, Aggregated ⟨c.runtimeProgram, c.runtimeDeployer⟩ xs (.ok report) ∧
      result = .ok report ∧ report.Legible ∧
      (c.format = .record → Move.prints ms = [report.toRecord ++ "\n"]) ∧
      (c.format = .object → Move.prints ms = [report.toObject ++ "\n"]) ∧
      OnlyCalls w.tree xs v.tree ∧ v.links = w.links
  /-- **With a time stamp** it is printed as its record, whatever form was chosen, and that record,
  which is read back as the report, is what is read along the path of its file in the end, wherever
  links lead. -/
  kept : ∀ timestamp ∈ timestamp?, ∀ report, result = .ok report →
    Aggregated ⟨c.runtimeProgram, c.runtimeDeployer⟩ xs (.ok report) ∧
      report.Legible ∧ Move.prints ms = [report.toRecord ++ "\n"] ∧
      v.links.readText v.tree w.around.cwd (reportPath c timestamp) = .ok report.toRecord
  /-- A report that **cannot be kept** was printed, and no file was touched, unless a write fell
  short. -/
  unkept : ∀ timestamp ∈ timestamp?, (∀ x ∈ xs, x.succeeded) → ∀ fault, result = .error fault →
    (∃ path cause, fault = .report (.notKept path cause)) ∧ (w.WritesWhole → Passage ∅ w xs v) ∧
      ∃ report, Aggregated ⟨c.runtimeProgram, c.runtimeDeployer⟩ xs (.ok report) ∧
        Move.prints ms = [report.toRecord ++ "\n"]

namespace Collects

variable {c : Config} {timestamp : String} {timestamp? : Option String} {w u v : World σ}
  {xs : List Exchange} {ms : List Move} {report : Report} {fault : ReportFault}
  {result : Except CommandFault Report}

/-- There is no report. -/
theorem of_cut (hcut : Aggregated ⟨c.runtimeProgram, c.runtimeDeployer⟩ xs (.error fault))
    (hpassage : Passage ∅ w xs v) (honly : OnlyCalls w.tree xs v.tree)
    (hprints : Move.prints ms = []) :
    Collects c timestamp? w v xs ms (.error (.report fault)) where
  passage := hpassage.mono (Set.empty_subset _)
  asks := hcut.asksInOrder
  cut x hx e he := by
    obtain ⟨m, hm⟩ := hcut.of_error hx he
    exact ⟨⟨m, by rw [Except.error.inj hm]⟩, hprints, honly, hpassage.links⟩
  shown hall := absurd hall hcut.not_all_succeeded
  kept := nofun
  unkept _ _ hall := absurd hall hcut.not_all_succeeded

/-- There is a report, and it is published. -/
theorem of_published {published : Except ReportFault (Option Path)}
    (hwhole : Aggregated ⟨c.runtimeProgram, c.runtimeDeployer⟩ xs (.ok report))
    (hpassage : Passage ∅ w xs u) (honly : OnlyCalls w.tree xs u.tree)
    (hpublished : Published c report u v timestamp? published)
    (hprints : Move.prints ms = [report.echo c.format timestamp?.isSome ++ "\n"]) :
    Collects c timestamp? w v xs ms ((published.map fun _ => report).mapError .report) := by
  have hasks := hwhole.asksInOrder
  have hall : ∀ {apart}, Passage apart u [] v → Passage apart w xs v := by
    intro apart hafter
    have hboth := (hpassage.mono (Set.empty_subset apart)).trans hafter
    rwa [List.append_nil] at hboth
  cases hpublished with
  | shown hshown htree =>
      refine ⟨(hall hshown).mono (Set.empty_subset _), hasks,
        fun _ hx e he => absurd he (hwhole.reply_ne_error hx e), fun _ _ => ?_, nofun, nofun⟩
      rw [htree]
      refine ⟨report, hwhole, rfl, hwhole.legible, fun hformat => ?_, fun hformat => ?_, honly,
        (hall hshown).links⟩
      · rw [hprints, hformat]
        rfl
      · rw [hprints, hformat]
        rfl
  | kept timestamp hsaved hread =>
      rw [hpassage.around] at hread
      refine ⟨(hall hsaved).mono (Set.singleton_subset_iff.mpr ⟨timestamp, rfl, rfl⟩), hasks,
        fun _ hx e he => absurd he (hwhole.reply_ne_error hx e), nofun, ?_, nofun⟩
      rintro timestamp' htimestamp report' hreport
      obtain rfl : timestamp = timestamp' := Option.some.inj htimestamp
      obtain rfl : report = report' := Except.ok.inj hreport
      exact ⟨hwhole, hwhole.legible, hprints, hread⟩
  | unkept timestamp path cause hsaved hunsaved =>
      refine ⟨(hall hsaved).mono (Set.singleton_subset_iff.mpr ⟨timestamp, rfl, rfl⟩), hasks,
        fun _ hx e he => absurd he (hwhole.reply_ne_error hx e), nofun, nofun, ?_⟩
      intro _ _ _ fault hfault
      exact ⟨⟨path, cause, (Except.error.inj hfault).symm⟩,
        fun hwrites => hall (hunsaved (hpassage.onward.writesWhole hwrites)), report, hwhole,
        hprints⟩

/-- Calls that change nothing leave the file system as it is when one of them fails, and when there
is no time stamp. -/
theorem unchanged (h : Collects c timestamp? w v xs ms result)
    (hidle : ∀ x ∈ xs, x.left = x.found)
    (hnone : timestamp? = none ∨ ∃ x ∈ xs, ¬ x.succeeded) :
    v.tree = w.tree ∧ v.links = w.links := by
  by_cases hcut : ∃ x ∈ xs, ¬ x.succeeded
  · obtain ⟨x, hx, hfailed⟩ := hcut
    cases hreply : x.reply with
    | ok text => exact absurd ⟨text, hreply⟩ hfailed
    | error e =>
        obtain ⟨-, -, honly, hlinks⟩ := h.cut x hx e hreply
        exact ⟨honly.eq_of_idle hidle, hlinks⟩
  · have hall : ∀ x ∈ xs, x.succeeded :=
      fun x hx => by_contra fun hfailed => hcut ⟨x, hx, hfailed⟩
    obtain ⟨report, -, -, -, -, -, honly, hlinks⟩ := h.shown hall (hnone.resolve_right hcut)
    exact ⟨honly.eq_of_idle hidle, hlinks⟩

end Collects

namespace Context

variable (ctx : Context σ)

/-- Metrics are **collected** by moves of the session's own words. The aggregation prints nothing,
and what follows it prints once, before anything is saved. -/
theorem collects_collectMetrics (timestamp? : Option String) (w : World σ) : ∃ result xs ms,
    (ctx.collectMetrics timestamp?).run w = (result, Move.replay ctx.runner ms w) ∧
      (∀ m ∈ ms, m.IsOwnWords) ∧
      Collects ctx.config timestamp? w (Move.replay ctx.runner ms w) xs ms result := by
  obtain ⟨aggregated, u, xs, hrun, hpassage, haggregated⟩ :=
    aggregated_aggregate ctx.runner ⟨ctx.config.runtimeProgram, ctx.config.runtimeDeployer⟩ w
  obtain ⟨⟨asked, hasked, hmay⟩, -⟩ := within_aggregate ctx.runner
    ⟨ctx.config.runtimeProgram, ctx.config.runtimeDeployer⟩ w
  rw [hrun] at hasked
  obtain rfl : u = Move.replay ctx.runner asked w := hasked
  have hsilent : Move.prints asked = [] := Move.prints_eq_nil fun m hm => (hmay m hm).print?
  have hown : ∀ m ∈ asked, m.IsOwnWords := fun m hm => (hmay m hm).isOwnWords
  have honly := hpassage.onlyCalls fun m hm => (hmay m hm).isQuiet
  rw [collectMetrics, Session.run_withFault]
  cases aggregated with
  | error fault =>
      rw [Session.run_bind_of_error hrun]
      exact ⟨_, xs, asked, rfl, hown, .of_cut haggregated hpassage honly hsilent⟩
  | ok report =>
      obtain ⟨published, told, hpublish, hprints, htold, hpublished⟩ :=
        published_publish ctx.config report timestamp? ctx.runner
          (Move.replay ctx.runner asked w)
      rw [← Move.replay_append] at hpublish hpublished
      refine ⟨(published.map fun _ => report).mapError .report, xs, asked ++ told, ?_, ?_, ?_⟩
      · rw [Session.run_bind_of_ok hrun, Session.run_bind, hpublish]
        cases published <;> rfl
      · exact fun m hm => (List.mem_append.mp hm).elim (hown m) (htold m)
      · refine .of_published haggregated hpassage honly hpublished ?_
        rw [Move.prints_append, hsilent, List.nil_append, hprints]

/-- **What is printed and kept** when metrics are collected, whatever the runner answers and
whatever the tree is like. -/
theorem collected_whole (timestamp? : Option String) (w : World σ) : ∃ result v xs ms,
    (ctx.collectMetrics timestamp?).run w = (result, v) ∧ v = Move.replay ctx.runner ms w ∧
      Collects ctx.config timestamp? w v xs ms result ∧
      ((∀ x ∈ xs, x.left = x.found) → (timestamp? = none ∨ ∃ x ∈ xs, ¬ x.succeeded) →
        v.tree = w.tree ∧ v.links = w.links) ∧
      (ctx.runner.Captures →
        ∃ new, v.events = w.events ++ new ∧ calls new = xs ∧ printed new = Move.prints ms) := by
  obtain ⟨result, xs, ms, hrun, hown, hcollects⟩ := ctx.collects_collectMetrics timestamp? w
  exact ⟨result, _, xs, ms, hrun, rfl, hcollects, hcollects.unchanged,
    fun hcaptures => hcollects.passage.printed hcaptures hown⟩

end Context

end Deployment
end GeoBench
