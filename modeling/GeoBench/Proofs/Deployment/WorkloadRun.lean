import GeoBench.Proofs.Deployment.Context
import GeoBench.Proofs.Deployment.Generated
import GeoBench.Proofs.Deployment.VarEntries
import GeoBench.Proofs.Deployment.WorkloadOutput
import GeoBench.Proofs.Yaml.StampText
import GeoBench.Registry

/-!
# Workload runs on both targets

On this computer the metrics are collected after a workload; on the cloud deployment the address is
looked up before it, and the metrics are gathered by a playbook after it. In between both do the
same: the load generator is called if it is there, and its output is kept.

What is guaranteed about the load generator is read off that common part, and a lookup in front of
it changes nothing about it.

## What both targets owe

The load generator is called only if it may be, nothing is changed if it is missing or fails, and a
failure of its call is the failure of the run (`Guarded`). The conditions are stated for any calls
in front, since calls may bring a load generator or take it away: it counts what the call itself
finds.

## What each target owes

On this computer (`Collected`) the output and the report are kept under one time stamp in one
directory, and what is read of the report later is the report that was told. On the cloud deployment
(`Kept`) the playbook that gathers the metrics finds the output in place, and variables that name
the same run. The time stamp is the clock's throughout, so all three parts agree on it.

## Through links

Both are told for every file system. The output is read again at the end if it is no file that was
written after it: the report on this computer, the variables on the cloud deployment. They have
other names, so only a link can make them one, and a world that keeps their paths apart has no such
link.

## Main results

* `Context.ran_workloadOn` — the common part and what comes after it, in whichever way it ends.
* `Registry.dispatch_workload` — what a workload keeps, on either target.
-/

namespace GeoBench

open GeoBench.Machine GeoBench.Evaluation GeoBench.Cloud

variable {σ : Type}

namespace Deployment

/-! ### The load generator -/

/-- An exchange in which the load generator was called on **some address**. -/
def CallsGenerator (c : Config) (p : WorkloadParameters) (x : Exchange) : Prop :=
  ∃ url, LoadCall c url p x.invocation

/-- A call with another number of arguments is none of the load generator. -/
theorem not_callsGenerator {c : Config} {p : WorkloadParameters} {x : Exchange} {i : Invocation}
    (hx : x.invocation = i) (h : i.arguments.length ≠ 14) : ¬ CallsGenerator c p x := by
  rintro ⟨url, hgenerator⟩
  rw [← hx, hgenerator.arguments] at h
  exact h rfl

/-- What every workload run guarantees about its **load generator**, with its calls and how it
ends. -/
structure Guarded (c : Config) (p : WorkloadParameters) (w v : World σ) (xs : List Exchange)
    (result : Except CommandFault Unit) : Prop where
  /-- It is called only if it may be. -/
  may : ∀ x ∈ xs, CallsGenerator c p x → MayGenerate c w.links w.around.cwd x.found
  /-- If it is missing, and the calls do not bring it, the run fails without a call of it, and no
  file is changed. -/
  missing : ¬ MayGenerate c w.links w.around.cwd w.tree →
    (∀ y ∈ xs, ¬ MayGenerate c w.links w.around.cwd y.found →
      ¬ MayGenerate c w.links w.around.cwd y.left) →
    (∃ fault, result = .error fault) ∧ (∀ x ∈ xs, ¬ CallsGenerator c p x) ∧
      ∀ at_, (∀ y ∈ xs, y.SparesAt at_) → v.tree.file? at_ = w.tree.file? at_
  /-- If it fails, the run fails for that, and no file is changed. -/
  failed : ∀ x ∈ xs, CallsGenerator c p x → ∀ e, x.reply = .error e →
    result = .error (.call e) ∧
      ∀ at_, (∀ y ∈ xs, y.SparesAt at_) → v.tree.file? at_ = w.tree.file? at_

/-! ### Runs from an address on -/

/-- A **run** from its address on, with its calls: the workload, and what is done after it. -/
inductive Ran (c : Config) (url : String) (p : WorkloadParameters)
    (Finished : World σ → World σ → List Exchange → Except CommandFault Unit → Prop)
    (w v : World σ) : List Exchange → Except CommandFault Unit → Prop
  /-- There is no output, or it could not be kept. -/
  | stopped (called : List Exchange) (fault : CommandFault)
      (hworked : Worked c url p w.around.clock w v called (.error fault)) :
      Ran c url p Finished w v called (.error fault)
  /-- The output was kept. -/
  | finished (called after : List Exchange) (run : WorkloadRun) (u : World σ)
      (result : Except CommandFault Unit)
      (hworked : Worked c url p w.around.clock w u called (.ok run))
      (hfinished : Finished u v after result) :
      Ran c url p Finished w v (called ++ after) result

/-- The guarantees of a run from its address on. -/
theorem Ran.guarded {c : Config} {url : String} {p : WorkloadParameters}
    {Finished : World σ → World σ → List Exchange → Except CommandFault Unit → Prop}
    (hother : ∀ {u v xs result}, Finished u v xs result → ∀ x ∈ xs, ¬ CallsGenerator c p x)
    {w v : World σ} {xs : List Exchange} {result : Except CommandFault Unit}
    (h : Ran c url p Finished w v xs result) : Guarded c p w v xs result := by
  cases h with
  | stopped _ fault hworked =>
      have hsilent : ∀ {xs : List Exchange} (at_ : Place), Passage ∅ w xs v →
          (∀ y ∈ xs, y.SparesAt at_) → v.tree.file? at_ = w.tree.file? at_ := fun at_ hpassage =>
        hpassage.file?_eq_of_silent
      refine ⟨?_, ?_, ?_⟩
      · intro x hx _
        obtain ⟨-, hfound, hmay⟩ := hworked.calls hx
        rwa [hfound]
      · intro hmissing _
        obtain ⟨rfl, hpassage, -⟩ := hworked.of_missing hmissing
        exact ⟨⟨fault, rfl⟩, nofun, fun at_ => hsilent at_ hpassage⟩
      · intro x hx _ e he
        obtain ⟨hresult, hpassage⟩ := hworked.of_error hx he
        obtain rfl : fault = .call e := Except.error.inj hresult
        exact ⟨rfl, fun at_ => hsilent at_ hpassage⟩
  | finished called after run u _ hworked hfinished =>
      have hcalled : ∀ x ∈ called ++ after, CallsGenerator c p x → x ∈ called := by
        intro x hx hcalls
        exact (List.mem_append.mp hx).resolve_right fun hafter =>
          hother hfinished x hafter hcalls
      refine ⟨?_, ?_, ?_⟩
      · intro x hx hcalls
        obtain ⟨-, hfound, hmay⟩ := hworked.calls (hcalled x hx hcalls)
        rwa [hfound]
      · intro hmissing
        obtain ⟨-, -, fault, hfault⟩ := hworked.of_missing hmissing
        cases hfault
      · intro x hx hcalls e he
        obtain ⟨hresult, -⟩ := hworked.of_error (hcalled x hx hcalls) he
        cases hresult

/-- A run touches its output, and what is touched after it. -/
theorem Ran.passage {c : Config} {url : String} {p : WorkloadParameters}
    {Finished : World σ → World σ → List Exchange → Except CommandFault Unit → Prop}
    {apart : Set Path} {w v : World σ} {xs : List Exchange} {result : Except CommandFault Unit}
    (hout : outputPath c w.around.clock ∈ apart)
    (hfinish : ∀ {u v xs result}, Finished u v xs result → Passage apart u xs v)
    (h : Ran c url p Finished w v xs result) : Passage apart w xs v := by
  have hsub := Set.singleton_subset_iff.mpr hout
  cases h with
  | stopped _ _ hworked => exact hworked.passage.mono hsub
  | finished _ _ _ _ _ hworked hfinished =>
      exact (hworked.passage.mono hsub).trans (hfinish hfinished)

namespace Context

variable (ctx : Context σ)

/-- A workload is **run on an address**, and something is done after it. -/
def workloadOn (url : String) (p : WorkloadParameters)
    (finish : String → Session σ CommandFault Unit) : Session σ CommandFault Unit := do
  let timestamp := (← Session.around).clock
  let _ ← runWorkload ctx.config ctx.runner url p timestamp
  finish timestamp

variable {ctx}

/-- **A run from an address on** is a workload run and what is done after it. -/
theorem ran_workloadOn {Finished : World σ → World σ → List Exchange →
      Except CommandFault Unit → Prop} {finish : String → Session σ CommandFault Unit}
    {w : World σ} (hfinish : ∀ u, u.around = w.around → ∃ result v xs,
      (finish w.around.clock).run u = (result, v) ∧ Finished u v xs result)
    (url : String) (p : WorkloadParameters) :
    ∃ result v xs, (ctx.workloadOn url p finish).run w = (result, v) ∧
      Ran ctx.config url p Finished w v xs result := by
  rw [workloadOn, Session.run_bind_of_ok (Session.run_around w)]
  obtain ⟨result, u, called, hrun, hworked⟩ :=
    worked_runWorkload ctx.config ctx.runner url p w.around.clock w
  cases result with
  | error fault =>
      exact ⟨_, u, called, Session.run_bind_of_error hrun _, .stopped called fault hworked⟩
  | ok run =>
      obtain ⟨result, v, after, hrest, hfinished⟩ := hfinish u hworked.passage.around
      exact ⟨result, v, called ++ after, (Session.run_bind_of_ok hrun _).trans hrest,
        .finished called after run u result hworked hfinished⟩

end Context

/-! ### Runs on this computer -/

/-- On this computer a workload runs on the local address, and the metrics are collected after
it. -/
theorem Context.localWorkload_eq (ctx : Context σ) (p : WorkloadParameters) :
    ctx.localWorkload (.workload p) = ctx.workloadOn ctx.config.localUrl p ctx.measure := rfl

/-- What a run on **this computer** keeps, with its calls and how it ends, wherever links lead. -/
structure Collected (c : Config) (p : WorkloadParameters) (timestamp : String) (w v : World σ)
    (xs : List Exchange) (result : Except CommandFault Unit) : Prop where
  /-- If it succeeds, the load generator was called once, and after it the six metrics were told.
  The report on the metrics is kept and is read back as that report. What the load generator wrote
  is kept beside it as it is, unless the two are one file through links. No other file is
  changed. -/
  done : result = .ok () → ∃ x metrics output report, xs = x :: metrics ∧
    Generates c c.localUrl p x ∧ x.reply = .ok output ∧
    (∀ y ∈ metrics, ¬ CallsGenerator c p y) ∧ metrics.length = 6 ∧
    Source.AsksInOrder ⟨c.runtimeProgram, c.runtimeDeployer⟩ metrics ∧
    Aggregated ⟨c.runtimeProgram, c.runtimeDeployer⟩ metrics (.ok report) ∧
    w.links.readText v.tree w.around.cwd (reportPath c timestamp) = .ok report.toRecord ∧
    report.Legible ∧
    (w.KeepsApart [outputPath c timestamp, reportPath c timestamp] →
      (∀ y ∈ metrics, y.Spares w.links w.around.cwd (outputPath c timestamp)) →
        w.links.readText v.tree w.around.cwd (outputPath c timestamp) = .ok output) ∧
    ∀ at_, at_ ∉ w.links.arrivals w.around.cwd true (outputPath c timestamp) →
      at_ ∉ w.links.arrivals w.around.cwd true (reportPath c timestamp) →
      (∀ y ∈ xs, y.SparesAt at_) → v.tree.file? at_ = w.tree.file? at_
  /-- If the load generator is missing, nothing is called. -/
  missing : ¬ MayGenerate c w.links w.around.cwd w.tree → xs = []
  /-- If a metric is not told after the workload, the run fails for that. What the load generator
  wrote is kept all the same, and no other file is changed, nor is the report made. -/
  unmeasured : ∀ x metrics, xs = x :: metrics → ∀ y ∈ metrics, ∀ e, y.reply = .error e →
    (∃ m, result = .error (.report (.noSource m e))) ∧
    ∃ output, Generates c c.localUrl p x ∧ x.reply = .ok output ∧
      ((∀ z ∈ metrics, z.Spares w.links w.around.cwd (outputPath c timestamp)) →
        w.links.readText v.tree w.around.cwd (outputPath c timestamp) = .ok output) ∧
      ∀ at_, at_ ∉ w.links.arrivals w.around.cwd true (outputPath c timestamp) →
        (∀ z ∈ xs, z.SparesAt at_) → v.tree.file? at_ = w.tree.file? at_

/-- Nothing but tables is asked for when the metrics are collected. -/
theorem not_callsGenerator_of_measured {c : Config} {p : WorkloadParameters} {timestamp : String}
    {u v : World σ} {xs : List Exchange} {result : Except CommandFault Unit}
    (h : Measured c timestamp u v xs result) : ∀ y ∈ xs, ¬ CallsGenerator c p y := by
  intro y hy
  obtain ⟨m, hm⟩ := h.exists_metric hy
  exact not_callsGenerator hm (show 3 ≠ 14 by decide)

/-- What is touched after the output was kept: a file that neither of the two may be is as before,
and the output is read again if it is not touched. -/
theorem kept_behind {c : Config} {timestamp output : String} {apart : Set Path} {w u v : World σ}
    {x : Exchange} {after : List Exchange} (hpassage : Passage {outputPath c timestamp} w [x] u)
    (hkept : w.links.readText u.tree w.around.cwd (outputPath c timestamp) = .ok output)
    (hafter : Passage apart u after v) :
    (Disjoint (w.links.arrivals w.around.cwd true (outputPath c timestamp))
        (w.links.reached w.around.cwd apart) →
      (∀ y ∈ after, y.Spares w.links w.around.cwd (outputPath c timestamp)) →
      w.links.readText v.tree w.around.cwd (outputPath c timestamp) = .ok output) ∧
    ∀ at_, at_ ∉ w.links.arrivals w.around.cwd true (outputPath c timestamp) →
      at_ ∉ w.links.reached w.around.cwd apart → (∀ y ∈ x :: after, y.SparesAt at_) →
      v.tree.file? at_ = w.tree.file? at_ := by
  have hlinks := hpassage.links
  have haround := hpassage.around
  constructor
  · intro hapart hspared
    rw [← hlinks, ← haround] at hapart hspared hkept ⊢
    exact hafter.readText hapart hspared hkept
  · intro at_ hout hother hspared
    rw [hafter.file?_eq (by rwa [hlinks, haround]) fun y hy =>
        hspared y (List.mem_cons_of_mem _ hy),
      hpassage.file?_eq (by rwa [Links.reached_singleton]) fun y hy =>
        hspared y (List.mem_singleton.mp hy ▸ List.mem_cons_self)]

/-- The guarantees of a run on this computer. -/
theorem Ran.collected {c : Config} {p : WorkloadParameters} {w v : World σ} {xs : List Exchange}
    {result : Except CommandFault Unit}
    (h : Ran c c.localUrl p (Measured c w.around.clock) w v xs result) :
    Collected c p w.around.clock w v xs result := by
  cases h with
  | stopped _ fault hworked =>
      refine ⟨nofun, fun hmissing => (hworked.of_missing hmissing).1, ?_⟩
      rintro x metrics rfl y hy
      cases hworked <;> cases hy
  | finished called after run u _ hworked hmeasured =>
      cases hworked with
      | kept x output hmay hx hfound hreply hpassage hkept =>
          rw [hpassage.links] at hkept
          refine ⟨?_, fun hmissing => absurd hmay hmissing, ?_⟩
          · rintro rfl
            obtain ⟨hout, hframe⟩ := kept_behind hpassage hkept hmeasured.passage
            have hother := not_callsGenerator_of_measured (p := p) hmeasured
            cases hmeasured with
            | kept report hwhole hmeasuring hread =>
                rw [hmeasuring.links, hpassage.links, hpassage.around] at hread
                rw [Links.reached_singleton] at hout hframe
                refine ⟨x, after, output, report, rfl, hx, hreply, hother, hwhole.length_eq,
                  hwhole.asksInOrder, hwhole, hread, hwhole.legible, fun hapart => ?_, hframe⟩
                exact hout (hapart.disjoint (by simp) (by simp) (hasName_outputPath c _)
                  (hasName_reportPath c _) (by decide))
          · intro x' metrics heq y hy e he
            obtain ⟨rfl, rfl⟩ := List.cons.inj heq
            obtain ⟨hresult, hsilent⟩ := hmeasured.of_error hy he
            obtain ⟨hout, hframe⟩ := kept_behind hpassage hkept hsilent
            rw [Links.reached_empty] at hout hframe
            exact ⟨hresult, output, hx, hreply, hout (Set.disjoint_empty _),
              fun at_ hne => hframe at_ hne (Set.notMem_empty at_)⟩

/-! ### Runs behind a lookup -/

namespace Context.Looked

variable {ctx : Context σ} {i : Instance} {w u v : World σ} {ys xs : List Exchange}
  {found : Except CommandFault String} {c : Config} {p : WorkloadParameters}

/-- A lookup is no call of the load generator. -/
theorem not_callsGenerator (h : ctx.Looked i w u found ys) : ∀ y ∈ ys, ¬ CallsGenerator c p y := by
  intro y hy
  obtain ⟨q, hcall⟩ := h.exists_describeCall hy
  exact Deployment.not_callsGenerator hcall (show 9 ≠ 14 by decide)

/-- What is missing stays missing, if the calls do not bring it. -/
theorem not_mayGenerate (h : ctx.Looked i w u found ys) {links : Links} {cwd : Place}
    (hmissing : ¬ MayGenerate c links cwd w.tree)
    (hkeep : ∀ y ∈ ys, ¬ MayGenerate c links cwd y.found → ¬ MayGenerate c links cwd y.left) :
    ¬ MayGenerate c links cwd u.tree := by
  cases h with
  | unasked _ htree => rwa [htree]
  | asked _ y _ _ _ _ hfound hleft =>
      rw [← hleft]
      exact hkeep y List.mem_cons_self (by rwa [hfound])

/-- A run that ends with its lookup does not come to the load generator. -/
theorem guarded (h : ctx.Looked i w v found ys) (fault : CommandFault) :
    Guarded c p w v ys (.error fault) where
  may _ hx hcalls := absurd hcalls (h.not_callsGenerator _ hx)
  missing _ _ := ⟨⟨fault, rfl⟩, h.not_callsGenerator,
    fun _ => h.passage.file?_eq_of_silent⟩
  failed _ hx hcalls := absurd hcalls (h.not_callsGenerator _ hx)

/-- A lookup in front changes no guarantee. -/
theorem guarded_append {result : Except CommandFault Unit} (h : ctx.Looked i w u found ys)
    (hrest : Guarded c p u v xs result) : Guarded c p w v (ys ++ xs) result := by
  have hcwd : u.around = w.around := h.passage.around
  have hlinks : u.links = w.links := h.passage.links
  have hfile : ∀ at_, (∀ y ∈ ys ++ xs, y.SparesAt at_) → u.tree.file? at_ = w.tree.file? at_ :=
    fun _ hspared => h.passage.file?_eq_of_silent fun y hy =>
      hspared y (List.mem_append_left _ hy)
  have hbehind : ∀ x ∈ ys ++ xs, CallsGenerator c p x → x ∈ xs := fun x hx hcalls =>
    (List.mem_append.mp hx).resolve_left fun hy => h.not_callsGenerator _ hy hcalls
  obtain ⟨hmay, hmissing, hfailed⟩ := hrest
  rw [hcwd, hlinks] at hmay hmissing
  refine ⟨fun x hx hcalls => hmay x (hbehind x hx hcalls) hcalls, ?_, ?_⟩
  · intro hnone hkeep
    obtain ⟨hfault, hcalls, hfiles⟩ := hmissing
      (h.not_mayGenerate hnone fun y hy => hkeep y (List.mem_append_left _ hy))
      fun y hy => hkeep y (List.mem_append_right _ hy)
    refine ⟨hfault, fun x hx hcall => hcalls x (hbehind x hx hcall) hcall, fun at_ hspared => ?_⟩
    rw [hfiles at_ fun y hy => hspared y (List.mem_append_right _ hy), hfile at_ hspared]
  · intro x hx hcalls e he
    obtain ⟨hresult, hfiles⟩ := hfailed x (hbehind x hx hcalls) hcalls e he
    refine ⟨hresult, fun at_ hspared => ?_⟩
    rw [hfiles at_ fun y hy => hspared y (List.mem_append_right _ hy), hfile at_ hspared]

end Context.Looked

namespace Context

variable (ctx : Context σ)

/-! ### Runs on the cloud deployment -/

/-- The metrics of the cloud deployment are **gathered** for a run. -/
def gather (timestamp : String) : Session σ CommandFault Unit := do
  ctx.generateVars (some timestamp) (some .cloud)
  ctx.run (ctx.playbook "gather-metrics.yml")
  Session.info ("metrics results saved at evaluation/gcp/" ++ timestamp ++
    "/ in metrics-eu.yaml and metrics-us.yaml files")

/-- On the cloud deployment a workload runs on the address that was looked up. -/
theorem cloudWorkload_eq (p : WorkloadParameters) :
    ctx.cloudWorkload (.workload p) = (ctx.hostOf ctx.config.layout.appEurope >>= fun host =>
      ctx.workloadOn ("http://" ++ host ++ ":" ++ toString ctx.config.appPort) p ctx.gather) := rfl

/-- How the metrics are **gathered**, with the calls for that. -/
inductive Gathered (timestamp : String) (w v : World σ) :
    List Exchange → Except CommandFault Unit → Prop
  /-- The variables could not be generated. -/
  | ungenerated (fault : CommandFault)
      (hpassage : Passage {ctx.config.varsPath} w [] v) :
      Gathered timestamp w v [] (.error fault)
  /-- The playbook was run when the variables had been generated. -/
  | played (x : Exchange) (hmode : x.mode = .run)
      (hx : x.invocation = ctx.playbook "gather-metrics.yml")
      (hpassage : Passage {ctx.config.varsPath} w [x] v)
      (hrendered : Rendered w.links w.around.cwd w.tree x.found ctx.varsTemplate ctx.config.varsPath
        (renderVars · { baseDir := ctx.config.baseDir.text, timestamp? := some timestamp,
                        site? := some .cloud })) :
      Gathered timestamp w v [x] (foreground x)

/-- **The metrics are gathered** by a playbook, once the variables have been generated. -/
theorem gathered_gather (timestamp : String) (w : World σ) :
    ∃ result v xs, (ctx.gather timestamp).run w = (result, v) ∧
      ctx.Gathered timestamp w v xs result := by
  have hconfined : Confined (fun _ => False) (fun _ => {ctx.config.varsPath})
      (ctx.generateVars (some timestamp) (some .cloud)) :=
    ctx.confined_generateVars _ _ fun _ => Set.mem_singleton _
  rcases hvars : (ctx.generateVars (some timestamp) (some .cloud)).run w with ⟨fault | _, u⟩
  · exact ⟨_, u, [], Session.run_bind_of_error hvars _,
      .ungenerated fault (hconfined.passage hvars)⟩
  · obtain ⟨hgenerated, hrendered⟩ := ctx.generateVars_ok hvars
    obtain ⟨x, v, hrun, hplayed, hmode, hx, hfound, -⟩ :=
      ctx.passage_run {ctx.config.varsPath} (ctx.playbook "gather-metrics.yml") u
    rw [← hfound] at hrendered
    have hpassage := hgenerated.trans hplayed
    rw [gather, Session.run_bind_of_ok hvars]
    cases hreply : foreground x with
    | error fault =>
        rw [hreply] at hrun
        refine ⟨_, v, [x], Session.run_bind_of_error hrun _, ?_⟩
        rw [← hreply]
        exact .played x hmode hx hpassage hrendered
    | ok =>
        rw [hreply] at hrun
        refine ⟨_, _, [x], (Session.run_bind_of_ok hrun _).trans (Session.run_info _ _), ?_⟩
        rw [← hreply]
        exact .played x hmode hx (hpassage.trans (.note _ v rfl)) hrendered

/-- A text of variables that **names a run** on the cloud deployment: the entries that it was
written from have the time stamp of the run and the name of the target, a reader who gets back what
was written finds them, and each stands in the text on a line of its own. -/
structure NamesRun (text timestamp : String) : Prop where
  entries : ∃ vars : Yaml.Value, text = vars.render ∧
    vars.entry? "workload_timestamp" = some (.string timestamp) ∧
    vars.entry? "deployment_type" = some (.string "gcp") ∧
    (Yaml.ReadsBack vars → Yaml.Document.read text = .ok vars)
  run : ∀ date time, timestamp = String.ofList (Clock.stampChars date time) →
    Yaml.HasLine text ("workload_timestamp: " ++ timestamp)
  target : Yaml.HasLine text "deployment_type: gcp"

/-- Variables that were rendered for a run name it. -/
theorem namesRun_of_renderVars {template text baseDir timestamp : String}
    (h : renderVars template { baseDir, timestamp? := some timestamp, site? := some .cloud } =
      .ok text) : NamesRun text timestamp := by
  obtain ⟨vars, rfl, -, htimestamp, htype⟩ := exists_of_renderVars h
  have hrun : Yaml.Value.IsPlainKey "workload_timestamp" := by decide +kernel
  have htarget : Yaml.Value.IsPlainKey "deployment_type" := by decide +kernel
  refine ⟨⟨vars, rfl, htimestamp, htype, id⟩, ?_, ?_⟩
  · rintro date time rfl
    rw [show "workload_timestamp: " = "workload_timestamp" ++ ": " by decide]
    exact Yaml.Value.hasLine_of_entry hrun (Yaml.Value.isPlain_stampChars date time) htimestamp
  · rw [show "deployment_type: gcp" = "deployment_type" ++ ": " ++ "gcp" by decide]
    exact Yaml.Value.hasLine_of_entry htarget (by decide +kernel) htype

/-- What is **kept** when the metrics are gathered, wherever links lead: only the address was looked
up before the workload, the output of the load generator is there as it is, unless the variables are
the same file through links, and the variables name this run. -/
structure Kept (p : WorkloadParameters) (timestamp : String) (w : World σ)
    (before : List Exchange) (found : Tree) : Prop where
  workload : ∃ lookups x url output, before = lookups ++ [x] ∧
    (∀ y ∈ lookups, ∃ q, AsksAddress q ctx.config.layout.appEurope y.invocation) ∧
    Generates ctx.config url p x ∧ x.reply = .ok output ∧
    (w.KeepsApart [outputPath ctx.config timestamp, ctx.config.varsPath] →
      w.links.readText found w.around.cwd (outputPath ctx.config timestamp) = .ok output)
  named : ∃ text, w.links.readText found w.around.cwd ctx.config.varsPath = .ok text ∧
    NamesRun text timestamp

variable {ctx}

/-- What is kept in a later world is kept in an earlier one. -/
theorem Kept.of_passage {p : WorkloadParameters} {timestamp : String} {w u : World σ}
    {before xs : List Exchange} {apart : Set Path} {found : Tree}
    (h : ctx.Kept p timestamp u before found) (hpassage : Passage apart w xs u) :
    ctx.Kept p timestamp w before found := by
  obtain ⟨⟨lookups, x, url, output, hcalls, hlookups, hx, hreply, houtput⟩, hnamed⟩ := h
  rw [hpassage.links, hpassage.around] at houtput hnamed
  exact ⟨⟨lookups, x, url, output, hcalls, hlookups, hx, hreply,
    houtput ∘ hpassage.keepsApart⟩, hnamed⟩

namespace Gathered

variable {timestamp : String} {w v : World σ} {xs : List Exchange}
  {result : Except CommandFault Unit}

/-- Only the variables are touched. -/
theorem passage (h : ctx.Gathered timestamp w v xs result) :
    Passage {ctx.config.varsPath} w xs v := by
  cases h with
  | ungenerated _ hpassage => exact hpassage
  | played _ _ _ hpassage => exact hpassage

/-- Nothing but the playbook is called. -/
theorem not_callsGenerator {p : WorkloadParameters} (h : ctx.Gathered timestamp w v xs result) :
    ∀ x ∈ xs, ¬ CallsGenerator ctx.config p x := by
  intro x hx
  cases h with
  | ungenerated => cases hx
  | played _ _ hplay =>
      rw [List.mem_singleton.mp hx]
      exact Deployment.not_callsGenerator hplay (show 5 ≠ 14 by decide)

/-- The metrics were gathered if nothing failed. -/
theorem exists_played (h : ctx.Gathered timestamp w v xs (.ok ())) :
    ∃ x ∈ xs, x.mode = .run ∧ x.invocation = ctx.playbook "gather-metrics.yml" ∧
      x.succeeded := by
  generalize hresult : (.ok () : Except CommandFault Unit) = result at h
  cases h with
  | ungenerated => cases hresult
  | played x hmode hx =>
      exact ⟨x, List.mem_singleton_self x, hmode, hx, foreground_eq_ok_iff.mp hresult.symm⟩

end Gathered

/-- A run that succeeds on the cloud deployment gathers the metrics. -/
theorem exists_played_of_ran {url timestamp : String} {p : WorkloadParameters} {w v : World σ}
    {xs : List Exchange} (h : Ran ctx.config url p (ctx.Gathered timestamp) w v xs (.ok ())) :
    ∃ x ∈ xs, x.mode = .run ∧ x.invocation = ctx.playbook "gather-metrics.yml" ∧
      x.succeeded := by
  generalize hresult : (.ok () : Except CommandFault Unit) = result at h
  cases h with
  | stopped => cases hresult
  | finished called after run u _ _ hgathered =>
      subst hresult
      obtain ⟨x, hx, hplayed⟩ := hgathered.exists_played
      exact ⟨x, List.mem_append_right _ hx, hplayed⟩

/-- **When the metrics are gathered**, the output and the variables of the run are kept. The calls
of the run may stand behind lookups of addresses. -/
theorem kept_of_ran {url : String} {p : WorkloadParameters} {w v : World σ}
    {lookups xs before after : List Exchange} {x : Exchange} {result : Except CommandFault Unit}
    (h : Ran ctx.config url p (ctx.Gathered w.around.clock) w v xs result)
    (hlookups : ∀ y ∈ lookups, ∃ q, y.invocation = describeCall q ctx.config.layout.appEurope)
    (hsplit : lookups ++ xs = before ++ x :: after)
    (hx : x.invocation = ctx.playbook "gather-metrics.yml") :
    after = [] ∧ ctx.Kept p w.around.clock w before x.found := by
  have hlookup : x ∉ lookups := by
    intro hin
    obtain ⟨q, hcall⟩ := hlookups x hin
    exact ctx.describeCall_ne_playbook q _ _ (hcall.symm.trans hx)
  have hgenerator : ¬ CallsGenerator ctx.config p x :=
    not_callsGenerator hx (show 5 ≠ 14 by decide)
  have hmem : x ∈ lookups ++ xs := by
    rw [hsplit]
    exact List.mem_append_right _ List.mem_cons_self
  have hmem := (List.mem_append.mp hmem).resolve_left hlookup
  cases h with
  | stopped _ _ hworked => exact absurd ⟨url, (hworked.calls hmem).1.2⟩ hgenerator
  | finished called behind run u _ hworked hgathered =>
      cases hworked with
      | kept y output hmay hy hfound hreply hpassage hkept =>
          have hne : x ≠ y := by
            rintro rfl
            exact hgenerator ⟨url, hy.2⟩
          cases hgathered with
          | ungenerated => exact absurd (List.mem_singleton.mp hmem) hne
          | played z _ hplay hplaying hrendered =>
              have hlast : lookups ++ [y] ++ [z] = before ++ x :: after := by
                rw [← hsplit, List.append_assoc]
              have hnot : x ∉ lookups ++ [y] := fun hin =>
                (List.mem_append.mp hin).elim hlookup fun hin => hne (List.mem_singleton.mp hin)
              obtain ⟨rfl, rfl, rfl⟩ := eq_last_of_notMem hlast hnot
              obtain ⟨_, text, -, hrender, hvars⟩ := hrendered
              rw [hpassage.links, hpassage.around] at hvars
              refine ⟨rfl, ⟨lookups, y, url, output, rfl, ?_, hy, hreply, fun hapart => ?_⟩,
                text, hvars, namesRun_of_renderVars hrender⟩
              · intro l hl
                obtain ⟨q, hcall⟩ := hlookups l hl
                exact ⟨q, asksAddress_iff.mpr hcall⟩
              · have hfiles := hplaying.files.1
                rw [hpassage.links, hpassage.around] at hfiles
                rw [hpassage.links] at hkept
                refine Links.readText_of_extends hfiles (hapart.disjoint_reached (by simp) ?_) hkept
                rintro _ rfl
                exact ⟨by simp, ctx.hasName_vars.ne (hasName_outputPath _ _) (by decide)⟩

end Context

end Deployment

/-! ### Workloads on either target -/

namespace Registry

open GeoBench.Deployment

variable (ctx : Context σ) (p : WorkloadParameters) (w : World σ)

/-- A workload on **this computer**. -/
theorem workload_localhost (hsite : ctx.config.site = .localhost) :
    ∃ result v xs, (standard.dispatch ctx (.workload p)).run w = (result, v) ∧
      Passage {outputPath ctx.config w.around.clock, reportPath ctx.config w.around.clock} w xs v ∧
      Guarded ctx.config p w v xs result ∧
      Collected ctx.config p w.around.clock w v xs result := by
  have hdispatch : standard.dispatch ctx (.workload p) =
      ctx.workloadOn ctx.config.localUrl p ctx.measure := by
    rw [dispatch, hsite]
    exact ctx.localWorkload_eq p
  obtain ⟨result, v, xs, hrun, hran⟩ := Context.ran_workloadOn (w := w)
    (fun u _ => ctx.measured_measure w.around.clock u) ctx.config.localUrl p
  rw [hdispatch]
  refine ⟨result, v, xs, hrun, ?_, hran.guarded not_callsGenerator_of_measured, hran.collected⟩
  exact hran.passage (Set.mem_insert _ _) fun hmeasured =>
    hmeasured.passage.mono (Set.subset_insert _ _)

/-- A workload on the **cloud deployment**. -/
theorem workload_cloud (hsite : ctx.config.site = .cloud) :
    ∃ result v xs, (standard.dispatch ctx (.workload p)).run w = (result, v) ∧
      Passage {outputPath ctx.config w.around.clock, ctx.config.varsPath} w xs v ∧
      Guarded ctx.config p w v xs result ∧
      (result = .ok () → ∃ x ∈ xs, x.mode = .run ∧
        x.invocation = ctx.playbook "gather-metrics.yml" ∧ x.succeeded) ∧
      ∀ before x after, xs = before ++ x :: after →
        x.invocation = ctx.playbook "gather-metrics.yml" →
        after = [] ∧ ctx.Kept p w.around.clock w before x.found := by
  have hdispatch : standard.dispatch ctx (.workload p) =
      (ctx.hostOf ctx.config.layout.appEurope >>= fun host =>
        ctx.workloadOn ("http://" ++ host ++ ":" ++ toString ctx.config.appPort) p ctx.gather) := by
    rw [dispatch, hsite]
    exact ctx.cloudWorkload_eq p
  rw [hdispatch]
  obtain ⟨found, u, lookups, hfind, hlooked⟩ :=
    ctx.looked_hostOf ctx.config.layout.appEurope w
  have haround := hlooked.passage.around
  have hlookup := hlooked.passage.mono (Set.empty_subset
    {outputPath ctx.config w.around.clock, ctx.config.varsPath})
  cases found with
  | error fault =>
      refine ⟨.error fault, u, lookups, Session.run_bind_of_error hfind _, hlookup,
        hlooked.guarded fault, nofun, ?_⟩
      rintro before x after rfl hx
      obtain ⟨q, hcall⟩ :=
        hlooked.exists_describeCall (List.mem_append_right _ List.mem_cons_self)
      exact absurd (hcall.symm.trans hx) (ctx.describeCall_ne_playbook q _ _)
  | ok host =>
      obtain ⟨result, v, xs, hrun, hran⟩ := Context.ran_workloadOn (w := u)
        (fun u' _ => ctx.gathered_gather u.around.clock u')
        ("http://" ++ host ++ ":" ++ toString ctx.config.appPort) p
      have hplaying : Passage {outputPath ctx.config w.around.clock, ctx.config.varsPath} u xs v :=
        hran.passage (by rw [haround]; exact Set.mem_insert _ _) fun hgathered =>
          hgathered.passage.mono (Set.subset_insert _ _)
      refine ⟨result, v, lookups ++ xs, (Session.run_bind_of_ok hfind _).trans hrun,
        hlookup.trans hplaying,
        hlooked.guarded_append (hran.guarded Context.Gathered.not_callsGenerator), ?_, ?_⟩
      · rintro rfl
        obtain ⟨x, hx, hplayed⟩ := Context.exists_played_of_ran hran
        exact ⟨x, List.mem_append_right _ hx, hplayed⟩
      intro before x after hsplit hx
      obtain ⟨hlast, hkept⟩ :=
        Context.kept_of_ran hran (fun y => hlooked.exists_describeCall) hsplit hx
      rw [haround] at hkept
      exact ⟨hlast, hkept.of_passage hlooked.passage⟩

/-- **One workload run, one directory.** On either target the load generator is guarded, and what
it wrote is kept in the directory of the run: on this computer with the report on the metrics beside
it, and on the cloud deployment before the metrics are gathered, for the same run. A run that
succeeds there has gathered them. -/
theorem dispatch_workload :
    (reportPath ctx.config w.around.clock).place w.around.cwd ≠
      (outputPath ctx.config w.around.clock).place w.around.cwd ∧
    (Path.IsName w.around.clock →
      (outputPath ctx.config w.around.clock).place w.around.cwd =
        "workload.out" :: w.around.clock :: ctx.config.site.name :: "evaluation" ::
          ctx.config.baseDir.place w.around.cwd ∧
      (reportPath ctx.config w.around.clock).place w.around.cwd =
        "metrics.yml" :: w.around.clock :: ctx.config.site.name :: "evaluation" ::
          ctx.config.baseDir.place w.around.cwd) ∧
    ∃ result v xs, (standard.dispatch ctx (.workload p)).run w = (result, v) ∧
      Guarded ctx.config p w v xs result ∧
      (ctx.config.site = .localhost →
        Passage {outputPath ctx.config w.around.clock, reportPath ctx.config w.around.clock}
          w xs v ∧
        Collected ctx.config p w.around.clock w v xs result) ∧
      (ctx.config.site = .cloud →
        Passage {outputPath ctx.config w.around.clock, ctx.config.varsPath} w xs v ∧
        ∃ gathers : Invocation, gathers = ⟨"ansible-playbook",
          [((ctx.config.baseDir.sub "deploy/ansible/playbooks").sub "gather-metrics.yml").text,
            "-i", ctx.config.inventoryPath.text, "--extra-vars",
            "@" ++ ctx.config.varsPath.text], [], some ctx.config.baseDir⟩ ∧
          (result = .ok () → ∃ x ∈ xs, x.mode = .run ∧ x.invocation = gathers ∧ x.succeeded) ∧
          ∀ before x after, xs = before ++ x :: after → x.invocation = gathers →
            after = [] ∧ ctx.Kept p w.around.clock w before x.found) := by
  refine ⟨place_reportPath_ne _ _ _, fun hname =>
    ⟨place_outputPath ctx.config hname _, place_reportPath ctx.config hname _⟩, ?_⟩
  cases hsite : ctx.config.site with
  | localhost =>
      obtain ⟨result, v, xs, hrun, hpassage, hguarded, hcollected⟩ :=
        workload_localhost ctx p w hsite
      exact ⟨result, v, xs, hrun, hguarded, fun _ => ⟨hpassage, hcollected⟩, nofun⟩
  | cloud =>
      obtain ⟨result, v, xs, hrun, hpassage, hguarded, hplayed, hkept⟩ :=
        workload_cloud ctx p w hsite
      exact ⟨result, v, xs, hrun, hguarded, nofun, fun _ =>
        ⟨hpassage, ctx.playbook "gather-metrics.yml", rfl, hplayed, hkept⟩⟩

end Registry

end GeoBench
