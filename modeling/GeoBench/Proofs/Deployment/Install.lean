import GeoBench.Proofs.Deployment.Context
import GeoBench.Proofs.Deployment.Generated
import Mathlib.Data.List.Basic

/-!
# The installation of a deployment

A deployment plans its machines, waits for them, generates its files and then installs everything by
a playbook. The files that the playbook reads are generated before it is run, on every way to it:
the plans succeeded, every lookup was told an address, and every file follows its template.

## What is told of calls, and what of files

Which calls come before the playbook, and with which words, is told for every world: whatever calls
do to the files, and wherever links lead. What is read along the paths of the files when the
playbook is run is told for a world that keeps these paths apart, if the lookups spare them: two of
them that are one file through a link cannot hold two texts. A world without links keeps them apart
(`Context.keepsApart_deploymentFiles`, `Context.keepsApart_settingUpFiles`). That a write may fall
short does not matter here, for the deployment ends with a write that did.

## Main results

* `Context.prepare_ok` — the calls and the files of a preparation that succeeded.
* `Context.deployed` — the calls of a deployment, in whichever way it ends.
* `Context.generated_before_installation` — what is ready whenever the installation is run, and when
  it is never run.
-/

namespace GeoBench.Deployment

open GeoBench.Machine GeoBench.Cloud

variable {σ : Type}

namespace Context

variable (ctx : Context σ)

/-- An exchange in which an infrastructure plan was **carried out**. -/
structure Planned (action : String) (x : Exchange) : Prop where
  mode : x.mode = .run
  call : x.invocation =
    ⟨"terraform", ["-chdir=./deploy/terraform", action], [], some ctx.config.baseDir⟩
  succeeded : x.succeeded

/-- What is **ready** in a deployment that began in some world, after some calls and in some tree:
both plans were carried out, every machine was looked up, and all files are generated for the
addresses that were told, if the lookups spare them and no two of them are one file. -/
inductive Ready (w : World σ) (before : List Exchange) (found : Tree) : Prop
  | intro (init apply : Exchange) (lookups : List Exchange) (p : Profile) (europe america : String)
      (hosts : Hosts) (hcalls : before = init :: apply :: lookups)
      (hinit : ctx.Planned "init" init) (happly : ctx.Planned "apply" apply)
      (hprofile : ctx.config.profile? = some p)
      (hresolved : ctx.Resolved ctx.lookedUp (europe :: america :: hosts.all) lookups)
      (hgenerated : w.KeepsApart ctx.deploymentFiles →
        (∀ x ∈ lookups, ∀ q ∈ ctx.deploymentFiles, x.Spares w.links w.around.cwd q) →
        ctx.Generated w.links found w.around.cwd p europe america hosts) : Ready w before found

/-- **A preparation that succeeded** has everything ready. -/
theorem prepare_ok {w v : World σ} (h : ctx.prepare.run w = (.ok (), v)) :
    ∃ xs, Passage (ctx.deploymentPaths w.around) w xs v ∧ ctx.Ready w xs v.tree := by
  obtain ⟨_, w₁, hinit, h⟩ := Session.exists_of_run_bind_eq_ok h
  obtain ⟨_, w₂, happly, h⟩ := Session.exists_of_run_bind_eq_ok h
  obtain ⟨_, w₃, harrange, hgenerate⟩ := Session.exists_of_run_bind_eq_ok h
  obtain ⟨init, hp₁, hmode, hcall, hok, -⟩ := ctx.run_ok (ctx.deploymentPaths w.around) hinit
  have hinit : ctx.Planned "init" init := ⟨hmode, hcall, hok⟩
  obtain ⟨apply, hp₂, hmode, hcall, hok, -⟩ := ctx.run_ok (ctx.deploymentPaths w.around) happly
  have happly : ctx.Planned "apply" apply := ⟨hmode, hcall, hok⟩
  have hp₃ : Passage (homeConfigPaths w₂.around) w₂ [] w₃ :=
    (ctx.confined_arrange fun _ => Set.Subset.rfl).passage harrange
  rw [show w₂.around = w.around by rw [hp₂.around, hp₁.around]] at hp₃
  have hplanned := (hp₁.trans hp₂).trans (hp₃.mono Set.subset_union_right)
  obtain ⟨p, europe, america, hosts, lookups, hp, hp₄, hresolved, hgenerated⟩ :=
    ctx.generate_ok hgenerate
  rw [hplanned.links, hplanned.around] at hgenerated
  exact ⟨init :: apply :: lookups, hplanned.trans (hp₄.mono Set.subset_union_left),
    .intro init apply lookups p europe america hosts rfl hinit happly hp hresolved fun hkept =>
      hgenerated (hplanned.keepsApart hkept)⟩

/-- The calls of a **deployment**, as far as it came, and how it ended. -/
inductive Deployed (w : World σ) (xs : List Exchange) (result : Except CommandFault Unit) : Prop
  /-- It failed before it was installed, and nothing else was played. -/
  | unprepared (fault : CommandFault) (hresult : result = .error fault)
      (hcalls : ∀ x ∈ xs, x.invocation.program ≠ "ansible-playbook") : Deployed w xs result
  /-- It was installed when everything was ready, and only the state of the nodes was asked for
  after that, if the installation succeeded. -/
  | installed (before after : List Exchange) (x : Exchange) (hcalls : xs = before ++ x :: after)
      (hbefore : ∀ y ∈ before, y.invocation.program ≠ "ansible-playbook")
      (hready : ctx.Ready w before x.found) (hmode : x.mode = .run)
      (hx : x.invocation = ctx.installation)
      (hafter : ∀ y ∈ after, y.invocation = (nodesGate ctx.config).status)
      (hresult : result = .ok () → x.succeeded) : Deployed w xs result

/-- **The calls of a deployment**, in whichever way it ends. -/
theorem deployed (w : World σ) :
    ∃ result v xs, ctx.deploy.run w = (result, v) ∧
      Passage (ctx.deploymentPaths w.around) w xs v ∧ ctx.Deployed w xs result := by
  obtain ⟨before, hbefore, hother⟩ := ctx.confined_prepare w
  rw [deploy_eq, Session.run_bind]
  rcases hprepare : ctx.prepare.run w with ⟨fault | _, u⟩
  · rw [hprepare] at hbefore
    exact ⟨_, u, before, rfl, hbefore, .unprepared fault rfl hother⟩
  · rw [hprepare] at hbefore
    obtain ⟨ready, hprepared, hready⟩ := ctx.prepare_ok hprepare
    obtain rfl := hbefore.calls_unique hprepared
    -- the playbook finds what the preparation left
    obtain ⟨x, u', hplay, hplayed, hmode, hx, hfound, -⟩ :=
      ctx.passage_run (ctx.deploymentPaths w.around) ctx.installation u
    rw [← hfound] at hready
    have hgate : Confined (· = (nodesGate ctx.config).status) (fun _ => ∅)
        (ctx.awaitGate (nodesGate ctx.config) >>= fun _ => pure ()) :=
      .bind (ctx.confined_awaitGate rfl) fun _ => .pure _
    obtain ⟨after, hafter, hstatus⟩ := hgate u'
    cases hreply : foreground x with
    | error fault =>
        rw [hreply] at hplay
        exact ⟨.error fault, u', before ++ [x], Session.run_bind_of_error hplay _,
          hprepared.trans hplayed, .installed before [] x rfl hother hready hmode hx nofun nofun⟩
    | ok =>
        rw [hreply] at hplay
        exact ⟨_, _, before ++ x :: after, Session.run_bind_of_ok hplay _,
          hprepared.trans (hplayed.trans (hafter.mono (Set.empty_subset _))),
          .installed before after x rfl hother hready hmode hx hstatus fun _ =>
            foreground_eq_ok_iff.mp hreply⟩

/-! ### What is ready -/

variable {ctx} {w : World σ} {before : List Exchange} {found : Tree}

/-- When everything is ready, no lookup was told nothing. -/
theorem Ready.toldHost?_ne_none (h : ctx.Ready w before found) {x : Exchange} (hx : x ∈ before)
    (hlookup : x.invocation.program = "gcloud") : toldHost? x ≠ none := by
  have hplan : ∀ {action : String} {y : Exchange}, ctx.Planned action y → x ≠ y := by
    rintro action y hy rfl
    rw [hy.call] at hlookup
    exact absurd hlookup (show "terraform" ≠ "gcloud" by decide)
  obtain ⟨init, apply, lookups, p, europe, america, hosts, rfl, hinit, happly, -, hresolved, -⟩ := h
  rcases List.mem_cons.mp hx with rfl | hx
  · exact absurd rfl (hplan hinit)
  · rcases List.mem_cons.mp hx with rfl | hx
    · exact absurd rfl (hplan happly)
    · exact hresolved.toldHost?_ne_none hx

/-- The state of the nodes is no address. -/
theorem describeCall_ne_status (ctx : Context σ) (p : Profile) (i : Instance) :
    describeCall p i ≠ (nodesGate ctx.config).status := by
  intro h
  have harguments := congrArg (fun c => c.arguments[1]?) h
  exact absurd harguments (show some "instances" ≠ some "ssh" by decide)

/-- Templates that can be **used**, in some tree: each is where its path may arrive, and can be read
as what it is a template of. -/
structure Usable (ctx : Context σ) (links : Links) (t : Tree) (cwd : Place) : Prop where
  europe : ∃ at_ ∈ links.arrivals cwd true (ctx.settingsTemplate "eu"), ∃ source settings,
    t.Holds at_ source ∧ Toml.Document.read source = .ok settings
  america : ∃ at_ ∈ links.arrivals cwd true (ctx.settingsTemplate "us"), ∃ source settings,
    t.Holds at_ source ∧ Toml.Document.read source = .ok settings
  vars : ∃ at_ ∈ links.arrivals cwd true ctx.varsTemplate, ∃ source text, t.Holds at_ source ∧
    renderVars source { baseDir := ctx.config.baseDir.text, timestamp? := none, site? := none } =
      .ok text

/-- Templates that files follow can be used. -/
theorem Generated.usable {links : Links} {t : Tree} {cwd : Place} {p : Profile}
    {europe america : String} {hosts : Hosts}
    (h : ctx.Generated links t cwd p europe america hosts) : ctx.Usable links t cwd := by
  have hsettings : ∀ {template out : Path} {host : String},
      Follows links t cwd template out (renderSettings · host) →
      ∃ at_ ∈ links.arrivals cwd true template, ∃ source settings,
        t.Holds at_ source ∧ Toml.Document.read source = .ok settings := by
    rintro template out host ⟨source, text, hsource, hrender, -⟩
    obtain ⟨settings, hread, -⟩ := exists_of_bind_eq_ok hrender
    obtain ⟨at_, hat, hholds⟩ := Links.exists_holds_of_readText hsource
    exact ⟨at_, hat, source, settings, hholds, hread⟩
  obtain ⟨source, text, hsource, hrender, -⟩ := h.vars
  obtain ⟨at_, hat, hholds⟩ := Links.exists_holds_of_readText hsource
  exact ⟨hsettings h.europe, hsettings h.america, at_, hat, source, text, hholds, hrender⟩

/-- Templates that can be used after calls that spare them could be used before, if no two of the
files are one. -/
theorem Usable.of_ownChanges {t : Tree} {xs : List Exchange}
    (h : ctx.Usable w.links t w.around.cwd)
    (hchanges :
      OwnChanges (w.links.reached w.around.cwd (ctx.deploymentPaths w.around)) w.tree xs t)
    (hkept : w.KeepsApart (ctx.settingUpFiles w.around))
    (hspared : ∀ x ∈ xs, ∀ q ∈ ctx.deploymentFiles, x.Spares w.links w.around.cwd q) :
    ctx.Usable w.links w.tree w.around.cwd := by
  have hheld : ∀ {q : Path} {name source : String} {at_ : Place}, q ∈ ctx.deploymentFiles →
      q.HasName name → name ∈ templateNames → at_ ∈ w.links.arrivals w.around.cwd true q →
      t.Holds at_ source → w.tree.Holds at_ source := by
    intro q name source at_ hq hqname hname hat hholds
    have hapart := hkept.disjoint_reached (p := q) (List.mem_append_left _ hq) fun p hp =>
      ctx.ne_template_of_mem_deploymentPaths hp hqname hname
    exact hholds.of_eq (hchanges.file?_eq (Set.disjoint_left.mp hapart hat) fun x hx =>
      (hspared x hx q hq).files at_ hat).symm
  obtain ⟨⟨at₁, hat₁, source₁, settings₁, hsource₁, hread₁⟩,
    ⟨at₂, hat₂, source₂, settings₂, hsource₂, hread₂⟩,
    at₃, hat₃, source₃, text, hsource₃, hrender⟩ := h
  exact ⟨⟨at₁, hat₁, source₁, settings₁, hheld (by simp [deploymentFiles])
      ctx.hasName_templateEurope (by decide) hat₁ hsource₁, hread₁⟩,
    ⟨at₂, hat₂, source₂, settings₂, hheld (by simp [deploymentFiles])
      ctx.hasName_templateAmerica (by decide) hat₂ hsource₂, hread₂⟩,
    at₃, hat₃, source₃, text, hheld (by simp [deploymentFiles]) ctx.hasName_varsTemplate
      (by decide) hat₃ hsource₃, hrender⟩

/-! ### The guarantees -/

variable (ctx)

/-- **Everything is generated before it is installed.** Whenever the installation is run, both plans
were carried out, every machine was looked up by its name and zone and told an address, and all
files follow their templates for these addresses, wherever links lead, if no two of the files are
one through them and the lookups spare them. A deployment that succeeds was installed. If a lookup
is told nothing, or if one of the templates cannot be used, the installation is never run. -/
theorem generated_before_installation (w : World σ) :
    ∃ result v xs installs, ctx.deploy.run w = (result, v) ∧
      Passage (ctx.deploymentPaths w.around) w xs v ∧
      installs = (⟨"ansible-playbook",
        [((ctx.config.baseDir.sub "deploy/ansible/playbooks").sub "install-machines.yml").text,
          "-i", ctx.config.inventoryPath.text, "--extra-vars", "@" ++ ctx.config.varsPath.text],
        [], some ctx.config.baseDir⟩ : Invocation) ∧
      (∀ before x after, xs = before ++ x :: after → x.invocation = installs →
        ctx.Ready w before x.found) ∧
      (result = .ok () → ∃ x ∈ xs, x.mode = .run ∧ x.invocation = installs ∧ x.succeeded) ∧
      (∀ y ∈ xs, ∀ (p : Profile) (i : Instance),
        y.invocation = ⟨"gcloud", ["compute", "instances", "describe", i.name, "--zone", i.zone,
          "--project", p.projectId, "--format=get(networkInterfaces[0].accessConfigs[0].natIP)"],
          [], none⟩ →
        toldHost? y = none → ∀ x ∈ xs, x.invocation ≠ installs) ∧
      (w.KeepsApart (ctx.settingUpFiles w.around) →
        (∀ y ∈ xs, ∀ q ∈ ctx.deploymentFiles, y.Spares w.links w.around.cwd q) →
        ¬ ctx.Usable w.links w.tree w.around.cwd → ∀ x ∈ xs, x.invocation ≠ installs) := by
  obtain ⟨result, v, xs, hrun, hpassage, hdeployed⟩ := ctx.deployed w
  refine ⟨result, v, xs, ctx.installation, hrun, hpassage, rfl, ?_⟩
  cases hdeployed with
  | unprepared fault hresult hcalls =>
      have hnever : ∀ x ∈ xs, x.invocation ≠ ctx.installation := fun x hx heq =>
        hcalls x hx (congrArg Invocation.program heq)
      refine ⟨?_, ?_, fun _ _ _ _ _ _ => hnever, fun _ _ _ => hnever⟩
      · rintro before x after rfl hx
        exact absurd hx (hnever x (List.mem_append_right _ List.mem_cons_self))
      · intro hok
        rw [hresult] at hok
        cases hok
  | installed before after x hcalls hbefore hready hmode hx hafter hresult =>
      have hnotBefore : ∀ y ∈ before, y.invocation ≠ ctx.installation := fun y hy heq =>
        hbefore y hy (congrArg Invocation.program heq)
      have hnotAfter : ∀ y ∈ after, y.invocation ≠ ctx.installation := by
        intro y hy heq
        have hprogram := congrArg Invocation.program ((hafter y hy).symm.trans heq)
        exact absurd hprogram (show "gcloud" ≠ "ansible-playbook" by decide)
      refine ⟨?_, fun hok => ⟨x, by simp [hcalls], hmode, hx, hresult hok⟩, ?_, ?_⟩
      · -- the installation is run once
        intro before' y after' hsplit hy
        rw [hcalls] at hsplit
        obtain ⟨rfl, rfl, -⟩ := (List.append_cons_inj_of_notMem
          (fun hin => hnotBefore y hin hy) (fun hin => hnotAfter y hin hy)).mp hsplit
        exact hready
      · intro y hy p i hlookup hnone
        have hlookup : y.invocation = describeCall p i := hlookup
        rw [hcalls] at hy
        rcases List.mem_append.mp hy with hy | hy
        · exact absurd hnone
            (hready.toldHost?_ne_none hy (congrArg Invocation.program hlookup))
        · rcases List.mem_cons.mp hy with rfl | hy
          · exact absurd (hlookup.symm.trans hx) (ctx.describeCall_ne_playbook p i _)
          · exact absurd (hlookup.symm.trans (hafter y hy)) (ctx.describeCall_ne_status p i)
      · intro hkept hspared hunusable
        subst hcalls
        obtain ⟨init, apply, lookups, p, europe, america, hosts, rfl, -, -, -, -, hgenerated⟩ :=
          hready
        have husable := (hgenerated (hkept.mono (List.subset_append_left _ _)) fun y hy =>
          hspared y (by simp [hy])).usable
        exact absurd (husable.of_ownChanges hpassage.files.split.1 hkept fun y hy =>
          hspared y (List.mem_append_left _ hy)) hunusable

end Context

end GeoBench.Deployment
