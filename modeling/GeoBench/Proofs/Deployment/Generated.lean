import GeoBench.Proofs.Deployment.Context
import GeoBench.Proofs.Deployment.Footprint
import Mathlib.Data.List.Forall2

/-!
# Generated files

What a deployment has generated when the generation succeeded: every file follows its template, with
the addresses that were told in the lookups of this run. A lookup asks for one machine and is told
an address of its own, so two lookups of one machine may be told different ones.

Each file is written by its own step, and the later steps touch other paths. So what was read and
written in a step is read again at the end, if the calls in between spare it and no two of the paths
are one file through links.

## Two trees

What a template renders to is told by the template as it was **before** a file was written, and what
was written is read in the tree **after** it (`Rendered`). A file that follows its template does so
in one tree (`Follows`). The step from the one to the other needs that the template was not
overwritten, that is, that it is another file than the one that was generated.

## Addresses

Each address comes from one call, and the calls are told one by one with the machine that they ask
for, word by word (`Context.Resolved`). In a dry run there is no call, and the name of a machine in
angle brackets stands for its address.

## Main results

* `Context.hostOf_ok` — the calls of a lookup that succeeded.
* `Context.generate_ok` — the calls and the files of a generation that succeeded.
-/

namespace GeoBench.Deployment

open GeoBench.Machine GeoBench.Cloud

variable {σ : Type}

/-! ### Files that follow a template -/

/-- A file is **rendered** between two trees: it is what its template was before renders to. -/
def Rendered {ε : Type} (links : Links) (cwd : Place) (t t' : Tree) (template out : Path)
    (render : String → Except ε String) : Prop :=
  ∃ source text, links.readText t cwd template = .ok source ∧ render source = .ok text ∧
    links.readText t' cwd out = .ok text

/-- A file **follows** a template: it is what the template renders to. -/
def Follows {ε : Type} (links : Links) (t : Tree) (cwd : Place) (template out : Path)
    (render : String → Except ε String) : Prop :=
  Rendered links cwd t t template out render

section

variable {ε : Type} {template out : Path} {render : String → Except ε String}
  {before apart : Set Path} {w u v : World σ} {xs ys : List Exchange}

/-- A file follows its template as long as both are left alone. -/
theorem Follows.of_passage (hbefore : Passage before w ys u)
    (h : Follows w.links u.tree w.around.cwd template out render) (hpassage : Passage apart u xs v)
    (htemplate : Disjoint (w.links.arrivals w.around.cwd true template)
      (w.links.reached w.around.cwd apart))
    (hout : Disjoint (w.links.arrivals w.around.cwd true out)
      (w.links.reached w.around.cwd apart))
    (hspared : ∀ x ∈ xs, x.Spares w.links w.around.cwd template ∧
      x.Spares w.links w.around.cwd out) :
    Follows w.links v.tree w.around.cwd template out render := by
  rw [← hbefore.links, ← hbefore.around] at h htemplate hout hspared ⊢
  obtain ⟨source, text, hsource, hrender, htext⟩ := h
  exact ⟨source, text, hpassage.readText htemplate (fun x hx => (hspared x hx).1) hsource, hrender,
    hpassage.readText hout (fun x hx => (hspared x hx).2) htext⟩

/-- A file follows its template as long as nothing is touched or called. -/
theorem Follows.of_silent (hbefore : Passage before w ys u)
    (h : Follows w.links u.tree w.around.cwd template out render) (hpassage : Passage ∅ u [] v) :
    Follows w.links v.tree w.around.cwd template out render := by
  refine h.of_passage hbefore hpassage ?_ ?_ fun _ hx => absurd hx List.not_mem_nil
  · rw [Links.reached_empty]
    exact Set.disjoint_empty _
  · rw [Links.reached_empty]
    exact Set.disjoint_empty _

/-- A file that was rendered follows its template, if that is another file. -/
theorem Rendered.follows (h : Rendered w.links w.around.cwd w.tree v.tree template out render)
    (hpassage : Passage {out} w [] v)
    (hapart : Disjoint (w.links.arrivals w.around.cwd true template)
      (w.links.arrivals w.around.cwd true out)) :
    Follows w.links v.tree w.around.cwd template out render := by
  obtain ⟨source, text, hsource, hrender, htext⟩ := h
  rw [← Links.reached_singleton w.links w.around.cwd out] at hapart
  exact ⟨source, text, hpassage.readText hapart (fun _ hx => absurd hx List.not_mem_nil) hsource,
    hrender, htext⟩

end

/-- A file that was written has its text along its path, and no other file was touched. -/
theorem writeOutput_ok {path : Path} {content : String} {w v : World σ}
    (h : (writeOutput path content : Session σ TemplateFault Unit).run w = (.ok (), v)) :
    Passage {path} w [] v ∧ w.links.readText v.tree w.around.cwd path = .ok content := by
  rw [writeOutput_eq] at h
  exact Passage.of_saveText h

/-- **A file that was rendered** is what its template before renders to, wherever links lead, and no
other file was touched. -/
theorem renderFile_ok {ε : Type} {template out : Path} {render : String → Except ε String}
    {fault : ε → TemplateFault} {w v : World σ}
    (h : (renderFile template out fault render).run w = (.ok (), v)) :
    Passage {out} w [] v ∧
      Rendered w.links w.around.cwd w.tree v.tree template out render := by
  obtain ⟨source, u, hread, h⟩ := Session.exists_of_run_bind_eq_ok h
  obtain ⟨text, u', hrender, hwrite⟩ := Session.exists_of_run_bind_eq_ok h
  have hread := Session.run_of_run_withFault_eq_ok hread
  obtain ⟨hsource, rfl⟩ := Prod.mk.inj hread
  obtain ⟨htext, rfl⟩ : render source = .ok text ∧ w = u' :=
    Prod.mk.inj (Session.run_of_run_withFault_eq_ok hrender)
  obtain ⟨hpassage, hout⟩ := writeOutput_ok hwrite
  exact ⟨hpassage, source, text, hsource, htext, hout⟩

/-- A file is rendered in the place of another one if its template can be read and its directory is
there, in a world without links in which no write falls short. -/
theorem run_renderFile_of_readText {ε : Type} {template out : Path} (fault : ε → TemplateFault)
    (render : String → Except ε String) {source text old : String} {w : World σ}
    (hfree : w.LinkFree) (hwhole : w.WritesWhole)
    (hsource : w.tree.readText w.around.cwd template = .ok source)
    (htext : render source = .ok text)
    (hparent : ∀ parent ∈ out.parent?, w.tree.makeAll w.around.cwd parent = ⟨w.tree, none⟩)
    (hold : w.tree.readText w.around.cwd out = .ok old) :
    ∃ v, (renderFile template out fault render).run w = (.ok (), v) := by
  have hread : (readTemplate template).run w = (.ok source, w) := by
    rw [readTemplate, Session.run_withFault, Session.run_readText_of_linkFree hfree, hsource]
    rfl
  have hrender : (Session.withFault fault (Session.ofExcept (render source))).run w =
      (.ok text, w) := by
    rw [Session.run_withFault, Session.run_ofExcept, htext]
    rfl
  rw [renderFile, Session.run_bind_of_ok hread, Session.run_bind_of_ok hrender, writeOutput_eq]
  exact Session.run_saveText_of_readText hfree hwhole hparent hold

/-- A file that could not be written was not touched, if no write falls short. -/
theorem allOrNothing_writeOutput {allowed : Invocation → Prop} (path : Path) (content : String) :
    AllOrNothing allowed (writeOutput path content : Session σ TemplateFault Unit) := by
  rw [writeOutput_eq]
  exact .saveText

/-- A file that could not be rendered was not touched, if no write falls short. -/
theorem allOrNothing_renderFile {allowed : Invocation → Prop} {ε : Type} (template out : Path)
    (fault : ε → TemplateFault) (render : String → Except ε String) :
    AllOrNothing allowed (renderFile template out fault render : Session σ TemplateFault Unit) :=
  .bind (confined_readTemplate template) fun _ => .bind (.withFault (.ofExcept _)) fun _ =>
    allOrNothing_writeOutput out _

/-! ### Lookups -/

/-- The addresses of all machines, in the order in which they are looked up. -/
def Hosts.all (h : Hosts) : List String :=
  [h.storeManager, h.storeEurope, h.storeAmerica, h.appWorkload, h.appEurope, h.appAmerica]

namespace Context

/-- How the addresses of some machines were **resolved**, one after the other: each by a call of its
own, or by none in a dry run. -/
inductive Resolved (ctx : Context σ) : List Instance → List String → List Exchange → Prop
  /-- There is no machine left. -/
  | done : Resolved ctx [] [] []
  /-- A machine was looked up, and an address was told. -/
  | asked {i : Instance} {machines : List Instance} {host : String} {hosts : List String}
      {xs : List Exchange} (p : Profile) (x : Exchange) (hdry : ctx.config.dryRun = false)
      (hprofile : ctx.config.profile? = some p) (hmode : x.mode = .output)
      (hasks : AsksAddress p i x.invocation) (hhost : toldHost? x = some host)
      (hrest : Resolved ctx machines hosts xs) :
      Resolved ctx (i :: machines) (host :: hosts) (x :: xs)
  /-- Nothing is looked up in a dry run. -/
  | dry {i : Instance} {machines : List Instance} {hosts : List String} {xs : List Exchange}
      (hdry : ctx.config.dryRun = true) (hrest : Resolved ctx machines hosts xs) :
      Resolved ctx (i :: machines) (("<" ++ i.name ++ ">") :: hosts) xs

namespace Resolved

variable {ctx : Context σ} {machines machines' : List Instance} {hosts hosts' : List String}
  {xs xs' : List Exchange}

/-- Some machines, and then some others. -/
theorem append (h : ctx.Resolved machines hosts xs) (h' : ctx.Resolved machines' hosts' xs') :
    ctx.Resolved (machines ++ machines') (hosts ++ hosts') (xs ++ xs') := by
  induction h with
  | done => exact h'
  | asked p x hdry hprofile hmode hasks hhost _ ih =>
      exact .asked p x hdry hprofile hmode hasks hhost ih
  | dry hdry _ ih => exact .dry hdry ih

/-- In each lookup of machines that were resolved, an address was **told**. -/
theorem toldHost?_ne_none (h : ctx.Resolved machines hosts xs) {x : Exchange} (hx : x ∈ xs) :
    toldHost? x ≠ none := by
  induction h with
  | done => cases hx
  | asked p y _ _ _ _ hhost _ ih =>
      rcases List.mem_cons.mp hx with rfl | hx
      · rw [hhost]
        exact Option.some_ne_none _
      · exact ih hx
  | dry _ _ ih => exact ih hx

end Resolved

variable (ctx : Context σ)

/-- **A lookup that succeeded**: one call, in which an address was told, or none in a dry run. -/
theorem hostOf_ok {i : Instance} {host : String} {w v : World σ}
    (h : (ctx.hostOf i).run w = (.ok host, v)) :
    ∃ xs, Passage ∅ w xs v ∧ ctx.Resolved [i] [host] xs := by
  obtain ⟨result, u, xs, hrun, hlooked⟩ := ctx.looked_hostOf i w
  obtain ⟨rfl, rfl⟩ := Prod.mk.inj (hrun.symm.trans h)
  refine ⟨xs, hlooked.passage, ?_⟩
  cases hlooked with
  | unasked hunasked =>
      obtain ⟨hdry, rfl⟩ := hunasked host rfl
      exact .dry hdry .done
  | asked p x hdry hprofile hmode hx _ _ hhost =>
      exact .asked p x hdry hprofile hmode (asksAddress_iff.mpr hx) (hhost host rfl) .done

/-! ### The files of a deployment -/

/-- The template of the variables. -/
def varsTemplate : Path :=
  ctx.config.path "deploy/ansible/vars.yml"

/-- The name of the settings of one region. -/
theorem hasName_settingsEurope : (ctx.settingsPath "eu").HasName "weaver-gcp-eu.toml" :=
  Path.hasName_sub _ (by decide) (by decide) (by decide) (by decide)

/-- The name of the settings of the other region. -/
theorem hasName_settingsAmerica : (ctx.settingsPath "us").HasName "weaver-gcp-us.toml" :=
  Path.hasName_sub _ (by decide) (by decide) (by decide) (by decide)

/-- The name of the inventory. -/
theorem hasName_inventory : ctx.config.inventoryPath.HasName "ansible-inventory-gcp.cfg" :=
  Path.hasName_sub _ (by decide) (by decide) (by decide) (by decide)

/-- The name of the variables. -/
theorem hasName_vars : ctx.config.varsPath.HasName "ansible-vars.yml" :=
  Path.hasName_sub _ (by decide) (by decide) (by decide) (by decide)

/-- The name of the template of the settings of one region. -/
theorem hasName_templateEurope : (ctx.settingsTemplate "eu").HasName "weaver-template-eu.toml" :=
  Path.hasName_sub _ (by decide) (by decide) (by decide) (by decide)

/-- The name of the template of the settings of the other region. -/
theorem hasName_templateAmerica : (ctx.settingsTemplate "us").HasName "weaver-template-us.toml" :=
  Path.hasName_sub _ (by decide) (by decide) (by decide) (by decide)

/-- The name of the template of the variables. -/
theorem hasName_varsTemplate : ctx.varsTemplate.HasName "vars.yml" :=
  Path.hasName_sub _ (by decide) (by decide) (by decide) (by decide)

/-! ### Steps that succeeded -/

variable {w v : World σ}

/-- Settings that were generated follow their template, for the address that was told, if they are
another file than it. -/
theorem generateSettingsFor_ok {region : String} {datastore : Instance}
    (h : (ctx.generateSettingsFor region datastore).run w = (.ok (), v)) :
    ∃ host xs, Passage {ctx.settingsPath region} w xs v ∧ ctx.Resolved [datastore] [host] xs ∧
      (Disjoint (w.links.arrivals w.around.cwd true (ctx.settingsTemplate region))
          (w.links.arrivals w.around.cwd true (ctx.settingsPath region)) →
        Follows w.links v.tree w.around.cwd (ctx.settingsTemplate region)
          (ctx.settingsPath region) (renderSettings · host)) := by
  obtain ⟨host, u, hhost, h⟩ := Session.exists_of_run_bind_eq_ok h
  obtain ⟨_, u', hrender, hinfo⟩ := Session.exists_of_run_bind_eq_ok h
  obtain ⟨xs, hlookup, hresolved⟩ := ctx.hostOf_ok hhost
  have htold : Passage ∅ u' [] v := Confined.passage_silent (.info _) hinfo
  obtain ⟨hwritten, hrendered⟩ := renderFile_ok (Session.run_of_run_withFault_eq_ok hrender)
  refine ⟨host, xs, ?_, hresolved, fun hapart => ?_⟩
  · have hall := (hlookup.mono (Set.empty_subset _)).trans
      (hwritten.trans (htold.mono (Set.empty_subset _)))
    rwa [List.append_nil, List.append_nil] at hall
  · rw [← hlookup.links, ← hlookup.around] at hapart ⊢
    exact (hrendered.follows hwritten hapart).of_silent hwritten htold

/-- Each address of an inventory was told for its own machine. -/
theorem hosts_ok {hosts : Hosts} {w v : World σ} (h : ctx.hosts.run w = (.ok hosts, v)) :
    ∃ xs, Passage ∅ w xs v ∧ ctx.Resolved ctx.machines hosts.all xs := by
  obtain ⟨a, w₁, ha, h⟩ := Session.exists_of_run_bind_eq_ok h
  obtain ⟨b, w₂, hb, h⟩ := Session.exists_of_run_bind_eq_ok h
  obtain ⟨c, w₃, hc, h⟩ := Session.exists_of_run_bind_eq_ok h
  obtain ⟨d, w₄, hd, h⟩ := Session.exists_of_run_bind_eq_ok h
  obtain ⟨e, w₅, he, h⟩ := Session.exists_of_run_bind_eq_ok h
  obtain ⟨f, w₆, hf, h⟩ := Session.exists_of_run_bind_eq_ok h
  obtain ⟨hhosts, rfl⟩ := Prod.mk.inj h
  obtain rfl := Except.ok.inj hhosts
  obtain ⟨as, hpa, hra⟩ := ctx.hostOf_ok ha
  obtain ⟨bs, hpb, hrb⟩ := ctx.hostOf_ok hb
  obtain ⟨cs, hpc, hrc⟩ := ctx.hostOf_ok hc
  obtain ⟨ds, hpd, hrd⟩ := ctx.hostOf_ok hd
  obtain ⟨es, hpe, hre⟩ := ctx.hostOf_ok he
  obtain ⟨fs, hpf, hrf⟩ := ctx.hostOf_ok hf
  exact ⟨_, ((((hpa.trans hpb).trans hpc).trans hpd).trans hpe).trans hpf,
    ((((hra.append hrb).append hrc).append hrd).append hre).append hrf⟩

/-- An inventory that was generated has the addresses that were told, and the user of the
profile. -/
theorem generateInventory_ok (h : ctx.generateInventory.run w = (.ok (), v)) :
    ∃ p hosts xs, ctx.config.profile? = some p ∧ Passage {ctx.config.inventoryPath} w xs v ∧
      ctx.Resolved ctx.machines hosts.all xs ∧
      w.links.readText v.tree w.around.cwd ctx.config.inventoryPath =
        .ok (renderInventory hosts p.username) := by
  obtain ⟨hosts, u, hhosts, h⟩ := Session.exists_of_run_bind_eq_ok h
  obtain ⟨p, u', hprofile, h⟩ := Session.exists_of_run_bind_eq_ok h
  obtain ⟨_, u'', hwrite, hinfo⟩ := Session.exists_of_run_bind_eq_ok h
  obtain ⟨xs, hlookup, hresolved⟩ := ctx.hosts_ok hhosts
  obtain ⟨hrequire, rfl⟩ : ctx.config.requireProfile = .ok p ∧ u = u' :=
    Prod.mk.inj (Session.run_of_run_withFault_eq_ok hprofile)
  have hp := (Config.requireProfile_eq_ok_iff _ _).mp hrequire
  have htold : Passage ∅ u'' [] v := Confined.passage_silent (.info _) hinfo
  obtain ⟨hwritten, htext⟩ := writeOutput_ok (Session.run_of_run_withFault_eq_ok hwrite)
  refine ⟨p, hosts, xs, hp, ?_, hresolved, ?_⟩
  · have hall := (hlookup.mono (Set.empty_subset _)).trans
      (hwritten.trans (htold.mono (Set.empty_subset _)))
    rwa [List.append_nil, List.append_nil] at hall
  · rw [← hlookup.links, ← hlookup.around]
    rw [← hwritten.links, ← hwritten.around] at htext ⊢
    exact htold.readText_of_silent htext

/-- Variables that were generated are what their template before renders to. -/
theorem generateVars_ok {timestamp? : Option String} {site? : Option Site}
    (h : (ctx.generateVars timestamp? site?).run w = (.ok (), v)) :
    Passage {ctx.config.varsPath} w [] v ∧
      Rendered w.links w.around.cwd w.tree v.tree ctx.varsTemplate ctx.config.varsPath
        (renderVars · { baseDir := ctx.config.baseDir.text, timestamp?, site? }) :=
  renderFile_ok (Session.run_of_run_withFault_eq_ok h)

/-! ### The generation as a whole -/

/-- The machines that are looked up for a deployment, in order: the two datastores for the settings,
and then all machines for the inventory. -/
def lookedUp : List Instance :=
  ctx.config.layout.storeEurope :: ctx.config.layout.storeAmerica :: ctx.machines

/-- The templates and the generated files of a deployment. -/
def deploymentFiles : List Path :=
  [ctx.settingsTemplate "eu", ctx.settingsPath "eu", ctx.settingsTemplate "us",
    ctx.settingsPath "us", ctx.config.inventoryPath, ctx.varsTemplate, ctx.config.varsPath]

/-- The files of a deployment, one by one. -/
theorem mem_deploymentFiles :
    ctx.settingsTemplate "eu" ∈ ctx.deploymentFiles ∧ ctx.settingsPath "eu" ∈ ctx.deploymentFiles ∧
      ctx.settingsTemplate "us" ∈ ctx.deploymentFiles ∧
      ctx.settingsPath "us" ∈ ctx.deploymentFiles ∧
      ctx.config.inventoryPath ∈ ctx.deploymentFiles ∧ ctx.varsTemplate ∈ ctx.deploymentFiles ∧
      ctx.config.varsPath ∈ ctx.deploymentFiles := by
  simp [deploymentFiles]

/-- The names of these files, in the same order. -/
def deploymentNames : List String :=
  ["weaver-template-eu.toml", "weaver-gcp-eu.toml", "weaver-template-us.toml", "weaver-gcp-us.toml",
    "ansible-inventory-gcp.cfg", "vars.yml", "ansible-vars.yml"]

/-- The templates and the generated files have names of their own. -/
theorem hasName_deploymentFiles :
    List.Forall₂ Path.HasName ctx.deploymentFiles deploymentNames :=
  .cons ctx.hasName_templateEurope <| .cons ctx.hasName_settingsEurope <|
    .cons ctx.hasName_templateAmerica <| .cons ctx.hasName_settingsAmerica <|
    .cons ctx.hasName_inventory <| .cons ctx.hasName_varsTemplate <| .cons ctx.hasName_vars .nil

/-- Where no place is a link, no two of these files are one. -/
theorem keepsApart_deploymentFiles {w : World σ} (hfree : w.LinkFree) :
    w.KeepsApart ctx.deploymentFiles :=
  World.keepsApart_of_hasName hfree ctx.hasName_deploymentFiles (by decide)

/-- All files that the setting up of a deployment reads or writes: those, and the playbooks'
configuration in the home directory. -/
def settingUpFiles (s : Surroundings) : List Path :=
  ctx.deploymentFiles ++ (s.home?.map homeConfigPath).toList

/-- The playbooks' configuration has its name in whatever home directory. -/
theorem hasName_homeConfigPath (home : String) : (homeConfigPath home).HasName ".ansible.cfg" :=
  Path.hasName_sub _ (by decide) (by decide) (by decide) (by decide)

/-- Where no place is a link, no two of these files are one. -/
theorem keepsApart_settingUpFiles {w : World σ} (hfree : w.LinkFree) :
    w.KeepsApart (ctx.settingUpFiles w.around) := by
  rw [settingUpFiles]
  cases w.around.home? with
  | none =>
      rw [Option.map_none, Option.toList_none, List.append_nil]
      exact ctx.keepsApart_deploymentFiles hfree
  | some home =>
      exact World.keepsApart_of_hasName hfree (List.rel_append ctx.hasName_deploymentFiles
        (.cons (hasName_homeConfigPath home) .nil)) (by decide)

/-- The names of the templates. -/
def templateNames : List String :=
  ["weaver-template-eu.toml", "weaver-template-us.toml", "vars.yml"]

/-- What the setting up of a deployment writes is no template. -/
theorem ne_template_of_mem_deploymentPaths {s : Surroundings} {p template : Path} {name : String}
    (h : p ∈ ctx.deploymentPaths s) (htemplate : template.HasName name)
    (hname : name ∈ templateNames) : p ∈ ctx.settingUpFiles s ∧ p ≠ template := by
  have hne : ∀ {a}, a ∉ templateNames → p.HasName a → p ≠ template := fun ha hp =>
    hp.ne htemplate fun heq => ha (heq ▸ hname)
  rcases h with hgenerated | ⟨home, hhome, rfl⟩
  · have hgenerated : p ∈ ctx.generatedPaths := hgenerated
    simp only [generatedPaths, List.mem_cons, List.not_mem_nil, or_false] at hgenerated
    rcases hgenerated with rfl | rfl | rfl | rfl
    · exact ⟨by simp [settingUpFiles, deploymentFiles], hne (by decide) ctx.hasName_settingsEurope⟩
    · exact ⟨by simp [settingUpFiles, deploymentFiles], hne (by decide) ctx.hasName_settingsAmerica⟩
    · exact ⟨by simp [settingUpFiles, deploymentFiles], hne (by decide) ctx.hasName_inventory⟩
    · exact ⟨by simp [settingUpFiles, deploymentFiles], hne (by decide) ctx.hasName_vars⟩
  · exact ⟨by simp [settingUpFiles, hhome], hne (by decide) (hasName_homeConfigPath home)⟩

/-- The files of a deployment **other** than one of them and its template. -/
def othersThan (template out : Path) : Set Path :=
  {q | q ∈ ctx.deploymentFiles ∧ q ≠ template ∧ q ≠ out}

/-- A file with a name of its own is one of the others. -/
theorem singleton_subset_othersThan {template out q : Path} {a b c : String}
    (hq : q ∈ ctx.deploymentFiles) (hqname : q.HasName a) (htemplate : template.HasName b)
    (hout : out.HasName c) (hne : a ≠ b ∧ a ≠ c) : {q} ⊆ ctx.othersThan template out :=
  Set.singleton_subset_iff.mpr ⟨hq, hqname.ne htemplate hne.1, hqname.ne hout hne.2⟩

variable {ctx}

/-- A file of a deployment goes on following its template while the other ones are generated, if no
two of them are one file and the calls spare them. -/
theorem follows_of_othersThan {ε : Type} {template out : Path} {render : String → Except ε String}
    {before : Set Path} {w u v : World σ} {xs ys : List Exchange}
    (hkept : w.KeepsApart ctx.deploymentFiles)
    (htemplate : template ∈ ctx.deploymentFiles) (hout : out ∈ ctx.deploymentFiles)
    (hbefore : Passage before w ys u)
    (h : Follows w.links u.tree w.around.cwd template out render)
    (hlater : Passage (ctx.othersThan template out) u xs v)
    (hspared : ∀ x ∈ xs, ∀ q ∈ ctx.deploymentFiles, x.Spares w.links w.around.cwd q) :
    Follows w.links v.tree w.around.cwd template out render :=
  h.of_passage hbefore hlater
    (hkept.disjoint_reached htemplate fun _ hq => ⟨hq.1, hq.2.1⟩)
    (hkept.disjoint_reached hout fun _ hq => ⟨hq.1, hq.2.2⟩)
    fun x hx => ⟨hspared x hx _ htemplate, hspared x hx _ hout⟩

variable (ctx)

/-- A tree in which all files of a deployment are **generated**, for some addresses. -/
structure Generated (links : Links) (t : Tree) (cwd : Place) (p : Profile)
    (europe america : String) (hosts : Hosts) : Prop where
  europe : Follows links t cwd (ctx.settingsTemplate "eu") (ctx.settingsPath "eu")
    (renderSettings · europe)
  america : Follows links t cwd (ctx.settingsTemplate "us") (ctx.settingsPath "us")
    (renderSettings · america)
  inventory : links.readText t cwd ctx.config.inventoryPath =
    .ok (renderInventory hosts p.username)
  vars : Follows links t cwd ctx.varsTemplate ctx.config.varsPath
    (renderVars · { baseDir := ctx.config.baseDir.text, timestamp? := none, site? := none })

/-- **A generation that succeeded.** Each step leaves alone what the earlier ones wrote, so all
files are there at the end, if no two of them are one file and the calls spare them. -/
theorem generate_ok {w v : World σ} (h : ctx.generate.run w = (.ok (), v)) :
    ∃ p europe america hosts xs, ctx.config.profile? = some p ∧
      Passage {q | q ∈ ctx.generatedPaths} w xs v ∧
      ctx.Resolved ctx.lookedUp (europe :: america :: hosts.all) xs ∧
      (w.KeepsApart ctx.deploymentFiles →
        (∀ x ∈ xs, ∀ q ∈ ctx.deploymentFiles, x.Spares w.links w.around.cwd q) →
        ctx.Generated w.links v.tree w.around.cwd p europe america hosts) := by
  obtain ⟨_, w₂, hsettings, h⟩ := Session.exists_of_run_bind_eq_ok h
  obtain ⟨_, w₁, heurope, hamerica⟩ := Session.exists_of_run_bind_eq_ok hsettings
  obtain ⟨_, w₃, hinventory, hvars⟩ := Session.exists_of_run_bind_eq_ok h
  obtain ⟨europe, xs₁, hp₁, hr₁, hf₁⟩ := ctx.generateSettingsFor_ok heurope
  obtain ⟨america, xs₂, hp₂, hr₂, hf₂⟩ := ctx.generateSettingsFor_ok hamerica
  obtain ⟨p, hosts, xs₃, hp, hp₃, hr₃, hf₃⟩ := ctx.generateInventory_ok hinventory
  obtain ⟨hp₄, hf₄⟩ := ctx.generateVars_ok hvars
  have hmem : ∀ {path : Path}, path ∈ ctx.generatedPaths →
      {path} ⊆ {q | q ∈ ctx.generatedPaths} := fun hpath => Set.singleton_subset_iff.mpr hpath
  have h₁ := hp₁.mono (hmem (by simp [generatedPaths]))
  have h₂ := h₁.trans (hp₂.mono (hmem (by simp [generatedPaths])))
  have h₃ := h₂.trans (hp₃.mono (hmem (by simp [generatedPaths])))
  have h₄ := h₃.trans (hp₄.mono (hmem (by simp [generatedPaths])))
  rw [h₁.links, h₁.around] at hf₂
  rw [List.append_nil, List.append_assoc] at h₄
  refine ⟨p, europe, america, hosts, _, hp, h₄, hr₁.append (hr₂.append hr₃), ?_⟩
  intro hkept hspared
  obtain ⟨htemplateEurope, heurope, htemplateAmerica, hamerica, hinventory, htemplate, hvars⟩ :=
    ctx.mem_deploymentFiles
  -- each step touches a path other than those of the earlier ones and of their templates
  have hlater₁ : Passage (ctx.othersThan (ctx.settingsTemplate "eu") (ctx.settingsPath "eu")) w₁
      (xs₂ ++ (xs₃ ++ [])) v :=
    (hp₂.mono (ctx.singleton_subset_othersThan hamerica ctx.hasName_settingsAmerica
        ctx.hasName_templateEurope ctx.hasName_settingsEurope (by decide))).trans
      ((hp₃.mono (ctx.singleton_subset_othersThan hinventory ctx.hasName_inventory
        ctx.hasName_templateEurope ctx.hasName_settingsEurope (by decide))).trans
        (hp₄.mono (ctx.singleton_subset_othersThan hvars ctx.hasName_vars
          ctx.hasName_templateEurope ctx.hasName_settingsEurope (by decide))))
  have hlater₂ : Passage (ctx.othersThan (ctx.settingsTemplate "us") (ctx.settingsPath "us")) w₂
      (xs₃ ++ []) v :=
    (hp₃.mono (ctx.singleton_subset_othersThan hinventory ctx.hasName_inventory
        ctx.hasName_templateAmerica ctx.hasName_settingsAmerica (by decide))).trans
      (hp₄.mono (ctx.singleton_subset_othersThan hvars ctx.hasName_vars
        ctx.hasName_templateAmerica ctx.hasName_settingsAmerica (by decide)))
  rw [List.append_nil] at hlater₁ hlater₂
  constructor
  · exact follows_of_othersThan hkept htemplateEurope heurope h₁
      (hf₁ (hkept.disjoint htemplateEurope heurope ctx.hasName_templateEurope
        ctx.hasName_settingsEurope (by decide))) hlater₁
      fun x hx => hspared x (List.mem_append_right _ hx)
  · exact follows_of_othersThan hkept htemplateAmerica hamerica h₂
      (hf₂ (hkept.disjoint htemplateAmerica hamerica ctx.hasName_templateAmerica
        ctx.hasName_settingsAmerica (by decide))) hlater₂
      fun x hx => hspared x (List.mem_append_right _ (List.mem_append_right _ hx))
  · have hdisjoint := (h₃.keepsApart hkept).disjoint hinventory hvars ctx.hasName_inventory
      ctx.hasName_vars (by decide)
    rw [← h₂.links, ← h₂.around, ← hp₃.links, ← hp₃.around]
    rw [← hp₃.links, ← hp₃.around] at hf₃
    rw [← Links.reached_singleton w₃.links w₃.around.cwd ctx.config.varsPath] at hdisjoint
    exact hp₄.readText hdisjoint (fun _ hx => absurd hx List.not_mem_nil) hf₃
  · rw [← h₃.links, ← h₃.around]
    exact hf₄.follows hp₄ ((h₃.keepsApart hkept).disjoint htemplate hvars
      ctx.hasName_varsTemplate ctx.hasName_vars (by decide))

end Context

end GeoBench.Deployment
