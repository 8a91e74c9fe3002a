import GeoBench.Proofs.Deployment.Generated

/-!
# Files that are replaced whole

A generated file is written after everything that goes into it is there, so a generation that fails
on the way to a file has not touched it. Of the files that are generated one after the other, the
first ones are replaced and the others are as they were, wherever the generation ends: in a lookup,
at a template or when a file is written.

What a file is replaced by is told by its template as it was before the generation, and by the
addresses that were told in the lookups for this file. Calls may do anything to the file tree; what
they leave alone is as it was, but for the files that are replaced.

## Links

A file is replaced where its path arrives, and no file is touched where none of the paths may. Which
paths are one file is for the links to say, and two generated files that are one cannot both be
replaced whole. So what becomes of the single files is told for a world that keeps apart the
templates and the generated files; one without links does (`Context.keepsApart_deploymentFiles`).
That no other file is touched is told for every world.

## Writes that fall short

A file that is replaced is replaced whole, even if the disk gives up later. What a write that falls
short leaves of the file at which the generation stops is a start of its text. That this file is
untouched is therefore told for a world in which no write falls short; all others are untouched in
any.

## Main results

* `Context.generateOutput_ok`, `Context.allOrNothing_generateOutput` — what one file is replaced by,
  and that it is not touched otherwise.
* `Context.ended_forM` — how a list of files is generated, by induction on it.
* `Context.generated_whole` — the generators of a deployment.
-/

namespace GeoBench.Deployment

open GeoBench.Machine GeoBench.Cloud

variable {σ : Type}

/-! ### Generated files

Each generated file has a name, a template unless it is the inventory, and the machines that are
looked up for it. Files are told apart by their names; whether two names are one file is for the
links to say. -/

/-- A **region** with settings of its own. -/
inductive Region where
  | europe
  | america
  deriving DecidableEq, Repr

/-- The name of a region in the names of files. -/
def Region.code : Region → String
  | europe => "eu"
  | america => "us"

/-- A file that is **generated** for a deployment. -/
inductive Output where
  | settings (region : Region)
  | inventory
  | vars (timestamp? : Option String) (site? : Option Site)

/-- The name of a generated file. -/
def Output.name : Output → String
  | settings .europe => "weaver-gcp-eu.toml"
  | settings .america => "weaver-gcp-us.toml"
  | inventory => "ansible-inventory-gcp.cfg"
  | vars _ _ => "ansible-vars.yml"

/-- The names of all generated files. -/
def Output.names : List String :=
  ["weaver-gcp-eu.toml", "weaver-gcp-us.toml", "ansible-inventory-gcp.cfg", "ansible-vars.yml"]

/-- All names are among those. -/
theorem Output.name_mem_names (f : Output) : f.name ∈ names := by
  cases f with
  | settings region => cases region <;> decide
  | inventory => decide
  | vars timestamp? site? => exact List.mem_cons_of_mem _ (by simp [name])

/-- What is generated in **one go**. -/
inductive Generator where
  | settings
  | inventory
  | vars (timestamp? : Option String) (site? : Option Site)

/-- The files of a generator, in the order in which they are generated. -/
def Generator.outputs : Generator → List Output
  | settings => [.settings .europe, .settings .america]
  | inventory => [.inventory]
  | vars timestamp? site? => [.vars timestamp? site?]

/-- No two files of a generator have the same name. -/
theorem Generator.nodup_names (g : Generator) : (g.outputs.map Output.name).Nodup := by
  cases g with
  | settings => decide
  | inventory => decide
  | vars timestamp? site? => exact List.nodup_cons.mpr ⟨List.not_mem_nil, List.nodup_nil⟩

/-- What a file was **made** of: the lookups for it, and the addresses that were told in them. -/
structure Rendition where
  file : Output
  lookups : List Exchange
  hosts : List String

/-- The **calls** of a generation: the lookups for the files that are replaced, in order, and those
for the file at which it stopped. -/
def callsFor (made : List Rendition) (last : List Exchange) : List Exchange :=
  made.flatMap Rendition.lookups ++ last

namespace Context

variable (ctx : Context σ)

/-- The machine with the datastores of a region. -/
def datastore : Region → Instance
  | .europe => ctx.config.layout.storeEurope
  | .america => ctx.config.layout.storeAmerica

/-- The path of a generated file. -/
def pathOf : Output → Path
  | .settings region => ctx.settingsPath region.code
  | .inventory => ctx.config.inventoryPath
  | .vars _ _ => ctx.config.varsPath

/-- The template of a generated file, if there is one. -/
def templateOf? : Output → Option Path
  | .settings region => some (ctx.settingsTemplate region.code)
  | .inventory => none
  | .vars _ _ => some ctx.varsTemplate

/-- The machines that are looked up for a generated file. -/
def machinesFor : Output → List Instance
  | .settings region => [ctx.datastore region]
  | .inventory => ctx.machines
  | .vars _ _ => []

/-- One file is **generated**. -/
def generateOutput : Output → Session σ CommandFault Unit
  | .settings region => ctx.generateSettingsFor region.code (ctx.datastore region)
  | .inventory => ctx.generateInventory
  | .vars timestamp? site? => ctx.generateVars timestamp? site?

/-- The files of a generator are **generated**. -/
def runGenerator : Generator → Session σ CommandFault Unit
  | .settings => ctx.generateSettings
  | .inventory => ctx.generateInventory
  | .vars timestamp? site? => ctx.generateVars timestamp? site?

/-- A generator generates its files one after the other. -/
theorem runGenerator_eq (g : Generator) :
    ctx.runGenerator g = g.outputs.forM ctx.generateOutput := by
  cases g <;> simp [runGenerator, Generator.outputs, generateOutput, generateSettings, Region.code,
    datastore]

/-! ### Names -/

/-- A generated file has its name. -/
theorem hasName_pathOf (f : Output) : (ctx.pathOf f).HasName f.name := by
  cases f with
  | settings region =>
      cases region with
      | europe => exact ctx.hasName_settingsEurope
      | america => exact ctx.hasName_settingsAmerica
  | inventory => exact ctx.hasName_inventory
  | vars timestamp? site? => exact ctx.hasName_vars

/-- A template has the name of a template. -/
theorem hasName_templateOf {f : Output} {template : Path} (h : ctx.templateOf? f = some template) :
    ∃ name ∈ templateNames, template.HasName name := by
  cases f with
  | settings region =>
      obtain rfl := Option.some.inj h
      cases region with
      | europe => exact ⟨_, by decide, ctx.hasName_templateEurope⟩
      | america => exact ⟨_, by decide, ctx.hasName_templateAmerica⟩
  | inventory => cases h
  | vars timestamp? site? =>
      obtain rfl := Option.some.inj h
      exact ⟨_, by decide, ctx.hasName_varsTemplate⟩

/-- A generated file is one of the files of a deployment. -/
theorem pathOf_mem (f : Output) : ctx.pathOf f ∈ ctx.deploymentFiles := by
  cases f with
  | settings region => cases region <;> simp [pathOf, Region.code, deploymentFiles]
  | inventory => simp [pathOf, deploymentFiles]
  | vars timestamp? site? => simp [pathOf, deploymentFiles]

/-- So is a template. -/
theorem templateOf_mem {f : Output} {template : Path} (h : ctx.templateOf? f = some template) :
    template ∈ ctx.deploymentFiles := by
  cases f with
  | settings region =>
      obtain rfl := Option.some.inj h
      cases region <;> simp [Region.code, deploymentFiles]
  | inventory => cases h
  | vars timestamp? site? =>
      obtain rfl := Option.some.inj h
      simp [deploymentFiles]

/-- Files with different names have different paths. -/
theorem pathOf_ne {f f' : Output} (h : f.name ≠ f'.name) : ctx.pathOf f ≠ ctx.pathOf f' :=
  (ctx.hasName_pathOf f).ne (ctx.hasName_pathOf f') h

/-- A template is no generated file. -/
theorem template_ne {f : Output} {template : Path} (h : ctx.templateOf? f = some template)
    (f' : Output) : template ≠ ctx.pathOf f' := by
  obtain ⟨name, hname, htemplate⟩ := ctx.hasName_templateOf h
  refine htemplate.ne (ctx.hasName_pathOf f') ?_
  rintro rfl
  have hdisjoint : ∀ name ∈ templateNames, name ∉ Output.names := by decide
  exact hdisjoint _ hname f'.name_mem_names

section

variable {ctx} {w : World σ} {f f' : Output}

/-- Where the paths are kept apart, a template is no generated file. -/
theorem disjoint_templateOf {template : Path} (h : w.KeepsApart ctx.deploymentFiles)
    (htemplate : ctx.templateOf? f = some template) (f' : Output) :
    Disjoint (w.links.arrivals w.around.cwd true template)
      (w.links.arrivals w.around.cwd true (ctx.pathOf f')) :=
  h _ (ctx.templateOf_mem htemplate) _ (ctx.pathOf_mem f') (ctx.template_ne htemplate f')

end

/-! ### One file

The generation of a file looks its machines up, reads the template and writes. It is whole, or the
file was not touched, or the last write fell short. -/

/-- The text that a generated file **renders** to, in a tree where its template is held where the
path of the template may arrive, and for the addresses of its machines. -/
inductive Renders (links : Links) (t : Tree) (cwd : Place) : Output → List String → String → Prop
  | settings {region : Region} {at_ : Place} {source host text : String}
      (hat : at_ ∈ links.arrivals cwd true (ctx.settingsTemplate region.code))
      (hsource : t.Holds at_ source) (htext : renderSettings source host = .ok text) :
      Renders links t cwd (.settings region) [host] text
  | inventory {p : Profile} {hosts : Hosts} (hprofile : ctx.config.profile? = some p) :
      Renders links t cwd .inventory hosts.all (renderInventory hosts p.username)
  | vars {timestamp? : Option String} {site? : Option Site} {at_ : Place} {source text : String}
      (hat : at_ ∈ links.arrivals cwd true ctx.varsTemplate) (hsource : t.Holds at_ source)
      (htext : renderVars source { baseDir := ctx.config.baseDir.text, timestamp?, site? } =
        .ok text) : Renders links t cwd (.vars timestamp? site?) [] text

variable {ctx}

/-- A file renders to the same text in every tree that has the same template. -/
theorem Renders.of_eq {links : Links} {t t' : Tree} {cwd : Place} {f : Output}
    {hosts : List String} {text : String} (h : ctx.Renders links t cwd f hosts text)
    (hsame : ∀ template, ctx.templateOf? f = some template →
      ∀ at_ ∈ links.arrivals cwd true template, t'.file? at_ = t.file? at_) :
    ctx.Renders links t' cwd f hosts text := by
  cases h with
  | settings hat hsource htext => exact .settings hat (hsource.of_eq (hsame _ rfl _ hat)) htext
  | inventory hprofile => exact .inventory hprofile
  | vars hat hsource htext => exact .vars hat (hsource.of_eq (hsame _ rfl _ hat)) htext

variable (ctx)

/-- **A file that was generated** is what it renders to, if its template is another file. -/
theorem generateOutput_ok (f : Output) {w v : World σ}
    (h : (ctx.generateOutput f).run w = (.ok (), v)) :
    ∃ hosts xs, Passage {ctx.pathOf f} w xs v ∧ ctx.Resolved (ctx.machinesFor f) hosts xs ∧
      (w.KeepsApart ctx.deploymentFiles →
        ∃ text, ctx.Renders w.links v.tree w.around.cwd f hosts text ∧
          w.links.readText v.tree w.around.cwd (ctx.pathOf f) = .ok text) := by
  cases f with
  | settings region =>
      obtain ⟨host, xs, hpassage, hresolved, hfollows⟩ := ctx.generateSettingsFor_ok h
      refine ⟨[host], xs, hpassage, hresolved, fun hkept => ?_⟩
      obtain ⟨source, text, hsource, htext, hout⟩ :=
        hfollows (disjoint_templateOf hkept (f := .settings region) rfl (.settings region))
      obtain ⟨at_, hat, hholds⟩ := Links.exists_holds_of_readText hsource
      exact ⟨text, .settings hat hholds htext, hout⟩
  | inventory =>
      obtain ⟨p, hosts, xs, hprofile, hpassage, hresolved, hout⟩ :=
        ctx.generateInventory_ok h
      exact ⟨hosts.all, xs, hpassage, hresolved, fun _ => ⟨_, .inventory hprofile, hout⟩⟩
  | vars timestamp? site? =>
      obtain ⟨hpassage, hrendered⟩ := ctx.generateVars_ok h
      refine ⟨[], [], hpassage, .done, fun hkept => ?_⟩
      obtain ⟨source, text, hsource, htext, hout⟩ := hrendered.follows hpassage
        (disjoint_templateOf hkept (f := .vars timestamp? site?) rfl (.vars timestamp? site?))
      obtain ⟨at_, hat, hholds⟩ := Links.exists_holds_of_readText hsource
      exact ⟨text, .vars hat hholds htext, hout⟩

/-- Variables are generated in the place of others if their template can be read, in a world without
links in which no write falls short. -/
theorem run_generateVars_of_readText {timestamp? : Option String} {site? : Option Site}
    {source text old : String} {w : World σ} (hfree : w.LinkFree) (hwhole : w.WritesWhole)
    (hsource : w.tree.readText w.around.cwd ctx.varsTemplate = .ok source)
    (htext : renderVars source { baseDir := ctx.config.baseDir.text, timestamp?, site? } = .ok text)
    (hparent : ∀ parent ∈ ctx.config.varsPath.parent?,
      w.tree.makeAll w.around.cwd parent = ⟨w.tree, none⟩)
    (hold : w.tree.readText w.around.cwd ctx.config.varsPath = .ok old) :
    ∃ v, (ctx.generateVars timestamp? site?).run w = (.ok (), v) := by
  have heq : ctx.generateVars timestamp? site? = Session.withFault .template
      (renderFile ctx.varsTemplate ctx.config.varsPath .badVars
        (renderVars · { baseDir := ctx.config.baseDir.text, timestamp?, site? })) := rfl
  obtain ⟨v, hrun⟩ := run_renderFile_of_readText .badVars
    (renderVars · { baseDir := ctx.config.baseDir.text, timestamp?, site? }) hfree hwhole hsource
    htext hparent hold
  rw [heq, Session.run_withFault, hrun]
  exact ⟨v, rfl⟩

/-- A call that **asks for** a machine of a generated file. -/
def AsksFor (f : Output) (call : Invocation) : Prop :=
  ∃ p, ∃ i ∈ ctx.machinesFor f, AsksAddress p i call

/-- A lookup of one of its machines is asked for a file. -/
theorem asksFor_describeCall {f : Output} {i : Instance} (hi : i ∈ ctx.machinesFor f)
    (p : Profile) : ctx.AsksFor f (describeCall p i) :=
  ⟨p, i, hi, asksAddress_iff.mpr rfl⟩

/-- **A generation** asks for the machines of its file, and touches no other file. -/
theorem confined_generateOutput (f : Output) :
    Confined (ctx.AsksFor f) (fun _ => {ctx.pathOf f}) (ctx.generateOutput f) := by
  cases f with
  | settings region =>
      exact ctx.confined_generateSettingsFor
        (ctx.asksFor_describeCall (f := .settings region) (List.mem_singleton_self _))
        fun _ => Set.mem_singleton _
  | inventory =>
      exact .bind (ctx.confined_hosts fun p i hi => ctx.asksFor_describeCall (f := .inventory) hi p)
        fun _ => .bind ctx.confined_profile fun _ =>
          .bind (.withFault (confined_writeOutput (fun _ => Set.mem_singleton _) _)) fun _ =>
            .info _
  | vars timestamp? site? => exact ctx.confined_generateVars _ _ fun _ => Set.mem_singleton _

/-- **A file that could not be generated** was not touched, if no write falls short. -/
theorem allOrNothing_generateOutput (f : Output) :
    AllOrNothing (ctx.AsksFor f) (ctx.generateOutput f) := by
  have htold : ∀ message, ∀ (_ : Unit) (w : World σ), ∃ b v,
      (Session.info message : Session σ CommandFault Unit).run w = (.ok b, v) :=
    fun message _ w => ⟨(), _, Session.run_info message w⟩
  cases f with
  | settings region =>
      exact .bind (ctx.confined_hostOf
          (ctx.asksFor_describeCall (f := .settings region) (List.mem_singleton_self _)))
        fun host => .bind_of_ok
          (.withFault (allOrNothing_renderFile _ _ _ (renderSettings · host))) (htold _)
  | inventory =>
      exact .bind (ctx.confined_hosts fun p i hi => ctx.asksFor_describeCall (f := .inventory) hi p)
        fun hosts => .bind ctx.confined_profile fun p =>
          .bind_of_ok (.withFault (allOrNothing_writeOutput _ _)) (htold _)
  | vars timestamp? site? => exact .withFault (allOrNothing_renderFile _ _ _ _)

/-! ### Several files

A list of files is split by where the generation stops: those in front are replaced, the next one is
the file at which it stopped, and the others were not come to. The split grows by one file when one
more is put in front. -/

/-- A call that **spares** a generated file leaves it alone, and its template too. -/
def SparesOutput (x : Exchange) (links : Links) (cwd : Place) (f : Output) : Prop :=
  x.Spares links cwd (ctx.pathOf f) ∧
    ∀ template, ctx.templateOf? f = some template → x.Spares links cwd template

/-- A file that is **replaced** in a generation with some calls: its addresses were told in the
lookups for it, and if no two of the files are one and the calls spare it, it is what its template
as it was before renders to. -/
structure Replaced (w v : World σ) (xs : List Exchange) (r : Rendition) : Prop where
  resolved : ctx.Resolved (ctx.machinesFor r.file) r.hosts r.lookups
  whole : w.KeepsApart ctx.deploymentFiles →
    (∀ x ∈ xs, ctx.SparesOutput x w.links w.around.cwd r.file) →
    ∃ text, ctx.Renders w.links w.tree w.around.cwd r.file r.hosts text ∧
      w.links.readText v.tree w.around.cwd (ctx.pathOf r.file) = .ok text

/-- The paths of some generated files. -/
def pathsOf (files : List Output) : Set Path :=
  {p | ∃ f ∈ files, p = ctx.pathOf f}

/-- More files have more paths. -/
theorem pathsOf_mono {files files' : List Output} (h : files ⊆ files') :
    ctx.pathsOf files ⊆ ctx.pathsOf files' :=
  fun _ ⟨f, hf, hp⟩ => ⟨f, h hf, hp⟩

/-- Where the paths are kept apart, a generated file is none of others with other names. -/
theorem disjoint_pathsOf {w : World σ} {f : Output} {files touched : List Output}
    (hkept : w.KeepsApart ctx.deploymentFiles) (hfresh : f.name ∉ files.map Output.name)
    (htouched : touched ⊆ files) :
    Disjoint (w.links.arrivals w.around.cwd true (ctx.pathOf f))
      (w.links.reached w.around.cwd (ctx.pathsOf touched)) := by
  refine hkept.disjoint_reached (ctx.pathOf_mem f) ?_
  rintro p ⟨f', hf', rfl⟩
  refine ⟨ctx.pathOf_mem f', (ctx.pathOf_ne fun heq => hfresh ?_).symm⟩
  exact heq ▸ List.mem_map_of_mem (htouched hf')

/-- How a generation of some files **ended**: the first of them are replaced, and between its calls
nothing else was touched but the next one, and that only if a write fell short. -/
structure Ended (files : List Output) (w v : World σ) (result : Except CommandFault Unit)
    (made : List Rendition) (pending : List Output) (last : List Exchange) : Prop where
  /-- The files are replaced in order, up to some point. -/
  split : files = made.map Rendition.file ++ pending
  /-- All files are replaced if the generation succeeds, and only then. -/
  complete : result = .ok () ↔ pending = []
  /-- The calls behind those for the files that are replaced ask for machines of the next one. -/
  asked : ∀ x ∈ last, ∃ f ∈ pending.head?, ctx.AsksFor f x.invocation
  /-- The files that are replaced are touched, and the next one, and no other file. -/
  tried : Passage (ctx.pathsOf (made.map Rendition.file ++ pending.head?.toList)) w
    (callsFor made last) v
  /-- If no write falls short, the next one is not touched. -/
  passage : w.WritesWhole →
    Passage (ctx.pathsOf (made.map Rendition.file)) w (callsFor made last) v
  /-- Each file that is replaced is replaced whole. -/
  replaced : ∀ r ∈ made, ctx.Replaced w v (callsFor made last) r

variable {ctx} {w u v : World σ} {f f' : Output} {xs ys : List Exchange} {files : List Output}
  {r : Rendition}

/-- What a file renders to was told by its template before another file was replaced. -/
theorem Renders.before {hosts : List String} {text : String}
    (hkept : w.KeepsApart ctx.deploymentFiles) (hpassage : Passage {ctx.pathOf f} w xs u)
    (hspared : ∀ x ∈ xs, ctx.SparesOutput x w.links w.around.cwd f')
    (h : ctx.Renders w.links u.tree w.around.cwd f' hosts text) :
    ctx.Renders w.links w.tree w.around.cwd f' hosts text := by
  refine h.of_eq fun template htemplate at_ hat => (hpassage.file?_eq ?_ ?_).symm
  · rw [Links.reached_singleton]
    exact Set.disjoint_left.mp (disjoint_templateOf hkept htemplate f) hat
  · exact fun x hx => ((hspared x hx).2 template htemplate).files at_ hat

/-- A file that is replaced after another one. -/
theorem Replaced.after (hpassage : Passage {ctx.pathOf f} w xs u)
    (h : ctx.Replaced u v ys r) : ctx.Replaced w v (xs ++ ys) r := by
  refine ⟨h.resolved, fun hkept hspared => ?_⟩
  have hwhole := h.whole (hpassage.keepsApart hkept)
  rw [hpassage.links, hpassage.around] at hwhole
  obtain ⟨text, hrenders, hread⟩ := hwhole fun x hx => hspared x (List.mem_append_right _ hx)
  exact ⟨text,
    hrenders.before hkept hpassage fun x hx => hspared x (List.mem_append_left _ hx), hread⟩

namespace Ended

variable {result : Except CommandFault Unit} {made : List Rendition} {pending : List Output}
  {last : List Exchange}

/-- No files are generated without touching any. -/
theorem nil (w : World σ) : ctx.Ended [] w w (.ok ()) [] [] [] where
  split := rfl
  complete := ⟨fun _ => rfl, fun _ => rfl⟩
  asked _ hx := absurd hx List.not_mem_nil
  tried := .refl _ w
  passage _ := .refl _ w
  replaced _ hr := absurd hr List.not_mem_nil

/-- A generation that **stops** at its first file. -/
theorem stopped {fault : CommandFault} (htried : Passage {ctx.pathOf f} w xs v)
    (hasked : ∀ x ∈ xs, ctx.AsksFor f x.invocation) (hpassage : w.WritesWhole → Passage ∅ w xs v) :
    ctx.Ended (f :: files) w v (.error fault) [] (f :: files) xs where
  split := rfl
  complete := ⟨nofun, nofun⟩
  asked x hx := ⟨f, rfl, hasked x hx⟩
  tried := htried.mono (Set.singleton_subset_iff.mpr ⟨f, List.mem_cons_self, rfl⟩)
  passage hwhole := (hpassage hwhole).mono (Set.empty_subset _)
  replaced _ hr := absurd hr List.not_mem_nil

/-- The files that a generation touches are among its files. -/
theorem touched_subset (h : files = made.map Rendition.file ++ pending) :
    made.map Rendition.file ++ pending.head?.toList ⊆ files := by
  rw [h]
  refine List.append_subset.mpr ⟨List.subset_append_left _ _, fun f hf => ?_⟩
  exact List.mem_append_right _ (List.mem_of_mem_head? (Option.mem_toList.mp hf))

/-- A generation that **goes on** after its first file, which no other file has the name of. -/
theorem cons (hfresh : r.file.name ∉ files.map Output.name)
    (hpassage : Passage {ctx.pathOf r.file} w r.lookups u)
    (hresolved : ctx.Resolved (ctx.machinesFor r.file) r.hosts r.lookups)
    (hfile : w.KeepsApart ctx.deploymentFiles →
      ∃ text, ctx.Renders w.links u.tree w.around.cwd r.file r.hosts text ∧
        w.links.readText u.tree w.around.cwd (ctx.pathOf r.file) = .ok text)
    (h : ctx.Ended files u v result made pending last) :
    ctx.Ended (r.file :: files) w v result (r :: made) pending last := by
  have hcalls : callsFor (r :: made) last = r.lookups ++ callsFor made last :=
    List.append_assoc _ _ _
  have hfirst : ∀ touched, {ctx.pathOf r.file} ⊆ ctx.pathsOf (r.file :: touched) := fun touched =>
    Set.singleton_subset_iff.mpr ⟨r.file, List.mem_cons_self, rfl⟩
  have hmore : ∀ touched, ctx.pathsOf touched ⊆ ctx.pathsOf (r.file :: touched) := fun touched =>
    ctx.pathsOf_mono (List.subset_cons_self _ _)
  refine ⟨congrArg (r.file :: ·) h.split, h.complete, h.asked, ?_, ?_, ?_⟩
  · rw [hcalls]
    exact (hpassage.mono (hfirst _)).trans (h.tried.mono (hmore _))
  · rw [hcalls]
    exact fun hwrites => (hpassage.mono (hfirst _)).trans
      ((h.passage (hpassage.onward.writesWhole hwrites)).mono (hmore _))
  · rw [hcalls]
    intro r' hr'
    rcases List.mem_cons.mp hr' with rfl | hr'
    · refine ⟨hresolved, fun hkept hspared => ?_⟩
      obtain ⟨text, hrenders, hread⟩ := hfile hkept
      have hother := ctx.disjoint_pathsOf (hpassage.keepsApart hkept) hfresh
        (touched_subset h.split)
      have hspared' : ∀ x ∈ callsFor made last,
          x.Spares u.links u.around.cwd (ctx.pathOf r'.file) := by
        rw [hpassage.links, hpassage.around]
        exact fun x hx => (hspared x (List.mem_append_right _ hx)).1
      refine ⟨text, hrenders.before hkept hpassage fun x hx =>
        hspared x (List.mem_append_left _ hx), ?_⟩
      rw [← hpassage.links, ← hpassage.around] at hread ⊢
      exact h.tried.readText hother hspared' hread
    · exact (h.replaced r' hr').after hpassage

end Ended

/-- **Files that are generated one after the other**, in whichever way that ends. The induction is
on the files that are left. -/
theorem ended_forM (hnames : (files.map Output.name).Nodup) (w : World σ) :
    ∃ result v made pending last, (files.forM ctx.generateOutput).run w = (result, v) ∧
      ctx.Ended files w v result made pending last := by
  induction files generalizing w with
  | nil => exact ⟨_, w, _, _, _, rfl, .nil w⟩
  | cons f files ih =>
      obtain ⟨hfresh, hrest⟩ := List.nodup_cons.mp hnames
      have hcons : (f :: files).forM ctx.generateOutput =
          (ctx.generateOutput f >>= fun _ => files.forM ctx.generateOutput) := rfl
      rw [hcons]
      rcases hrun : (ctx.generateOutput f).run w with ⟨fault | _, u⟩
      · obtain ⟨xs, htried, hasked⟩ := ctx.confined_generateOutput f w
        rw [hrun] at htried
        refine ⟨_, u, _, _, _, Session.run_bind_of_error hrun _,
          .stopped htried hasked fun hwhole => ?_⟩
        obtain ⟨ys, hpassage, -⟩ := ctx.allOrNothing_generateOutput f w fault u hwhole hrun
        rwa [htried.calls_unique hpassage]
      · obtain ⟨hosts, xs, hpassage, hresolved, hfile⟩ := ctx.generateOutput_ok f hrun
        obtain ⟨result, v, made, pending, last, hgoes, hended⟩ := ih hrest u
        have hfirst := hended.cons (r := ⟨f, xs, hosts⟩) hfresh hpassage hresolved hfile
        rw [Session.run_bind_of_ok hrun]
        exact ⟨result, v, _, _, _, hgoes, hfirst⟩

/-! ### What keeps a file from being generated

A profile that is missing and a template that is not there or not well-formed can be known before
any call. They **obstruct** a file: whatever the lookups tell, it is never among those that are
replaced, and neither is any file after it. -/

variable (ctx)

/-- Whether a file cannot be generated without a profile. -/
def NeedsProfile : Output → Prop
  | .settings _ => ctx.config.dryRun = false
  | .inventory => True
  | .vars _ _ => False

/-- What **obstructs** the generation of a file, whatever is told in the lookups for it. -/
inductive Obstructed (links : Links) (t : Tree) (cwd : Place) : Output → Prop
  /-- There is no profile. -/
  | profile {f : Output} (hneeds : ctx.NeedsProfile f) (hnone : ctx.config.profile? = none) :
      Obstructed links t cwd f
  /-- There is no template, or it holds no text. -/
  | template {f : Output} {template : Path} (htemplate : ctx.templateOf? f = some template)
      (hnone : ∀ at_ ∈ links.arrivals cwd true template, ∀ source, ¬ t.Holds at_ source) :
      Obstructed links t cwd f
  /-- The template of the settings is not well-formed. -/
  | settings {region : Region}
      (hbad : ∀ at_ ∈ links.arrivals cwd true (ctx.settingsTemplate region.code), ∀ source,
        t.Holds at_ source → ∃ fault, Toml.Document.read source = .error fault) :
      Obstructed links t cwd (.settings region)
  /-- The template of the variables is not well-formed, or no mapping. -/
  | vars {timestamp? : Option String} {site? : Option Site}
      (hbad : ∀ at_ ∈ links.arrivals cwd true ctx.varsTemplate, ∀ source, t.Holds at_ source →
        ∃ fault, renderVars source { baseDir := ctx.config.baseDir.text, timestamp?, site? } =
          .error fault) : Obstructed links t cwd (.vars timestamp? site?)

variable {ctx}

/-- What a file renders to is told by one template. -/
theorem Renders.not_obstructed {links : Links} {t : Tree} {cwd : Place} {hosts : List String}
    {text : String} (h : ctx.Renders links t cwd f hosts text)
    (hresolved : ctx.Resolved (ctx.machinesFor f) hosts xs) :
    ¬ ctx.Obstructed links t cwd f := by
  intro hobstructed
  cases hobstructed with
  | profile hneeds hnone =>
      cases h with
      | settings _ _ _ =>
          have hdry : ctx.config.dryRun = false := hneeds
          cases hresolved with
          | asked p _ _ hprofile =>
              rw [hnone] at hprofile
              cases hprofile
          | dry hdry' =>
              rw [hdry] at hdry'
              cases hdry'
      | inventory hprofile =>
          rw [hnone] at hprofile
          cases hprofile
      | vars _ _ _ => exact hneeds
  | template htemplate hnone =>
      cases h with
      | settings hat hsource _ =>
          obtain rfl := Option.some.inj htemplate
          exact hnone _ hat _ hsource
      | inventory _ => cases htemplate
      | vars hat hsource _ =>
          obtain rfl := Option.some.inj htemplate
          exact hnone _ hat _ hsource
  | settings hbad =>
      cases h with
      | settings hat hsource htext =>
          obtain ⟨fault, hread⟩ := hbad _ hat _ hsource
          rw [renderSettings, hread] at htext
          cases htext
  | vars hbad =>
      cases h with
      | vars hat hsource htext =>
          obtain ⟨fault, hvars⟩ := hbad _ hat _ hsource
          rw [hvars] at htext
          cases htext

namespace Ended

variable {result : Except CommandFault Unit} {made : List Rendition} {pending : List Output}
  {last : List Exchange} {at_ : Place}

/-- **A file that is left** is as it was, if no two of the files are one and the calls spare it: the
one at which the generation stopped if no write falls short, and those after it anyway. -/
theorem file?_eq_of_pending (h : ctx.Ended files w v result made pending last)
    (hnames : (files.map Output.name).Nodup) (hf : f ∈ pending)
    (hkept : w.KeepsApart ctx.deploymentFiles) (hwhole : f ∈ pending.tail ∨ w.WritesWhole)
    (hat : at_ ∈ w.links.arrivals w.around.cwd true (ctx.pathOf f))
    (hspared : ∀ x ∈ callsFor made last, x.SparesAt at_) :
    v.tree.file? at_ = w.tree.file? at_ := by
  rw [h.split, List.map_append] at hnames
  have hfresh : f.name ∉ (made.map Rendition.file).map Output.name := fun hmade =>
    (List.nodup_append.mp hnames).2.2 _ hmade _ (List.mem_map_of_mem hf) rfl
  rcases hwhole with htail | hwhole
  · refine h.tried.file?_eq (Set.disjoint_left.mp (ctx.disjoint_pathsOf hkept ?_
      (List.Subset.refl _)) hat) hspared
    rw [List.map_append, List.mem_append]
    rintro (hmade | hhead)
    · exact hfresh hmade
    · cases pending with
      | nil => cases htail
      | cons f' pending =>
          obtain heq : f.name = f'.name := List.mem_singleton.mp hhead
          exact (List.nodup_cons.mp (List.nodup_append.mp hnames).2.1).1
            (heq ▸ List.mem_map_of_mem htail)
  · exact (h.passage hwhole).file?_eq (Set.disjoint_left.mp (ctx.disjoint_pathsOf hkept hfresh
      (List.Subset.refl _)) hat) hspared

/-- **Any other file** is as it was, if the calls spare it. -/
theorem file?_eq_of_other (h : ctx.Ended files w v result made pending last)
    (hother : ∀ f ∈ files, at_ ∉ w.links.arrivals w.around.cwd true (ctx.pathOf f))
    (hspared : ∀ x ∈ callsFor made last, x.SparesAt at_) :
    v.tree.file? at_ = w.tree.file? at_ := by
  refine h.tried.file?_eq ?_ hspared
  rintro ⟨p, ⟨f, hf, rfl⟩, hat⟩
  exact hother f (touched_subset h.split hf) hat

/-- **A lookup that failed** was one for the first file that is left. -/
theorem asksFor_of_failed (h : ctx.Ended files w v result made pending last) {x : Exchange}
    (hx : x ∈ callsFor made last) (hfailed : toldHost? x = none) :
    ∃ f ∈ pending.head?, ctx.AsksFor f x.invocation := by
  rcases List.mem_append.mp hx with hx | hx
  · obtain ⟨r, hr, hx⟩ := List.mem_flatMap.mp hx
    exact absurd hfailed ((h.replaced r hr).resolved.toldHost?_ne_none hx)
  · exact h.asked x hx

/-- **A file that is obstructed** is left, and so are all files after it. -/
theorem suffix_of_obstructed (h : ctx.Ended files w v result made pending last)
    {after : List Output} (hfile : f :: after <:+ files)
    (hobstructed : ctx.Obstructed w.links w.tree w.around.cwd f)
    (hkept : w.KeepsApart ctx.deploymentFiles)
    (hspared : ∀ x ∈ callsFor made last, ctx.SparesOutput x w.links w.around.cwd f) :
    f :: after <:+ pending := by
  have hleft : f ∉ made.map Rendition.file := by
    intro hf
    obtain ⟨r, hr, rfl⟩ := List.mem_map.mp hf
    have hreplaced := h.replaced r hr
    obtain ⟨text, hrenders, -⟩ := hreplaced.whole hkept hspared
    exact hrenders.not_obstructed hreplaced.resolved hobstructed
  obtain ⟨before, hbefore⟩ := hfile
  rw [h.split] at hbefore
  rcases List.append_eq_append_iff.mp hbefore with ⟨more, hmade, hmore⟩ | ⟨more, -, hmore⟩
  · cases more with
    | nil => exact ⟨[], hmore⟩
    | cons g more =>
        obtain ⟨rfl, -⟩ := List.cons.inj hmore
        rw [hmade] at hleft
        exact absurd (List.mem_append_right _ List.mem_cons_self) hleft
  · exact ⟨more, hmore.symm⟩

end Ended

/-! ### The generators -/

variable (ctx)

/-- **Generated files are replaced whole or not at all.** Wherever a generator ends, the first of
its files are replaced, each by what its template renders to for the addresses that were told in the
lookups for it, and the others are as they were, if no two of the files are one through links and
the calls leave them alone; for the file at which it stopped, it is also supposed that no write
falls short. Every other file is as it was wherever links lead. The generator succeeds if no file is
left. A lookup that failed was one for the first file that is left, and a file that is obstructed is
left with all files after it. -/
theorem generated_whole (g : Generator) (w : World σ) :
    ∃ result v made pending last, (ctx.runGenerator g).run w = (result, v) ∧
      ctx.Ended g.outputs w v result made pending last ∧
      (∀ f ∈ pending, w.KeepsApart ctx.deploymentFiles → (f ∈ pending.tail ∨ w.WritesWhole) →
        ∀ at_ ∈ w.links.arrivals w.around.cwd true (ctx.pathOf f),
          (∀ x ∈ callsFor made last, x.SparesAt at_) → v.tree.file? at_ = w.tree.file? at_) ∧
      (∀ at_, (∀ f ∈ g.outputs, at_ ∉ w.links.arrivals w.around.cwd true (ctx.pathOf f)) →
        (∀ x ∈ callsFor made last, x.SparesAt at_) → v.tree.file? at_ = w.tree.file? at_) ∧
      (∀ x ∈ callsFor made last, toldHost? x = none →
        ∃ f ∈ pending.head?, ctx.AsksFor f x.invocation) ∧
      (∀ f after, f :: after <:+ g.outputs → ctx.Obstructed w.links w.tree w.around.cwd f →
        w.KeepsApart ctx.deploymentFiles →
        (∀ x ∈ callsFor made last, ctx.SparesOutput x w.links w.around.cwd f) →
        f :: after <:+ pending) := by
  obtain ⟨result, v, made, pending, last, hrun, hended⟩ := ended_forM g.nodup_names w
  rw [← runGenerator_eq] at hrun
  exact ⟨result, v, made, pending, last, hrun, hended,
    fun _ hf hkept hwhole _ => hended.file?_eq_of_pending g.nodup_names hf hkept hwhole,
    fun _ => hended.file?_eq_of_other, fun _ => hended.asksFor_of_failed,
    fun _ _ => hended.suffix_of_obstructed⟩

/-- A tree with a template of the variables, and with old variables. -/
def plannedTree : Tree where
  entries := [
    (["vars.yml", "ansible", "deploy", "bench"], .file (Text.encode "zone: eu\n") false),
    (["ansible-vars.yml", "tmp", "deploy", "bench"], .file (Text.encode "zone: us\n") false),
    (["ansible", "deploy", "bench"], .directory),
    (["tmp", "deploy", "bench"], .directory),
    (["deploy", "bench"], .directory),
    (["bench"], .directory)]

/-- The template and the variables in this tree. -/
theorem readText_plannedTree :
    plannedTree.readText [] ⟨"bench/deploy/ansible/vars.yml"⟩ = .ok "zone: eu\n" ∧
      plannedTree.readText [] ⟨"bench/deploy/tmp/ansible-vars.yml"⟩ = .ok "zone: us\n" := by
  constructor
  · refine Tree.readText_eq_ok_iff.mpr ⟨false, ?_, by decide⟩
    rw [Tree.resolve, if_neg (by simp)]
    rfl
  · refine Tree.readText_eq_ok_iff.mpr ⟨false, ?_, by decide⟩
    rw [Tree.resolve, if_neg (by simp)]
    rfl

/-- The directory of the variables is there. -/
theorem makeAll_plannedTree :
    plannedTree.makeAll [] ⟨"bench/deploy/tmp"⟩ = ⟨plannedTree, none⟩ := by
  have hdir : plannedTree.resolve [] ⟨"bench/deploy/tmp"⟩ =
      .ok (.present ["tmp", "deploy", "bench"] .directory) := by
    rw [Tree.resolve, if_neg (by simp)]
    rfl
  exact Tree.makeAll_of_resolve hdir

/-- Old variables are replaced by what their template renders to. -/
theorem generated_whole_vars :
    let ctx : Context Unit := ⟨{ baseDir := ⟨"bench"⟩, site := .cloud }, dryRun, silentPacer⟩
    let w : World Unit := ⟨⟨[], [], ""⟩, plannedTree, (), [], [], []⟩
    ∃ v, (ctx.runGenerator (.vars none none)).run w = (.ok (), v) ∧
      v.tree.readText [] (ctx.pathOf (.vars none none)) =
        .ok "zone: eu\nbase_dir: bench\nworkload_timestamp: null\ndeployment_type: null\n" := by
  intro ctx w
  have hbase : ctx.config.baseDir.text = "bench" := rfl
  have htemplate : ctx.varsTemplate = ⟨"bench/deploy/ansible/vars.yml"⟩ := by decide
  have hpath : ctx.config.varsPath = ⟨"bench/deploy/tmp/ansible-vars.yml"⟩ := by decide
  obtain ⟨hsource, hold⟩ := readText_plannedTree
  rw [← htemplate] at hsource
  rw [← hpath] at hold
  have hparent : ∀ parent ∈ ctx.config.varsPath.parent?,
      plannedTree.makeAll [] parent = ⟨plannedTree, none⟩ := by
    intro parent hparent
    obtain rfl : ⟨"bench/deploy/tmp"⟩ = parent :=
      Option.some.inj ((show _ = _ by decide).trans hparent)
    exact makeAll_plannedTree
  have htext : renderVars "zone: eu\n" { baseDir := "bench", timestamp? := none, site? := none } =
      .ok "zone: eu\nbase_dir: bench\nworkload_timestamp: null\ndeployment_type: null\n" := by
    decide +kernel
  have hfree : w.LinkFree := rfl
  have hwhole : w.WritesWhole := fun _ hentry => absurd hentry List.not_mem_nil
  obtain ⟨v, hgenerate⟩ :=
    ctx.run_generateVars_of_readText (w := w) hfree hwhole hsource htext hparent hold
  obtain ⟨_, _, made, pending, last, hrun, hended, -⟩ := ctx.generated_whole (.vars none none) w
  obtain ⟨rfl, rfl⟩ := Prod.mk.inj (hgenerate.symm.trans hrun)
  refine ⟨v, hgenerate, ?_⟩
  obtain rfl : pending = [] := hended.complete.mp rfl
  have hmade : made.map Rendition.file = [.vars none none] :=
    (List.append_nil _).symm.trans hended.split.symm
  obtain ⟨⟨_, lookups, hosts⟩, rfl, rfl⟩ := List.map_eq_singleton_iff.mp hmade
  obtain ⟨hresolved, hfile⟩ := hended.replaced _ (List.mem_singleton_self _)
  -- nothing is looked up, so no call could touch a file
  have hspared : ∀ x ∈ callsFor [⟨.vars none none, lookups, hosts⟩] last,
      ctx.SparesOutput x w.links w.around.cwd (.vars none none) := by
    intro x hx
    rcases List.mem_append.mp hx with hx | hx
    · cases hresolved
      cases hx
    · obtain ⟨f, hf, -⟩ := hended.asked x hx
      cases hf
  obtain ⟨text, hrenders, hread⟩ := hfile (ctx.keepsApart_deploymentFiles hfree) hspared
  rw [show w.links = [] from hfree, Links.readText_nil] at hread
  cases hrenders with
  | vars hat hsource' htext' =>
      rw [show w.links = [] from hfree, Links.arrivals_nil] at hat
      obtain rfl := hat
      rw [hsource'.eq (Tree.holds_of_readText hsource), hbase, htext] at htext'
      rwa [Except.ok.inj htext']

end Context

end GeoBench.Deployment
