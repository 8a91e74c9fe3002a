import GeoBench.Machine.Clock
import GeoBench.Proofs.Deployment.Clean
import GeoBench.Proofs.Deployment.Generated
import GeoBench.Proofs.Deployment.Moves

/-!
# Histories of commands

The manager is used by one command after another, on either target, in dry runs and others, each
begun at its own time; what a command leaves, the next one finds, however the first one ended. All
that such a history may change is told by the moves that its commands may make: what each move may
touch is looked up once, and a place that no move of any command touches is left alone throughout.

The names of the files that are written are enough to see that no file is lost that the manager only
reads. The time stamps that commands carry are needed only to see where else the files are.

## Orders

An `Order` is a command with all that it is given: its context, and the time at which it begins. An
order that fails is not taken back; the next one finds what it left. So a history is a list of
orders, and what it leaves is found by taking them one after the other, without a look at how any of
them ended.

## What is supposed

The calls of a command are made by other programs, which may change any file. Whatever is said of a
file therefore supposes that the calls leave it alone, for this file and not for all of them. The
world is one without links, since the files are told by their places.

## Main results

* `Context.named_of_touches`, `Context.owned_of_touches` — what a move may touch.
* `history_rewrites` — what no move touches is left alone, by induction on the history.
* `history_frame` — the files that are never changed, and where the others are.
-/

namespace GeoBench

open GeoBench.Machine

/-- A stamp is the name of one directory. -/
theorem Machine.Clock.isName_stamp (seconds : Nat) : Path.IsName (stamp seconds) := by
  have hne : ∀ s : String, s.length ≠ 19 → stamp seconds ≠ s := by
    rintro s hs rfl
    exact hs (stamp_length seconds)
  exact ⟨hne _ (by decide), hne _ (by decide), hne _ (by decide), stamp_no_slash seconds⟩

namespace Machine.Surroundings

/-- The same surroundings at another **time**. -/
def atTime (s : Surroundings) (clock : String) : Surroundings :=
  { s with clock }

variable (s : Surroundings) (clock later : String)

/-- The clock shows the new time. -/
@[simp] theorem clock_atTime : (s.atTime clock).clock = clock := rfl

/-- Time does not move the working directory. -/
@[simp] theorem cwd_atTime : (s.atTime clock).cwd = s.cwd := rfl

/-- Time does not move the home directory. -/
@[simp] theorem home?_atTime : (s.atTime clock).home? = s.home? := rfl

/-- Of two times the later one counts. -/
@[simp] theorem atTime_atTime : (s.atTime clock).atTime later = s.atTime later := rfl

end Machine.Surroundings

namespace Machine.World

variable {σ : Type}

/-- The same world **amid** other surroundings. -/
def amid (s : Surroundings) (w : World σ) : World σ :=
  { w with around := s }

variable (s : Surroundings) (w : World σ)

/-- A world amid surroundings has these. -/
@[simp] theorem around_amid : (w.amid s).around = s := rfl

/-- What happened in a world is the same amid other surroundings. -/
@[simp] theorem events_amid : (w.amid s).events = w.events := rfl

/-- What becomes of a file does not depend on the surroundings that it is looked at in. -/
theorem Rewrites.of_amid {s : Surroundings} {w v : World σ} {texts : Set String} {at_ : Place}
    (h : (w.amid s).Rewrites texts at_ v) : w.Rewrites texts at_ v := by
  obtain ⟨new, hnew, honward, hfile⟩ := h
  exact ⟨new, hnew, ⟨honward.links, honward.shortfalls⟩, hfile⟩

end Machine.World

namespace Deployment

variable {σ : Type}

/-! ### What a move may touch -/

/-- The files under the base directory that the manager only **reads**. -/
def givenFiles : List String :=
  ["deploy/weaver/weaver-template-eu.toml", "deploy/weaver/weaver-template-us.toml",
    "deploy/ansible/vars.yml", "deploy/ansible/ansible.cfg", Cloud.profileFile,
    Cloud.credentialsFile, generatorFile]

/-- The names of the files that the manager **writes** under the base directory. -/
def writtenNames : List String :=
  ["weaver-gcp-eu.toml", "weaver-gcp-us.toml", "ansible-inventory-gcp.cfg", "ansible-vars.yml",
    "workload.out", "metrics.yml"]

/-- The name of the playbooks' configuration in the home directory. -/
abbrev homeConfigName : String := ".ansible.cfg"

/-- The directory for the results on the target of a configuration. -/
def resultsDir (c : Config) : Path :=
  c.evaluationDir.sub c.site.name

/-- No file that is only read has the name of one that is written, or is in the directory of the
generated files. -/
theorem givenFiles_apart : ∀ q ∈ givenFiles, Path.isAbsolute ⟨q⟩ = false ∧
    (∀ s ∈ Path.steps ⟨q⟩, s ≠ "." ∧ s ≠ "..") ∧
    (∀ name ∈ homeConfigName :: writtenNames, (Path.steps ⟨q⟩).getLast? ≠ some name) ∧
    Path.steps ⟨q⟩ ≠ [] ∧
    ¬ ["tmp", "deploy"] <:+ (Path.steps ⟨q⟩).reverse := by
  decide

/-- The generated files lie in two directories under the base directory. -/
theorem place_tmpDir (base : Path) (cwd : Place) :
    (base.sub "deploy/tmp").place cwd = ["tmp", "deploy"] ++ base.place cwd :=
  Path.place_sub_names cwd base (by decide) (by decide)

/-- The results on a target lie under its name. -/
theorem place_resultsDir (c : Config) (cwd : Place) :
    (resultsDir c).place cwd = c.site.name :: "evaluation" :: c.baseDir.place cwd := by
  rw [resultsDir, Path.place_sub_name _ _ (isName_site _), Config.evaluationDir, Config.path,
    Path.place_sub_name _ _ (by decide)]

namespace Context

variable {ctx : Context σ} {command : Command} {s : Surroundings} {m : Move} {at_ : Place}

/-- The playbooks' configuration has its name wherever the home directory is. -/
theorem head?_of_mem_homeConfig (h : at_ ∈ homeConfig s) : at_.head? = some homeConfigName := by
  obtain ⟨home, -, rfl⟩ := h
  exact Path.hasName_sub ⟨home⟩ (by decide) (by decide) (by decide) (by decide) s.cwd

/-- Each generated file has one of the written names. -/
theorem exists_hasName_of_mem_generatedPaths {p : Path} (h : p ∈ ctx.generatedPaths) :
    ∃ name ∈ writtenNames, p.HasName name := by
  simp only [generatedPaths, List.mem_cons, List.not_mem_nil, or_false] at h
  rcases h with rfl | rfl | rfl | rfl
  · exact ⟨_, by decide, ctx.hasName_settingsEurope⟩
  · exact ⟨_, by decide, ctx.hasName_settingsAmerica⟩
  · exact ⟨_, by decide, ctx.hasName_inventory⟩
  · exact ⟨_, by decide, ctx.hasName_vars⟩

/-- Each generated file is below the directory for them. -/
theorem below_tmpDir_of_mem_generatedPaths (ctx : Context σ) {p : Path} {cwd : Place}
    (h : p ∈ ctx.generatedPaths) : Place.Below (ctx.config.tmpDir.place cwd) (p.place cwd) := by
  have hbelow : ∀ {name}, Path.IsName name →
      Place.Below (ctx.config.tmpDir.place cwd) ((ctx.config.tmpDir.sub name).place cwd) := by
    intro name hname
    rw [Path.place_sub_name _ _ hname]
    exact Place.below_append _ (List.cons_ne_nil name [])
  simp only [generatedPaths, List.mem_cons, List.not_mem_nil, or_false] at h
  rcases h with rfl | rfl | rfl | rfl
  · exact hbelow (by decide)
  · exact hbelow (by decide)
  · exact hbelow (by decide)
  · exact hbelow (by decide)

/-- **What a move touches** has a name that is written, or is the playbooks' configuration, if the
run is not dry, unless the move is the removal that a clean makes. -/
theorem named_of_touches (h : ctx.May command s m) (hat : at_ ∈ m.touches s) :
    (∃ name ∈ writtenNames, at_.head? = some name) ∨
      ctx.config.dryRun = false ∧ at_ ∈ homeConfig s ∨
      command.verb = .clean ∧ m = .remove ctx.config.tmpDir := by
  cases h with
  | say | pass | call | lookup | status | list | makeAll => exact absurd hat (Set.notMem_empty at_)
  | generate hp text =>
      obtain ⟨name, hname, hp⟩ := exists_hasName_of_mem_generatedPaths hp
      exact .inl ⟨name, hname, hat ▸ hp s.cwd⟩
  | keepOutput => exact .inl ⟨_, by decide, hat ▸ hasName_outputPath ctx.config s.clock s.cwd⟩
  | keepReport => exact .inl ⟨_, by decide, hat ▸ hasName_reportPath ctx.config _ s.cwd⟩
  | copy hdry hhome => exact .inr (.inl ⟨hdry, _, hhome, hat⟩)
  | remove hverb => exact .inr (.inr ⟨hverb, rfl⟩)

/-- **What a move touches**, if the time stamps are names: something below the directory of the
generated files, something below that of the results, or the playbooks' configuration in the home
directory. -/
theorem owned_of_touches (h : ctx.May command s m) (hat : at_ ∈ m.touches s)
    (hclock : Path.IsName s.clock)
    (hnamed : ∀ timestamp ∈ command.timestamp?, Path.IsName timestamp) :
    Place.Below (ctx.config.tmpDir.place s.cwd) at_ ∨
      Place.Below ((resultsDir ctx.config).place s.cwd) at_ ∨ at_ ∈ Context.homeConfig s := by
  cases h with
  | say | pass | call | lookup | status | list | makeAll => exact absurd hat (Set.notMem_empty at_)
  | generate hp text =>
      obtain rfl : at_ = _ := hat
      exact .inl (ctx.below_tmpDir_of_mem_generatedPaths hp)
  | keepOutput =>
      obtain rfl : at_ = _ := hat
      rw [place_outputPath _ hclock, place_resultsDir]
      exact .inr (.inl (Place.below_append _ (List.cons_ne_nil "workload.out" [s.clock])))
  | @keepReport timestamp hreports =>
      have htimestamp : Path.IsName timestamp := by
        rcases hreports with hcarried | ⟨-, -, rfl⟩
        · exact hnamed timestamp hcarried
        · exact hclock
      obtain rfl : at_ = _ := hat
      rw [place_reportPath _ htimestamp, place_resultsDir]
      exact .inr (.inl (Place.below_append _ (List.cons_ne_nil "metrics.yml" [timestamp])))
  | copy _ hhome => exact .inr (.inr ⟨_, hhome, hat⟩)
  | remove => exact .inl hat

end Context

/-! ### Histories -/

/-- A command that is **given**, in a context with a base directory, at a time in seconds. -/
structure Order (base : Path) (σ : Type) where
  context : Context σ
  based : context.config.baseDir = base
  command : Command
  seconds : Nat

variable {base : Path}

namespace Order

variable (o : Order base σ)

/-- The surroundings at the time of an order. -/
def around (s : Surroundings) : Surroundings :=
  s.atTime (Clock.stamp o.seconds)

/-- Each order is given at its own time, whatever the time of the one before was. -/
theorem around_around (o' : Order base σ) (s : Surroundings) :
    o'.around (o.around s) = o'.around s := by
  rw [around, around, around, Surroundings.atTime_atTime]

/-- Orders are given from one working directory. -/
theorem cwd_around (s : Surroundings) : (o.around s).cwd = s.cwd := by
  rw [around, Surroundings.cwd_atTime]

/-- The home directory is the same at all times. -/
theorem homeConfig_around (s : Surroundings) :
    Context.homeConfig (o.around s) = Context.homeConfig s := by
  rw [around, Context.homeConfig, Context.homeConfig, Surroundings.home?_atTime,
    Surroundings.cwd_atTime]

/-- The world **after** an order, however its command ended. -/
def after (w : World σ) : World σ :=
  ((Registry.standard.dispatch o.context o.command).run (w.amid (o.around w.around))).2

/-- The world after an order is at the time of the order. -/
theorem around_after (w : World σ) : (o.after w).around = o.around w.around := by
  rw [after, (Registry.permitted_dispatch o.context o.command).around_run, World.around_amid]

/-- An order adds to what happened. -/
theorem exists_events (w : World σ) : ∃ new, (o.after w).events = w.events ++ new := by
  have hmove : ∀ (m : Move) (u : World σ), ∃ new,
      (m.after o.context.runner u).events = u.events ++ new ∧ ∀ e ∈ new, True := by
    intro m u
    obtain ⟨new, hnew⟩ := Move.exists_events
    exact ⟨new, hnew, fun _ _ => trivial⟩
  obtain ⟨new, hnew, -⟩ := (Registry.permitted_dispatch o.context o.command).exists_events
    (w.amid (o.around w.around)) fun m u _ _ => hmove m u
  rw [World.events_amid] at hnew
  rw [after]
  exact ⟨new, hnew⟩

/-- A place that no move of its command touches is left alone by a command, amid any
surroundings. -/
theorem rewrites_amid {s : Surroundings} {w : World σ} {at_ : Place}
    (h : ∀ m, o.context.May o.command s m → at_ ∉ m.touches s) :
    w.Rewrites ∅ at_ ((Registry.standard.dispatch o.context o.command).run (w.amid s)).2 :=
  .of_amid ((Registry.permitted_dispatch o.context o.command).rewrites _ fun m hm => .inl (h m hm))

/-- A place that no move of its command touches is left alone by an order. -/
theorem rewrites {w : World σ} {at_ : Place}
    (h : ∀ m, o.context.May o.command (o.around w.around) m →
      at_ ∉ m.touches (o.around w.around)) : w.Rewrites ∅ at_ (o.after w) := by
  rw [after]
  exact o.rewrites_amid h

variable {o} {s : Surroundings} {m : Move} {at_ : Place}

/-- No move of an order touches a file that is only read. -/
theorem notMem_touches_givenFiles (hm : o.context.May o.command (o.around s) m) {q : String}
    (hq : q ∈ givenFiles) : (base.sub q).place s.cwd ∉ m.touches (o.around s) := by
  intro hat
  obtain ⟨hrelative, hordinary, hname, hne, hapart⟩ := givenFiles_apart q hq
  rw [Path.place_sub_names _ _ hrelative hordinary] at hat
  have hhead : ∀ name ∈ homeConfigName :: writtenNames,
      ((Path.steps ⟨q⟩).reverse ++ base.place s.cwd).head? ≠ some name := by
    intro name hmem
    rw [List.head?_append_of_ne_nil _ (mt List.reverse_eq_nil_iff.mp hne), List.head?_reverse]
    exact hname name hmem
  rcases Context.named_of_touches hm hat with ⟨name, hmem, heq⟩ | ⟨-, hhome⟩ | ⟨-, rfl⟩
  · exact hhead name (List.mem_cons_of_mem _ hmem) heq
  · exact hhead _ List.mem_cons_self (Context.head?_of_mem_homeConfig hhome)
  · have hunder : Tree.isUnder (o.context.config.tmpDir.place (o.around s).cwd) _ := hat.1
    rw [Config.tmpDir, Config.path, o.based, o.cwd_around, place_tmpDir, Tree.isUnder,
      List.isSuffixOf_iff_suffix] at hunder
    exact hapart (List.suffix_append_self_iff.mp hunder)

/-- Where the files are that the moves of an order touch. -/
theorem owned_of_touches (hm : o.context.May o.command (o.around s) m)
    (hat : at_ ∈ m.touches (o.around s))
    (hnamed : ∀ timestamp ∈ o.command.timestamp?, Path.IsName timestamp) :
    Place.Below ((base.sub "deploy/tmp").place s.cwd) at_ ∨
      Place.Below (((base.sub "evaluation").sub o.context.config.site.name).place s.cwd) at_ ∨
      at_ ∈ Context.homeConfig s := by
  have hclock : Path.IsName (o.around s).clock := by
    rw [around, Surroundings.clock_atTime]
    exact Clock.isName_stamp o.seconds
  have howned := Context.owned_of_touches hm hat hclock hnamed
  rwa [o.homeConfig_around, o.cwd_around, resultsDir, Config.tmpDir, Config.evaluationDir,
    Config.path, Config.path, o.based] at howned

end Order

/-- The world after some **orders**, one after the other. -/
def history (orders : List (Order base σ)) (w : World σ) : World σ :=
  orders.foldl (fun w o => o.after w) w

/-- A place that no move of any command touches is left alone by a history. -/
theorem history_rewrites {orders : List (Order base σ)} {w : World σ} {at_ : Place}
    (h : ∀ o ∈ orders, ∀ m, o.context.May o.command (o.around w.around) m →
      at_ ∉ m.touches (o.around w.around)) : w.Rewrites ∅ at_ (history orders w) := by
  induction orders generalizing w with
  | nil => exact .refl w
  | cons o orders ih =>
      refine (o.rewrites (h o List.mem_cons_self)).trans (ih fun o' ho' m hm => ?_)
      rw [o.around_after, o.around_around] at hm ⊢
      exact h o' (List.mem_cons_of_mem o ho') m hm

/-- So do orders one after the other. -/
theorem history_events (orders : List (Order base σ)) (w : World σ) :
    ∃ new, (history orders w).events = w.events ++ new := by
  induction orders generalizing w with
  | nil => exact ⟨[], (List.append_nil _).symm⟩
  | cons o orders ih =>
      obtain ⟨new, hnew⟩ := o.exists_events w
      obtain ⟨rest, hrest⟩ := ih (o.after w)
      rw [hnew, List.append_assoc] at hrest
      exact ⟨new ++ rest, hrest⟩

/-- **What histories of commands change**, in a world without links. The files that the manager only
reads are as they were, whatever time stamps are given, if the calls spare them. If every time stamp
for metrics is the name of a directory, then a file that the calls spare and that is not as it was
is below the directory of the generated files or below that of the results on the target of some
order, or is the playbooks' configuration in the home directory. -/
theorem history_frame (orders : List (Order base σ)) (w : World σ) :
    ∃ new, (history orders w).events = w.events ++ new ∧
      (w.LinkFree → ∀ q ∈ givenFiles,
        (∀ x ∈ calls new, x.SparesAt ((base.sub q).place w.around.cwd)) →
        (history orders w).tree.file? ((base.sub q).place w.around.cwd) =
          w.tree.file? ((base.sub q).place w.around.cwd)) ∧
      (w.LinkFree →
        (∀ o ∈ orders, ∀ timestamp ∈ o.command.timestamp?, Path.IsName timestamp) →
        ∀ at_, (∀ x ∈ calls new, x.SparesAt at_) →
          (history orders w).tree.file? at_ ≠ w.tree.file? at_ →
          Place.Below ((base.sub "deploy/tmp").place w.around.cwd) at_ ∨
          (∃ o ∈ orders, Place.Below
            (((base.sub "evaluation").sub o.context.config.site.name).place w.around.cwd) at_) ∨
          at_ ∈ Context.homeConfig w.around) := by
  obtain ⟨new, hnew⟩ := history_events orders w
  have hsame : w.LinkFree → ∀ at_,
      (∀ o ∈ orders, ∀ m, o.context.May o.command (o.around w.around) m →
        at_ ∉ m.touches (o.around w.around)) →
      (∀ x ∈ calls new, x.SparesAt at_) →
      (history orders w).tree.file? at_ = w.tree.file? at_ := fun hfree at_ huntouched hspared =>
    ((history_rewrites huntouched).file? hnew hfree hspared).resolve_right
      fun ⟨_, hnone, _⟩ => hnone
  refine ⟨new, hnew, fun hfree q hq =>
    hsame hfree _ fun o _ m hm => Order.notMem_touches_givenFiles hm hq,
    fun hfree hnamed at_ hspared hchanged => ?_⟩
  by_contra hnone
  refine hchanged (hsame hfree at_ (fun o ho m hm hat => hnone ?_) hspared)
  exact (Order.owned_of_touches hm hat (hnamed o ho)).imp_right
    (Or.imp_left fun hbelow => ⟨o, ho, hbelow⟩)

end Deployment
end GeoBench
