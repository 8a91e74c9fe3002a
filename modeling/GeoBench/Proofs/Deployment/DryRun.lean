import GeoBench.Proofs.Deployment.History

/-!
# Dry runs

In a dry run nothing is called: each call is logged, succeeds, and gives nothing. What would have to
wait for an answer, or rely on one, has to be passed over instead, in each place by a look at the
configuration of its own. That no such place is missed is read off the list of what a command may
do, whatever the command and the tree.

## Two layers

That a call is not made in a dry run is a matter of the runner, which only logs it. That nothing is
waited for, looked up or copied is a matter of each procedure, since a runner that gives nothing
would make a gate wait for its whole budget and a lookup fail. The first is said of all sessions,
the second is read off the moves of the commands.

Files are another matter: what a dry run may write is told elsewhere
(`GeoBench.Proofs.Deployment.DryResults`).

## Main results

* `dry_events` — all that can happen in a dry run.
* `Context.awaitGate_dry` — a gate is passed without being asked about.
* `Registry.dispatch_dry` — what a dry run never does, and how it never ends.
-/

namespace GeoBench

open GeoBench.Machine GeoBench.Deployment

variable {σ : Type}

namespace Deployment

/-- The context of a **dry run**. -/
def Context.dry (c : Config) (pacer : Pacer) : Context σ where
  config := { c with dryRun := true }
  runner := dryRun
  pacer

/-- What **can happen** in a dry run: texts come out, and calls are logged that change nothing and
give nothing. None of them looks up an address, and the members of the cluster are listed only where
they are shown. -/
inductive HappensDry (command : Command) : Event → Prop
  | said (u : Utterance) : HappensDry command (.said u)
  | called (x : Exchange) (hreply : x.reply = .ok "") (hleft : x.left = x.found)
      (hcall : IsPlain x.invocation ∨
        command.verb = .info ∧ x.mode = .run ∧ IsListing x.invocation) :
      HappensDry command (.called x)

section

variable (c : Config) (pacer : Pacer) {command : Command}

/-- A call of a dry run, as it is recorded. -/
theorem happensDry_call (mode : Mode) {i : Invocation} (w : World σ)
    (hcall : IsPlain i ∨ command.verb = .info ∧ mode = .run ∧ IsListing i) :
    ∃ new, (Session.afterCall dryRun mode i w).events = w.events ++ new ∧
      ∀ e ∈ new, HappensDry command e := by
  obtain ⟨said, hevents⟩ := Session.events_afterCall dryRun mode i w
  refine ⟨_, hevents, fun e he => ?_⟩
  rcases List.mem_append.mp he with he | he
  · obtain ⟨u, -, rfl⟩ := List.mem_map.mp he
    exact .said u
  · rw [List.mem_singleton.mp he]
    exact .called _ rfl rfl hcall

/-- **All that can happen** in a dry run. -/
theorem dry_events (command : Command) (w : World σ) : ∃ new,
    ((Registry.standard.dispatch (.dry c pacer) command).run w).2.events = w.events ++ new ∧
      ∀ e ∈ new, HappensDry command e := by
  refine (Registry.permitted_dispatch (.dry c pacer) command).exists_events w fun m u hm _ => ?_
  cases hm with
  | say text => exact ⟨[.said text], Move.events_after nofun, by simpa using .said text⟩
  | call mode hplain => exact happensDry_call mode u (.inl hplain)
  | list hverb hlisting => exact happensDry_call .run u (.inr ⟨hverb, rfl, hlisting⟩)
  | pass hdry | lookup hdry | status hdry | copy hdry => cases hdry
  | makeAll | generate | keepOutput | keepReport | remove =>
      exact ⟨[], Move.events_after nofun, nofun⟩

/-- A dry move leaves the file alone at a place that it does not touch, even if it is a call. -/
theorem file?_after_dryRun {m : Move} {at_ : Place} {w : World σ} (hfree : w.LinkFree)
    (h : at_ ∉ m.touches w.around) : (m.after dryRun w).tree.file? at_ = w.tree.file? at_ := by
  cases m with
  | call => rfl
  | say | pass | makeAll | write | copy | remove => exact Move.file?_after hfree nofun h

/-- The playbooks' configuration in the home directory is as it was, unless a clean removes it with
all the generated files. -/
theorem dry_homeConfig (command : Command) {w : World σ} (hfree : w.LinkFree) {at_ : Place}
    (h : at_ ∈ Context.homeConfig w.around) :
    ((Registry.standard.dispatch (.dry c pacer) command).run w).2.tree.file? at_ =
        w.tree.file? at_ ∨
      command.verb = .clean ∧
        ((Registry.standard.dispatch (.dry c pacer) command).run w).2.tree.file? at_ = none := by
  refine ((Registry.permitted_dispatch (.dry c pacer) command).rel
    (R := fun u v => u.LinkFree → v.LinkFree ∧ (v.tree.file? at_ = u.tree.file? at_ ∨
      command.verb = .clean ∧ v.tree.file? at_ = none)) w (fun _ hfree => ⟨hfree, .inl rfl⟩)
    ?_ ?_ hfree).2
  · intro a b d hfirst hsecond hfree
    obtain ⟨hfree, hfirst⟩ := hfirst hfree
    obtain ⟨hfree, heq | hgone⟩ := hsecond hfree
    · rcases hfirst with hfirst | ⟨hverb, hnone⟩
      · exact ⟨hfree, .inl (heq.trans hfirst)⟩
      · exact ⟨hfree, .inr ⟨hverb, heq.trans hnone⟩⟩
    · exact ⟨hfree, .inr hgone⟩
  · intro m u hm hu hfree
    refine ⟨Move.onward_after.linkFree hfree, ?_⟩
    by_cases hat : at_ ∈ m.touches u.around
    · rw [hu] at hat
      rcases Context.named_of_touches hm hat with ⟨name, hname, hhead⟩ | ⟨hdry, -⟩ | ⟨hverb, rfl⟩
      · rw [Context.head?_of_mem_homeConfig h] at hhead
        obtain rfl := Option.some.inj hhead
        exact absurd hname (by decide)
      · cases hdry
      · exact (Session.file?_run_removeDirectory hfree _ at_).imp_right fun hnone =>
          ⟨hverb, hnone⟩
    · exact .inl (file?_after_dryRun hfree hat)

/-- What a dry run **never does**, and how it never ends. -/
structure Harmless (ctx : Context σ) (command : Command) (w v : World σ) (ms : List Move)
    (new : List Event) (result : Except CommandFault Unit) : Prop where
  /-- Nothing is waited for. -/
  no_wait : ∀ n message, .waited n message ∉ new
  /-- No address is looked up. -/
  no_lookup : ∀ x ∈ calls new, ∀ p machine, x.invocation ≠ Context.describeCall p machine
  /-- No gate is asked about. -/
  no_status : ∀ x ∈ calls new, ∀ g ∈ [nodesGate ctx.config, servicesGate ctx.config],
    x.mode = .output → x.invocation ≠ g.status
  /-- Nothing is copied. -/
  no_copy : ∀ source destination, .copy source destination ∉ ms
  /-- The playbooks' configuration in the home directory is as it was where there are no links,
  unless a clean removes it with all the generated files. -/
  home : w.LinkFree → ∀ at_ ∈ Context.homeConfig w.around, v.tree.file? at_ = w.tree.file? at_ ∨
    command.verb = .clean ∧ v.tree.file? at_ = none
  /-- No call fails, whatever it was made for. -/
  no_callFault : ∀ fault, result = .error fault →
    (∀ cause, fault ≠ .call cause) ∧ (∀ cause, fault ≠ .readiness cause) ∧
      ∀ metric cause, fault ≠ .report (.noSource metric cause)
  /-- Nothing is missed that only a call would have told or brought. -/
  no_missing : ∀ fault, result = .error fault →
    (∀ text, fault ≠ .workload text) ∧ ∀ machine, fault ≠ .config (.noAddress machine)

/-- A dry run is harmless if its moves and events are those of one. -/
theorem Harmless.of_dry {w v : World σ} {ms : List Move} {new : List Event}
    {result : Except CommandFault Unit}
    (hms : ∀ m ∈ ms, (Context.dry c pacer : Context σ).May command w.around m)
    (hhappens : ∀ e ∈ new, HappensDry command e)
    (hhome : w.LinkFree → ∀ at_ ∈ Context.homeConfig w.around, v.tree.file? at_ = w.tree.file? at_ ∨
      command.verb = .clean ∧ v.tree.file? at_ = none)
    (hfails : ∀ f, result = .error f → (Context.dry c pacer : Context σ).MayFail f) :
    Harmless (.dry c pacer) command w v ms new result where
  no_wait n message hmem := nomatch hhappens _ hmem
  no_lookup x hx p machine heq := by
    cases hhappens _ (mem_of_mem_calls hx) with
    | called _ _ _ hcall =>
        rcases hcall with hplain | ⟨-, -, hlisting⟩
        · exact hplain.no_lookup p machine heq
        · exact hlisting.ne_describeCall p machine heq
  no_status x hx g hg hmode heq := by
    have hlisting : IsListing g.status := by
      rcases List.mem_cons.mp hg with rfl | hg
      · exact Context.isListing_nodes _
      · rw [List.mem_singleton.mp hg]
        exact Context.isListing_services _
    cases hhappens _ (mem_of_mem_calls hx) with
    | called _ _ _ hcall =>
        rcases hcall with hplain | ⟨-, hrun, -⟩
        · exact hplain.no_listing (heq ▸ hlisting)
        · rw [hmode] at hrun
          cases hrun
  no_copy source destination hmem := by
    cases hms _ hmem with
    | copy hdry => cases hdry
  home := hhome
  no_callFault fault hfault := by
    cases hfails fault hfault with
    | call hrunner | noSource hrunner => exact absurd rfl hrunner
    | readiness hdry | noAddress hdry | workload hdry => cases hdry
    | missingProfile | unsupported | notKept | template | system => exact ⟨nofun, nofun, nofun⟩
  no_missing fault hfault := by
    cases hfails fault hfault with
    | call hrunner | noSource hrunner => exact absurd rfl hrunner
    | readiness hdry | noAddress hdry | workload hdry => cases hdry
    | missingProfile | unsupported | notKept | template | system => exact ⟨nofun, nofun⟩

end

/-- **A gate is passed** in a dry run as if its count had been reached at once, and only told of. -/
theorem Context.awaitGate_dry (c : Config) (pacer : Pacer) (g : Readiness.Gate) (w : World σ) :
    ((Context.dry c pacer).awaitGate g).run w =
      (.ok { check := { dimension := g.dimension, target := g.target, actual := g.target }
             attempts := 0, waited := 0 },
        w.note [.logged .info ("[dry-run] wait for " ++ toString g.target ++ " " ++
          g.dimension.text)]) := rfl

end Deployment

namespace Registry

variable (c : Config) (pacer : Pacer) (command : Command) (w : World σ)

/-- **A dry run is harmless** for every command and every tree, and passes every gate as if its
count had been reached at once. -/
theorem dispatch_dry :
    (∃ result v ms new, (standard.dispatch (.dry c pacer) command).run w = (result, v) ∧
      v = Move.replay dryRun ms w ∧ v.events = w.events ++ new ∧
      Harmless (.dry c pacer) command w v ms new result) ∧
    ∀ g (u : World σ), ∃ line, ((Context.dry c pacer).awaitGate g).run u =
      (.ok { check := { dimension := g.dimension, target := g.target, actual := g.target }
             attempts := 0, waited := 0 }, u.note [.logged .info line]) := by
  refine ⟨?_, fun g u => ⟨_, Context.awaitGate_dry c pacer g u⟩⟩
  obtain ⟨⟨ms, hmoves, hms⟩, hfails⟩ := permitted_dispatch (.dry c pacer) command w
  obtain ⟨new, hnew, hhappens⟩ := dry_events c pacer command w
  have hhome : w.LinkFree → ∀ at_ ∈ Context.homeConfig w.around, _ := fun hfree at_ hat =>
    dry_homeConfig c pacer command hfree hat
  rcases hrun : (standard.dispatch (.dry c pacer) command).run w with ⟨result, v⟩
  rw [hrun] at hmoves hfails hnew hhome
  exact ⟨result, v, ms, new, rfl, hmoves, hnew, .of_dry c pacer hms hhappens hhome hfails⟩

end Registry

end GeoBench
