import GeoBench.Manager
import GeoBench.Proofs.Deployment.Moves

/-!
# The profile that commands need

The commands for the cloud target need the profile of the project, some of them after machines were
set up already. They need not fear for it: a configuration that is made from options has a profile
exactly for the cloud target, and the commands for this computer never look for one.

The making of a configuration only looks at the file tree, wherever its links lead. The ways in
which it can end are listed, and what holds of a configuration is read off the list.

## Where a profile can be missed

A profile is asked for where a command has to know the project or its user: for the rules of the
firewall, for the address of a machine, and for the inventory. None of this is reached on this
computer. On the cloud target it is reached only with a configuration that was made, and making it
fails if the profile is not there. So the fault that a profile is missing cannot occur at all; a
profile that is not available is told by what is wrong with its files.

## Faults of a kind

That a command never fails in some way is stated by the faults that its parts may have
(`Session.Fails`), in the same shape as what they may change. One part after another has the faults
of both, and a part whose failure is seen as another one has faults of the outer kind only.

## Main results

* `Cloud.Profile.run_load`, `Options.run_configure` — the ways in which each can end.
* `Registry.dispatch_withProfile` — on this computer a command does the same with any profile.
* `Options.profile_iff_cloud` — which configurations have a profile, and that it is never missed.
-/

namespace GeoBench

open GeoBench.Machine GeoBench.Deployment

variable {σ : Type}

/-! ### Profiles that are loaded -/

namespace Cloud.Profile

/-- How the **loading** of the profile under a base directory can end. -/
inductive Loads (links : Links) (t : Tree) (cwd : Place) (baseDir : Path) :
    Except ConfigFault Profile → Prop
  | unreadable (cause : Fault)
      (hread : links.readText t cwd (baseDir.sub profileFile) = .error cause) :
      Loads links t cwd baseDir (.error (.unreadable (baseDir.sub profileFile) cause))
  | bad (content : String) (cause : ProfileFault)
      (hread : links.readText t cwd (baseDir.sub profileFile) = .ok content)
      (hparse : parse content = .error cause) :
      Loads links t cwd baseDir (.error (.badProfile (baseDir.sub profileFile) cause))
  | noCredentials (content : String) (p : Profile)
      (hread : links.readText t cwd (baseDir.sub profileFile) = .ok content)
      (hparse : parse content = .ok p)
      (hcredentials : links.isFile t cwd (baseDir.sub credentialsFile) = false) :
      Loads links t cwd baseDir (.error (.missingFile (baseDir.sub credentialsFile)))
  | loaded (content : String) (p : Profile)
      (hread : links.readText t cwd (baseDir.sub profileFile) = .ok content)
      (hparse : parse content = .ok p)
      (hcredentials : links.isFile t cwd (baseDir.sub credentialsFile) = true) :
      Loads links t cwd baseDir (.ok p)

/-- A profile is **available** under a base directory: its file holds it, and the credentials are in
a file. -/
structure Available (links : Links) (t : Tree) (cwd : Place) (baseDir : Path) (p : Profile) :
    Prop where
  parsed : ∃ content, links.readText t cwd (baseDir.sub profileFile) = .ok content ∧
    parse content = .ok p
  credentials : links.isFile t cwd (baseDir.sub credentialsFile) = true

variable {links : Links} {t : Tree} {cwd : Place} {baseDir : Path}

/-- A profile that was loaded is available. -/
theorem Loads.available {p : Profile} (h : Loads links t cwd baseDir (.ok p)) :
    Available links t cwd baseDir p := by
  cases h with
  | loaded content _ hread hparse hcredentials => exact ⟨⟨content, hread, hparse⟩, hcredentials⟩

/-- What is available is loaded. -/
theorem Loads.eq_ok {p : Profile} {result : Except ConfigFault Profile}
    (h : Loads links t cwd baseDir result) (hp : Available links t cwd baseDir p) :
    result = .ok p := by
  obtain ⟨⟨content, hread, hparse⟩, hcredentials⟩ := hp
  cases h with
  | unreadable cause hread' => cases hread.symm.trans hread'
  | bad content' cause hread' hparse' =>
      obtain rfl := Except.ok.inj (hread.symm.trans hread')
      cases hparse.symm.trans hparse'
  | noCredentials _ _ _ _ hcredentials' => cases hcredentials.symm.trans hcredentials'
  | loaded content' p' hread' hparse' =>
      obtain rfl := Except.ok.inj (hread.symm.trans hread')
      obtain rfl := Except.ok.inj (hparse.symm.trans hparse')
      rfl

/-- The loading of a profile **only looks** at the tree. -/
theorem run_load (baseDir : Path) (w : World σ) :
    ∃ result, (load baseDir).run w = (result, w) ∧
      Loads w.links w.tree w.around.cwd baseDir result := by
  have hreads : (Session.withFault (ConfigFault.unreadable (baseDir.sub profileFile))
      (Session.readText (baseDir.sub profileFile))).run w =
      ((w.links.readText w.tree w.around.cwd (baseDir.sub profileFile)).mapError
        (.unreadable (baseDir.sub profileFile)), w) := rfl
  rw [load]
  cases hread : w.links.readText w.tree w.around.cwd (baseDir.sub profileFile) with
  | error cause =>
      rw [hread] at hreads
      exact ⟨_, Session.run_bind_of_error hreads _, .unreadable cause hread⟩
  | ok content =>
      rw [hread] at hreads
      have hparses := Session.run_ofExcept
        ((parse content).mapError (ConfigFault.badProfile (baseDir.sub profileFile))) w
      rw [Session.run_bind_of_ok hreads]
      cases hparse : parse content with
      | error cause =>
          rw [hparse] at hparses
          exact ⟨_, Session.run_bind_of_error hparses _, .bad content cause hread hparse⟩
      | ok p =>
          rw [hparse] at hparses
          have hlooks : (Session.isFile (baseDir.sub credentialsFile) :
              Session σ ConfigFault Bool).run w =
            (.ok (w.links.isFile w.tree w.around.cwd (baseDir.sub credentialsFile)), w) := rfl
          rw [Session.run_bind_of_ok hparses]
          cases hcredentials : w.links.isFile w.tree w.around.cwd (baseDir.sub credentialsFile) with
          | false =>
              rw [hcredentials] at hlooks
              exact ⟨_, Session.run_bind_of_ok hlooks _,
                .noCredentials content p hread hparse hcredentials⟩
          | true =>
              rw [hcredentials] at hlooks
              exact ⟨_, Session.run_bind_of_ok hlooks _,
                .loaded content p hread hparse hcredentials⟩

end Cloud.Profile

/-! ### Faults of a kind -/

namespace Machine

variable {ε ε' α β : Type}

/-- A session that **fails**, if it does, only with faults of some kind. -/
def Fails (kind : ε → Prop) (x : Session σ ε α) : Prop :=
  ∀ w f v, x.run w = (.error f, v) → kind f

namespace Fails

variable {kind : ε → Prop} {x : Session σ ε α}

/-- A session within some moves fails with its faults only. -/
theorem of_within {runner : Runner σ} {may : Surroundings → Move → Prop}
    (h : Within runner may kind x) : Fails kind x :=
  fun w f _ hrun => (h w).2 f (congrArg Prod.fst hrun)

/-- Telling does not fail. -/
theorem log (level : Level) (message : String) :
    Fails kind (Session.log level message : Session σ ε Unit) :=
  fun _ _ _ hrun => nomatch (Prod.mk.inj hrun).1

/-- A result that is at hand fails with its own fault. -/
theorem ofExcept {result : Except ε α} (h : ∀ f, result = .error f → kind f) :
    Fails kind (Session.ofExcept result : Session σ ε α) :=
  fun _ f _ hrun => h f (Prod.mk.inj hrun).1

/-- **One part after another**, where the second one may rely on what the first one gives. -/
theorem bind {next : α → Session σ ε β} {given : α → Prop} (hx : Fails kind x)
    (hgives : Gives given x) (hnext : ∀ a, given a → Fails kind (next a)) :
    Fails kind (x >>= next) := by
  intro w f v hrun
  rcases hfirst : x.run w with ⟨fault | a, u⟩
  · rw [Session.run_bind_of_error hfirst] at hrun
    obtain ⟨hfault, rfl⟩ := Prod.mk.inj hrun
    obtain rfl := Except.error.inj hfault
    exact hx w fault u hfirst
  · rw [Session.run_bind_of_ok hfirst] at hrun
    exact hnext a (hgives w a u hfirst) u f v hrun

/-- A part with its failure seen as another one. -/
theorem withFault {kind' : ε' → Prop} {g : ε → ε'} (hx : Fails kind x)
    (hg : ∀ f, kind f → kind' (g f)) : Fails kind' (Session.withFault g x) := by
  intro w f' v hrun
  rw [Session.run_withFault] at hrun
  rcases hresult : x.run w with ⟨fault | a, u⟩
  · rw [hresult] at hrun
    obtain rfl := Except.error.inj (Prod.mk.inj hrun).1
    exact hg fault (hx w fault u hresult)
  · rw [hresult] at hrun
    cases (Prod.mk.inj hrun).1

end Fails

end Machine

/-! ### Commands that need none -/

namespace Deployment.Context

/-- The same context with a **profile**. -/
def withProfile (ctx : Context σ) (p : Cloud.Profile) : Context σ :=
  { ctx with config := { ctx.config with profile? := some p } }

end Deployment.Context

namespace Registry

/-- **On this computer** a command does the same with any profile: it looks for none. -/
theorem dispatch_withProfile {ctx : Context σ} (hsite : ctx.config.site = .localhost)
    (command : Command) (p : Cloud.Profile) :
    standard.dispatch ctx command = standard.dispatch (ctx.withProfile p) command := by
  have hsite' : (ctx.withProfile p).config.site = .localhost := hsite
  rw [dispatch, dispatch, hsite, hsite']
  cases command.verb <;> rfl

/-- No command misses a profile that is there. -/
theorem fails_dispatch_of_profile {ctx : Context σ} {p : Cloud.Profile}
    (h : ctx.config.profile? = some p) (command : Command) :
    Fails (· ≠ .config .missingProfile) (standard.dispatch ctx command) := by
  refine .of_within ((permitted_dispatch ctx command).mono (fun _ _ hmay => hmay) ?_)
  rintro _ hfails rfl
  cases hfails with
  | missingProfile hnone => cases h.symm.trans hnone

/-- No command on this computer misses a profile. -/
theorem fails_dispatch_of_localhost {ctx : Context σ} (hsite : ctx.config.site = .localhost)
    (command : Command) :
    Fails (· ≠ .config .missingProfile) (standard.dispatch ctx command) := by
  rw [dispatch_withProfile hsite command ⟨"", ""⟩]
  exact fails_dispatch_of_profile rfl command

/-- A command that is not supported is no profile that is missed. -/
theorem resolve_ne_missingProfile {α : Type} (r : Registry α) (site : Site) (verb : Verb) :
    r.resolve site verb ≠ .error .missingProfile := by
  rw [resolve]
  split <;> simp

end Registry

/-! ### Configurations that are made -/

namespace CommandLine.Options

open GeoBench.Cloud

/-- The directory that all files are **under**, seen from the working directory. -/
def baseIn (o : Options) (cwd : Place) : Path :=
  o.baseDir?.getD (placePath cwd)

/-- The configuration for a target, with the profile that was loaded for it. -/
def configFor (o : Options) (cwd : Place) (site : Site) (profile? : Option Profile) : Config where
  baseDir := o.baseIn cwd
  site
  dryRun := o.dryRun
  readiness := ⟨o.interval, o.budget⟩
  profile?
  format := o.format
  showProgress := !o.noProgress && !o.quiet

/-- How the **making** of a configuration can end. -/
inductive Configures (o : Options) (links : Links) (t : Tree) (cwd : Place) :
    Except ConfigFault Config → Prop
  | ambiguous (htarget : o.localTarget = o.cloudTarget) :
      Configures o links t cwd (.error .ambiguousTarget)
  | localhost (htarget : o.target = .ok .localhost) :
      Configures o links t cwd (.ok (o.configFor cwd .localhost none))
  | cloud (htarget : o.target = .ok .cloud) (p : Profile)
      (hload : Profile.Loads links t cwd (o.baseIn cwd) (.ok p)) :
      Configures o links t cwd (.ok (o.configFor cwd .cloud (some p)))
  | noProfile (htarget : o.target = .ok .cloud) (fault : ConfigFault)
      (hload : Profile.Loads links t cwd (o.baseIn cwd) (.error fault)) :
      Configures o links t cwd (.error fault)

variable {o : Options}

/-- A target that is not clear is the fault of the options. -/
theorem target_eq_error_iff {fault : ConfigFault} :
    o.target = .error fault ↔ o.localTarget = o.cloudTarget ∧ fault = .ambiguousTarget := by
  rw [target]
  cases o.localTarget <;> cases o.cloudTarget <;> simp [eq_comm]

/-- Options without a clear target make nothing: **nothing else is looked at**. -/
theorem configure_of_ambiguous (h : o.localTarget = o.cloudTarget) :
    (o.configure : Session σ ConfigFault Config) = throw .ambiguousTarget := by
  rw [configure, target_eq_error_iff.mpr ⟨h, rfl⟩]
  rfl

/-- On this computer nothing but the working directory is looked at. -/
theorem run_configure_of_localhost (h : o.target = .ok .localhost) (w : World σ) :
    o.configure.run w = (.ok (o.configFor w.around.cwd .localhost none), w) := by
  rw [configure, h]
  rfl

/-- **A configuration** is made without a change of anything. -/
theorem run_configure (o : Options) (w : World σ) :
    ∃ result, o.configure.run w = (result, w) ∧
      o.Configures w.links w.tree w.around.cwd result := by
  cases htarget : o.target with
  | error fault =>
      have hequal := (target_eq_error_iff.mp htarget).1
      rw [configure_of_ambiguous hequal]
      exact ⟨_, rfl, .ambiguous hequal⟩
  | ok site =>
      cases site with
      | localhost => exact ⟨_, run_configure_of_localhost htarget w, .localhost htarget⟩
      | cloud =>
          obtain ⟨result, hload, hloads⟩ := Profile.run_load (o.baseIn w.around.cwd) w
          have hrun : o.configure.run w =
              (Profile.load (o.baseIn w.around.cwd) >>= fun p =>
                pure (o.configFor w.around.cwd .cloud (some p))).run w := by
            rw [configure, htarget]
            rfl
          rw [hrun]
          cases result with
          | error fault =>
              exact ⟨_, Session.run_bind_of_error hload _, .noProfile htarget fault hloads⟩
          | ok p => exact ⟨_, Session.run_bind_of_ok hload _, .cloud htarget p hloads⟩

namespace Configures

variable {links : Links} {t : Tree} {cwd : Place}

/-- The target is the only thing that is ambiguous. -/
theorem ambiguous_iff {result : Except ConfigFault Config} (h : o.Configures links t cwd result) :
    result = .error .ambiguousTarget ↔ o.localTarget = o.cloudTarget := by
  have hclear : ∀ site, o.target = .ok site → o.localTarget ≠ o.cloudTarget :=
    fun site hsite => (target_eq_ok_iff o).mp ⟨site, hsite⟩
  cases h with
  | ambiguous htarget => exact iff_of_true rfl htarget
  | localhost htarget | cloud htarget => exact iff_of_false nofun (hclear _ htarget)
  | noProfile htarget fault hload =>
      refine iff_of_false ?_ (hclear _ htarget)
      cases hload <;> nofun

/-- Configuring never ends for want of a profile. -/
theorem ne_missingProfile (h : o.Configures links t cwd (.error .missingProfile)) : False := by
  cases h with
  | noProfile _ _ hload => cases hload

/-- **A configuration has a profile** exactly for the cloud target, and then it is the one that is
available under the base directory. -/
theorem profile {c : Config} (h : o.Configures links t cwd (.ok c)) :
    o.target = .ok c.site ∧ (c.profile?.isSome ↔ c.site = .cloud) ∧
      ∀ p, c.profile? = some p → Profile.Available links t cwd c.baseDir p := by
  cases h with
  | localhost htarget => exact ⟨htarget, by simp [configFor], nofun⟩
  | cloud htarget p hload =>
      refine ⟨htarget, by simp [configFor], ?_⟩
      intro q hq
      obtain rfl : p = q := Option.some.inj hq
      exact hload.available

/-- A profile that is available is loaded for the cloud target. -/
theorem eq_ok {result : Except ConfigFault Config} (h : o.Configures links t cwd result)
    (htarget : o.target = .ok .cloud) {p : Profile}
    (hp : Profile.Available links t cwd (o.baseIn cwd) p) :
    result = .ok (o.configFor cwd .cloud (some p)) := by
  cases h with
  | ambiguous hequal => exact absurd hequal ((target_eq_ok_iff o).mp ⟨_, htarget⟩)
  | localhost hlocal => cases htarget.symm.trans hlocal
  | cloud _ q hload => rw [Except.ok.inj (hload.eq_ok hp)]
  | noProfile _ fault hload => cases hload.eq_ok hp

/-- With such a configuration **no command misses its profile**. -/
theorem fails_dispatch {c : Config} (h : o.Configures links t cwd (.ok c)) (runner : Runner σ)
    (pacer : Pacer) (command : Command) :
    Fails (· ≠ .config .missingProfile)
      (Registry.standard.dispatch (⟨c, runner, pacer⟩ : Context σ) command) := by
  cases h with
  | localhost => exact Registry.fails_dispatch_of_localhost rfl command
  | cloud _ p => exact Registry.fails_dispatch_of_profile (p := p) rfl command

end Configures

end CommandLine.Options

/-! ### Runs -/

/-- A run that fails because it has **no profile**, wherever it looks for one. -/
def RunFault.MissesProfile : RunFault → Prop
  | .configuration cause | .unsupported cause => cause = .missingProfile
  | .command cause => cause = .config .missingProfile

namespace Manager

open GeoBench.CommandLine

/-- What a command does is all that it can miss its profile in. -/
theorem fails_perform {ctx : Context σ} {command : Command}
    (h : Fails (· ≠ .config .missingProfile) (Registry.standard.dispatch ctx command)) :
    Fails (fun fault => ¬ fault.MissesProfile) (perform ctx command) := by
  have hresolve : Fails (· ≠ ConfigFault.missingProfile) (Session.ofExcept
      (Registry.standard.resolve ctx.config.site command.verb) : Session σ _ Procedure) := by
    refine .ofExcept ?_
    rintro _ hfault rfl
    exact Registry.resolve_ne_missingProfile _ _ _ hfault
  exact .bind (.withFault hresolve fun _ hne => hne) (.any _) fun _ _ =>
    .bind (.log _ _) (.any _) fun _ _ =>
    .bind (.withFault h fun _ hne => hne) (.any _) fun _ _ => .log _ _

/-- **No run misses its profile.** -/
theorem fails_run (runner : Runner σ) (pacer : Pacer) (arguments : Arguments) :
    Fails (fun fault => ¬ fault.MissesProfile) (run runner pacer arguments) := by
  have hfails : Fails (· ≠ ConfigFault.missingProfile)
      (arguments.options.configure : Session σ _ Config) := by
    rintro w _ v hrun rfl
    obtain ⟨result, hconfigure, hconfigures⟩ := arguments.options.run_configure w
    obtain rfl := (Prod.mk.inj (hconfigure.symm.trans hrun)).1
    exact hconfigures.ne_missingProfile
  have hgives : Gives (fun c => ∃ links t cwd, arguments.options.Configures links t cwd (.ok c))
      (arguments.options.configure : Session σ _ Config) := by
    intro w c v hrun
    obtain ⟨result, hconfigure, hconfigures⟩ := arguments.options.run_configure w
    obtain rfl := (Prod.mk.inj (hconfigure.symm.trans hrun)).1
    exact ⟨_, _, _, hconfigures⟩
  refine .bind (.withFault hfails fun _ hne => hne) (.withFault hgives) fun c hc =>
    .bind (.log _ _) (.any _) fun _ _ => fails_perform ?_
  obtain ⟨links, t, cwd, hconfigures⟩ := hc
  exact hconfigures.fails_dispatch _ _ _

end Manager

namespace CommandLine.Options

/-- **Which configurations have a profile**, and what that rules out. Options that do not ask for
exactly one target are refused before anything is looked at, and with a directory named, those for
this computer make the same configuration in every world. Nothing is changed, whatever is made. A
configuration has a profile exactly for the cloud target, the one that is available under its base
directory, and no command that is dispatched with such a configuration misses its profile, however
its calls are answered; so no run of the manager does. -/
theorem profile_iff_cloud (o : Options) :
    (o.localTarget = o.cloudTarget →
      (o.configure : Session σ ConfigFault Config) = throw .ambiguousTarget) ∧
    (∀ base, o.target = .ok .localhost → o.baseDir? = some base →
      ∃ c, ∀ w : World σ, o.configure.run w = (.ok c, w)) ∧
    ∀ w : World σ, ∃ result, o.configure.run w = (result, w) ∧
      (result = .error .ambiguousTarget ↔ o.localTarget = o.cloudTarget) ∧
      (∀ p, o.target = .ok .cloud →
        Cloud.Profile.Available w.links w.tree w.around.cwd (o.baseIn w.around.cwd) p →
        ∃ c, result = .ok c ∧ c.profile? = some p) ∧
      (∀ c, result = .ok c →
        o.target = .ok c.site ∧ (c.profile?.isSome ↔ c.site = .cloud) ∧
        (∀ p, c.profile? = some p →
          Cloud.Profile.Available w.links w.tree w.around.cwd c.baseDir p) ∧
        ∀ (runner : Runner σ) pacer command u,
          ((Registry.standard.dispatch ⟨c, runner, pacer⟩ command).run u).1 ≠
            .error (.config .missingProfile)) ∧
      ∀ (runner : Runner σ) pacer command fault,
        ((Manager.run runner pacer ⟨command, o⟩).run w).1 = .error fault →
          ¬ fault.MissesProfile := by
  refine ⟨configure_of_ambiguous, ?_, fun w => ?_⟩
  · intro base htarget hbase
    refine ⟨o.configFor [] .localhost none, fun w => ?_⟩
    rw [run_configure_of_localhost htarget, configFor, configFor, baseIn, baseIn, hbase]
    rfl
  · obtain ⟨result, hrun, hconfigures⟩ := o.run_configure w
    refine ⟨result, hrun, hconfigures.ambiguous_iff, ?_, ?_, ?_⟩
    · exact fun p htarget hp => ⟨_, hconfigures.eq_ok htarget hp, rfl⟩
    · rintro c rfl
      obtain ⟨hsite, hsome, havailable⟩ := hconfigures.profile
      refine ⟨hsite, hsome, havailable, fun runner pacer command u hmissing => ?_⟩
      exact hconfigures.fails_dispatch runner pacer command u _ _ (Prod.ext hmissing rfl) rfl
    · intro runner pacer command fault hfault
      exact Manager.fails_run runner pacer ⟨command, o⟩ w fault _ (Prod.ext hfault rfl)

end CommandLine.Options

end GeoBench
