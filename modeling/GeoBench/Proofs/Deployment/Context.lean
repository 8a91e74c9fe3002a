import GeoBench.Deployment.Context
import GeoBench.Proofs.Machine.Confined

/-!
# The calls of a command

A command makes most of its calls in the foreground, where only their failure matters. The address
of a machine is looked up by a call for its output, or by none if it is known without.

## Words

What a call says is told word by word: `AsksAddress` spells the program and the arguments of a
lookup, with the name and the zone of the machine and the project of the profile. That the lookups
are made of these words, and of no others, is one lemma (`asksAddress_iff`), and later statements
are about the words.

## Main results

* `Context.run_run` — a call in the foreground is recorded, and gives its failure.
* `Context.passage_run` — what it finds and leaves.
* `Context.looked_hostOf` — the call of a lookup, in whichever way it ends.
-/

namespace GeoBench.Deployment

open GeoBench.Machine GeoBench.Cloud

/-! ### Calls in the foreground -/

/-- What a command makes of a call in the **foreground**. -/
def foreground (x : Exchange) : Except CommandFault Unit :=
  match x.reply with
  | .ok _ => .ok ()
  | .error e => .error (.call e)

/-- A call that was answered is a success. -/
theorem foreground_of_ok {x : Exchange} {text : String} (h : x.reply = .ok text) :
    foreground x = .ok () := by
  rw [foreground, h]

/-- A call that failed is a failure for that. -/
theorem foreground_of_error {x : Exchange} {e : CallFault} (h : x.reply = .error e) :
    foreground x = .error (.call e) := by
  rw [foreground, h]

/-- A call is a success exactly if it was answered. -/
theorem foreground_eq_ok_iff {x : Exchange} : foreground x = .ok () ↔ x.succeeded := by
  constructor
  · intro h
    cases hreply : x.reply with
    | ok text => exact ⟨text, hreply⟩
    | error e =>
        rw [foreground_of_error hreply] at h
        cases h
  · rintro ⟨text, hreply⟩
    exact foreground_of_ok hreply

/-- A call in the foreground is recorded behind what came out meanwhile, and gives its failure. -/
theorem Context.run_run {σ : Type} (ctx : Context σ) (i : Invocation) (w : World σ) :
    ∃ (x : Exchange) (u : World σ) (said : List Utterance),
      (ctx.run i).run w = (foreground x, u) ∧ x.mode = .run ∧ x.invocation = i ∧
      u.events = w.events ++ (said.map .said ++ [.called x]) := by
  obtain ⟨said, hevents⟩ := Session.events_afterCall ctx.runner .run i w
  refine ⟨Session.exchangeOf ctx.runner .run i w, _, said, ?_, rfl, rfl, hevents⟩
  rw [run, Session.run_bind, Session.run_withFault, Session.run_perform, foreground]
  cases (Session.exchangeOf ctx.runner .run i w).reply <;> rfl

/-- A call in the foreground is a passage with one exchange. -/
theorem Context.passage_run {σ : Type} (ctx : Context σ) (apart : Set Path) (i : Invocation)
    (w : World σ) :
    ∃ (x : Exchange) (u : World σ), (ctx.run i).run w = (foreground x, u) ∧
      Passage apart w [x] u ∧ x.mode = .run ∧ x.invocation = i ∧ x.found = w.tree ∧
      x.left = u.tree := by
  obtain ⟨x, u, hcall, hpassage⟩ :=
    Passage.exists_call apart CommandFault.call ctx.runner .run i w
  refine ⟨x, u, ?_, hpassage⟩
  rw [run, Session.run_bind, hcall, foreground]
  cases x.reply <;> rfl

/-- A call in the foreground that gave no failure succeeded. -/
theorem Context.run_ok {σ : Type} (ctx : Context σ) (apart : Set Path) {i : Invocation}
    {w v : World σ} (h : (ctx.run i).run w = (.ok (), v)) :
    ∃ x, Passage apart w [x] v ∧ x.mode = .run ∧ x.invocation = i ∧ x.succeeded ∧
      x.found = w.tree := by
  obtain ⟨x, u, hrun, hpassage, hmode, hx, hfound, -⟩ := ctx.passage_run apart i w
  obtain ⟨hforeground, rfl⟩ := Prod.mk.inj (hrun.symm.trans h)
  exact ⟨x, hpassage, hmode, hx, foreground_eq_ok_iff.mp hforeground, hfound⟩

/-! ### Lookups -/

/-- The address that is **told** in a lookup: the first line of the answer that is more than blanks,
without the blanks around it. -/
def toldHost? (x : Exchange) : Option String :=
  match x.reply with
  | .ok answer => ((Text.lines answer).map Text.trim).find? (· ≠ "")
  | .error _ => none

/-- What is told in a lookup is what is made of its answer. -/
theorem toldHost?_of_ok {x : Exchange} {answer : String} (h : x.reply = .ok answer) :
    toldHost? x = Context.firstLine? answer := by
  rw [toldHost?, h]
  rfl

/-- A call that **asks for the address** of a machine, word by word: by the name and the zone of the
machine, in the project of a profile. -/
structure AsksAddress (p : Profile) (i : Instance) (call : Invocation) : Prop where
  program : call.program = "gcloud"
  arguments : call.arguments = ["compute", "instances", "describe", i.name, "--zone", i.zone,
    "--project", p.projectId, "--format=get(networkInterfaces[0].accessConfigs[0].natIP)"]
  environment : call.environment = []
  directory : call.directory? = none

/-- These are the words of a lookup, and no others. -/
theorem asksAddress_iff {p : Profile} {i : Instance} {call : Invocation} :
    AsksAddress p i call ↔ call = Context.describeCall p i := by
  constructor
  · rintro ⟨hprogram, harguments, henvironment, hdirectory⟩
    obtain ⟨program, arguments, environment, directory?⟩ := call
    obtain rfl : program = "gcloud" := hprogram
    obtain rfl := harguments
    obtain rfl : environment = [] := henvironment
    obtain rfl : directory? = none := hdirectory
    rfl
  · rintro rfl
    exact ⟨rfl, rfl, rfl, rfl⟩

namespace Context

variable {σ : Type} (ctx : Context σ)

/-- A lookup is no playbook. -/
theorem describeCall_ne_playbook (p : Profile) (i : Instance) (name : String) :
    describeCall p i ≠ ctx.playbook name := by
  intro h
  exact absurd (congrArg Invocation.program h) (show "gcloud" ≠ "ansible-playbook" by decide)

/-- How the address of a machine is **looked up**, with the calls for it and how that ends. -/
inductive Looked (i : Instance) (w u : World σ) (result : Except CommandFault String) :
    List Exchange → Prop
  /-- The machine is not asked for: the run is dry, or fails. -/
  | unasked
      (hdry : ∀ host, result = .ok host → ctx.config.dryRun = true ∧ host = "<" ++ i.name ++ ">")
      (htree : u.tree = w.tree) (hpassage : Passage ∅ w [] u) : Looked i w u result []
  /-- The machine is asked for, and what is told is its address. -/
  | asked (p : Profile) (x : Exchange) (hdry : ctx.config.dryRun = false)
      (hprofile : ctx.config.profile? = some p) (hmode : x.mode = .output)
      (hx : x.invocation = describeCall p i) (hfound : x.found = w.tree)
      (hleft : x.left = u.tree) (hhost : ∀ host, result = .ok host → toldHost? x = some host)
      (hpassage : Passage ∅ w [x] u) : Looked i w u result [x]

/-- **A lookup** is one call or none, and changes nothing itself. -/
theorem looked_hostOf (i : Instance) (w : World σ) :
    ∃ result u xs, (ctx.hostOf i).run w = (result, u) ∧ ctx.Looked i w u result xs := by
  rw [hostOf]
  split
  next hdry =>
    refine ⟨_, w, [], rfl, .unasked ?_ rfl (.refl ∅ w)⟩
    exact fun host hhost => ⟨hdry, (Except.ok.inj hhost).symm⟩
  next hdry =>
    have hdry := Bool.eq_false_iff.mpr hdry
    have hprofile : ctx.profile.run w = (ctx.config.requireProfile.mapError .config, w) := rfl
    cases hrequire : ctx.config.requireProfile with
    | error fault =>
        rw [hrequire] at hprofile
        exact ⟨_, w, [], Session.run_bind_of_error hprofile _,
          .unasked (fun _ hhost => by cases hhost) rfl (.refl ∅ w)⟩
    | ok p =>
        rw [hrequire] at hprofile
        have hprofile? := (Config.requireProfile_eq_ok_iff _ _).mp hrequire
        obtain ⟨x, u, hcall, hpassage, hmode, hx, hfound, hleft⟩ :=
          Passage.exists_call ∅ CommandFault.call ctx.runner .output (describeCall p i) w
        rw [Session.run_bind_of_ok hprofile, publicHost, output]
        cases hreply : x.reply with
        | error e =>
            rw [hreply] at hcall
            exact ⟨_, u, [x], Session.run_bind_of_error hcall _,
              .asked p x hdry hprofile? hmode hx hfound hleft (fun _ hhost => by cases hhost)
                hpassage⟩
        | ok answer =>
            have htold := toldHost?_of_ok hreply
            rw [hreply] at hcall
            rw [Session.run_bind_of_ok hcall]
            split
            next host hhost =>
              refine ⟨_, _, [x], Session.run_bind_of_ok (Session.run_log _ _ u) _,
                .asked p x hdry hprofile? hmode hx hfound hleft ?_
                  (hpassage.trans (.note ∅ u rfl))⟩
              rintro _ hresult
              rw [htold, hhost, Except.ok.inj hresult]
            next =>
              exact ⟨_, u, [x], rfl,
                .asked p x hdry hprofile? hmode hx hfound hleft (fun _ hhost => by cases hhost)
                hpassage⟩

variable {ctx}

/-- Nothing is touched by a lookup. -/
theorem Looked.passage {i : Instance} {w u : World σ} {xs : List Exchange}
    {result : Except CommandFault String} (h : ctx.Looked i w u result xs) :
    Passage ∅ w xs u := by
  cases h with
  | unasked _ _ hpassage => exact hpassage
  | asked _ _ _ _ _ _ _ _ _ hpassage => exact hpassage

/-- All that is called is a lookup of the machine. -/
theorem Looked.exists_describeCall {i : Instance} {w u : World σ} {xs : List Exchange}
    {result : Except CommandFault String} (h : ctx.Looked i w u result xs) {x : Exchange}
    (hx : x ∈ xs) : ∃ p, x.invocation = describeCall p i := by
  cases h with
  | unasked => cases hx
  | asked p y _ _ _ hy => exact ⟨p, List.mem_singleton.mp hx ▸ hy⟩

end Context

end GeoBench.Deployment
