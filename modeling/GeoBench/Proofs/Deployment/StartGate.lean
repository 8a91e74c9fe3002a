import GeoBench.Deployment.Procedures
import GeoBench.Proofs.Deployment.Context
import GeoBench.Proofs.Readiness.GateTrace

/-!
# The gate before the application

The application is started behind a gate: the playbook of the datastores comes first, then the
listing of the services is asked for until it tells the right count, and only then the application's
playbook is run. A restart puts two more playbooks in front.

A run is described in three steps. Playbooks that are run one after the other stop at the first one
that fails (`Played`, by induction on the playbooks); a gate that is waited for asks for its status
until it is passed, fails or times out (`Gate.Watched`); and a whole start is one behind the other
(`Gated`). What the gate guarantees is read off these.

## What passing a gate means

The count of a listing has to be the target **exactly**: a listing that tells more services than
there should be does not pass the gate either. All earlier listings told another count, and none of
them failed, since a listing that fails ends the start. So the application's playbook is run in one
case only, and then the call in front of it told the count.

The calls are told apart by their words. That the gate's listing is no playbook and that the two
playbooks differ has to be proved before a call in a list of calls can be recognised.

## Main results

* `Context.run_gated` — the calls of a start behind any playbooks, and how it ends.
* `Context.Gated.startGated` — what that guarantees.
* `Context.application_gated` — the guarantees for every start and every restart.
-/

namespace GeoBench.Deployment

open GeoBench.Machine GeoBench.Readiness

/-- The playbook that starts the datastores. -/
abbrev storesBook : String := "start-datastores.yml"

/-- The playbook that starts the application. -/
abbrev appBook : String := "start-app.yml"

namespace Context

variable {σ : Type} (ctx : Context σ)

/-! ### Playbooks one after the other -/

/-- Exchanges that are the calls of some **playbooks**, in order. -/
def Plays (names : List String) (xs : List Exchange) : Prop :=
  xs.map (fun x => (x.mode, x.invocation)) = names.map fun name => (Mode.run, ctx.playbook name)

/-- The calls of playbooks that are run one after the other, and how that ends. -/
inductive Played (names : List String) (xs : List Exchange) : Except CommandFault Unit → Prop
  /-- All of them succeeded. -/
  | all (hplays : ctx.Plays names xs) (hok : ∀ x ∈ xs, x.succeeded) : Played names xs (.ok ())
  /-- The last one that was run failed. -/
  | cut (played rest : List String) (done : List Exchange) (x : Exchange) (e : CallFault)
      (hnames : names = played ++ rest) (hcalls : xs = done ++ [x])
      (hplays : ctx.Plays played xs) (hdone : ∀ y ∈ done, y.succeeded)
      (hreply : x.reply = .error e) :
      Played names xs (.error (.call e))

variable {ctx}

/-- The calls of playbooks are calls of those playbooks. -/
theorem Plays.exists_name {names : List String} {xs : List Exchange} (h : ctx.Plays names xs)
    {x : Exchange} (hx : x ∈ xs) :
    ∃ name ∈ names, x.mode = .run ∧ x.invocation = ctx.playbook name := by
  obtain ⟨name, hname, heq⟩ := exists_mem_of_map_eq_map h hx
  obtain ⟨hmode, hcall⟩ := Prod.mk.inj heq
  exact ⟨name, hname, hmode.symm, hcall.symm⟩

/-- One more playbook in front of the others. -/
theorem Plays.cons {name : String} {names : List String} {x : Exchange} {xs : List Exchange}
    (hmode : x.mode = .run) (hcall : x.invocation = ctx.playbook name) (h : ctx.Plays names xs) :
    ctx.Plays (name :: names) (x :: xs) := by
  rw [Plays, List.map_cons, List.map_cons, hmode, hcall, show _ = _ from h]

/-- A playbook that succeeded in front of the others. -/
theorem Played.cons {name : String} {names : List String} {x : Exchange} {xs : List Exchange}
    {result : Except CommandFault Unit} (hmode : x.mode = .run)
    (hcall : x.invocation = ctx.playbook name) (hx : x.succeeded) (h : ctx.Played names xs result) :
    ctx.Played (name :: names) (x :: xs) result := by
  have hall : ∀ {ys : List Exchange}, (∀ y ∈ ys, y.succeeded) → ∀ y ∈ x :: ys, y.succeeded := by
    intro ys hys y hy
    rcases List.mem_cons.mp hy with rfl | hy
    · exact hx
    · exact hys y hy
  cases h with
  | all hplays hok => exact .all (hplays.cons hmode hcall) (hall hok)
  | cut played rest done y e hnames hcalls hplays hdone hreply =>
      exact .cut (name :: played) rest (x :: done) y e (by rw [hnames, List.cons_append])
        (by rw [hcalls, List.cons_append]) (hplays.cons hmode hcall) (hall hdone) hreply

variable (ctx)

/-- **Playbooks one after the other** stop at the first one that fails. -/
theorem run_playbooks (names : List String) (w : World σ) :
    ∃ result v new, (names.forM fun name => ctx.run (ctx.playbook name)).run w = (result, v) ∧
      v.events = w.events ++ new ∧ ctx.Played names (calls new) result := by
  induction names generalizing w with
  | nil => exact ⟨.ok (), w, [], rfl, (List.append_nil _).symm, .all rfl nofun⟩
  | cons name names ih =>
      obtain ⟨x, u, said, hrun, hmode, hcall, hevents⟩ := ctx.run_run (ctx.playbook name) w
      have hx := calls_map_said_called said x
      cases hreply : x.reply with
      | error e =>
          rw [foreground_of_error hreply] at hrun
          refine ⟨_, u, _, Session.run_bind_of_error hrun _, hevents, ?_⟩
          rw [hx]
          exact .cut [name] names [] x e rfl rfl (Plays.cons hmode hcall rfl) nofun hreply
      | ok text =>
          rw [foreground_of_ok hreply] at hrun
          obtain ⟨result, v, new, hrest, hnew, hplayed⟩ := ih u
          refine ⟨result, v, said.map .said ++ [.called x] ++ new,
            (Session.run_bind_of_ok hrun _).trans hrest, ?_, ?_⟩
          · rw [hnew, hevents, List.append_assoc]
          · rw [calls_append, hx, List.singleton_append]
            exact hplayed.cons hmode hcall ⟨text, hreply⟩

/-! ### Playbooks, a gate, and the application -/

/-- The checks that the gate of the services may make, and how it ends. -/
abbrev ServicesWatched (statuses : List Exchange) (result : Except PollFault Outcome) : Prop :=
  (servicesGate ctx.config).Watched ctx.config.readiness.checks ctx.config.readiness.budget
    statuses result

/-- The calls of a **start** behind some other playbooks, and how it ends. -/
inductive Gated (stopping : List String) (cs : List Exchange) : Except CommandFault Unit → Prop
  /-- One of the playbooks before the gate failed. -/
  | cut (played rest : List String) (done : List Exchange) (x : Exchange) (e : CallFault)
      (hnames : stopping ++ [storesBook] = played ++ rest) (hcalls : cs = done ++ [x])
      (hplays : ctx.Plays played cs) (hdone : ∀ y ∈ done, y.succeeded)
      (hreply : x.reply = .error e) :
      Gated stopping cs (.error (.call e))
  /-- The gate stayed closed. -/
  | closed (books statuses : List Exchange) (fault : PollFault) (hcalls : cs = books ++ statuses)
      (hplays : ctx.Plays (stopping ++ [storesBook]) books) (hok : ∀ y ∈ books, y.succeeded)
      (hgate : ctx.ServicesWatched statuses (.error fault)) :
      Gated stopping cs (.error (.readiness fault))
  /-- The gate was passed, and the application was started. -/
  | passed (books statuses : List Exchange) (x : Exchange) (outcome : Outcome)
      (hcalls : cs = books ++ statuses ++ [x])
      (hplays : ctx.Plays (stopping ++ [storesBook]) books) (hok : ∀ y ∈ books, y.succeeded)
      (hgate : ctx.ServicesWatched statuses (.ok outcome)) (hmode : x.mode = .run)
      (hcall : x.invocation = ctx.playbook appBook) : Gated stopping cs (foreground x)

/-- The gate of the services and the application behind it. -/
def startBehindGate : Session σ CommandFault Unit := do
  let _ ← ctx.awaitGate (servicesGate ctx.config)
  ctx.run (ctx.playbook appBook)

/-- A start is the playbook of the datastores in front of the gate. -/
theorem start_eq : ctx.start =
    ([storesBook].forM (fun name => ctx.run (ctx.playbook name)) >>= fun _ =>
      ctx.startBehindGate) := by
  simp [start, startBehindGate, List.forM]

/-- A restart is three playbooks in front of the gate. -/
theorem restart_eq : ctx.restart =
    (["stop-datastores.yml", "stop-app.yml", storesBook].forM
      (fun name => ctx.run (ctx.playbook name)) >>= fun _ => ctx.startBehindGate) := by
  simp [restart, stop, start, startBehindGate, List.forM]

/-- Outside a dry run a gate is waited for. -/
theorem run_awaitGate (hdry : ctx.config.dryRun = false) (g : Gate) (w : World σ) :
    (ctx.awaitGate g).run w =
      ((((g.await ctx.config.readiness ctx.pacer ctx.runner).run w).1.mapError .readiness),
        ((g.await ctx.config.readiness ctx.pacer ctx.runner).run w).2) := by
  rw [awaitGate, hdry]
  rfl

/-- **A start behind some other playbooks**: each step begins only when the one before it
succeeded. -/
theorem run_gated (hdry : ctx.config.dryRun = false) (stopping : List String) (w : World σ) :
    ∃ result v new,
      ((stopping ++ [storesBook]).forM (fun name => ctx.run (ctx.playbook name)) >>= fun _ =>
        ctx.startBehindGate).run w = (result, v) ∧
      v.events = w.events ++ new ∧ ctx.Gated stopping (calls new) result := by
  obtain ⟨result, u, books, hbooks, hevents, hplayed⟩ :=
    ctx.run_playbooks (stopping ++ [storesBook]) w
  cases hplayed with
  | cut played rest done x e hnames hcalls hplays hdone hreply =>
      exact ⟨_, u, books, Session.run_bind_of_error hbooks _, hevents,
        .cut played rest done x e hnames hcalls hplays hdone hreply⟩
  | all hplays hok =>
      obtain ⟨gate, u', statuses, hawait, hmore, hwatched⟩ :=
        (servicesGate ctx.config).watched_await ctx.config.readiness ctx.pacer ctx.runner u
      have hgate := ctx.run_awaitGate hdry (servicesGate ctx.config) u
      rw [hawait] at hgate
      rcases gate with fault | outcome
      · refine ⟨_, u', books ++ statuses, (Session.run_bind_of_ok hbooks _).trans
          (Session.run_bind_of_error hgate _), by rw [hmore, hevents, List.append_assoc], ?_⟩
        rw [calls_append]
        exact .closed _ _ fault rfl hplays hok hwatched
      · obtain ⟨x, v, said, happ, hmode, hcall, hlast⟩ := ctx.run_run (ctx.playbook appBook) u'
        refine ⟨foreground x, v, books ++ statuses ++ (said.map .said ++ [.called x]),
          (Session.run_bind_of_ok hbooks _).trans ((Session.run_bind_of_ok hgate _).trans happ),
          ?_, ?_⟩
        · rw [hlast, hmore, hevents, List.append_assoc, List.append_assoc, List.append_assoc]
        · rw [calls_append, calls_append, calls_map_said_called]
          exact .passed _ _ x outcome rfl hplays hok hwatched hmode hcall

/-! ### Which call is which

A call in the record is told from others by its words, so the playbooks have to be different calls,
and none of them may be taken for a listing. -/

/-- Two playbooks with relative names are different calls. -/
theorem playbook_ne {a b : String} (hne : a ≠ b) (ha : Path.isAbsolute ⟨a⟩ = false)
    (hb : Path.isAbsolute ⟨b⟩ = false) : ctx.playbook a ≠ ctx.playbook b := by
  intro h
  have harguments := congrArg Invocation.arguments h
  have hpath : ((ctx.config.path "deploy/ansible/playbooks").sub a).text =
      ((ctx.config.path "deploy/ansible/playbooks").sub b).text := (List.cons.inj harguments).1
  rw [Path.sub, Path.sub, Path.join, Path.join, ha, hb] at hpath
  exact hne ((String.append_right_inj _).mp hpath)

/-- The playbook for the datastores is not the one for the application. -/
theorem storesBook_ne_appBook : ctx.playbook storesBook ≠ ctx.playbook appBook :=
  ctx.playbook_ne (by decide) (by decide) (by decide)

/-- An exchange in which the **listing of the services** is told, with some count of lines that say
that all is up. -/
def TellsServices (n : Nat) (x : Exchange) : Prop :=
  x.mode = .output ∧
    x.invocation = ctx.config.layout.storeManager.remote "sudo docker service ls" ∧
    ∃ text, x.reply = .ok text ∧ countMatching text "1/1" = n

/-- The gate of the services counts what the listing of the services tells. -/
theorem counts_iff {n : Nat} {x : Exchange} :
    (servicesGate ctx.config).Counts n x ↔ ctx.TellsServices n x :=
  ⟨fun ⟨⟨hmode, hcall⟩, htext⟩ => ⟨hmode, hcall, htext⟩,
    fun ⟨hmode, hcall, htext⟩ => ⟨⟨hmode, hcall⟩, htext⟩⟩

/-- What is asked for its output is no playbook. -/
theorem ne_playbook_of_asks {x : Exchange} (h : (servicesGate ctx.config).Asks x) (name : String) :
    x.invocation ≠ ctx.playbook name := by
  intro heq
  have hprogram := congrArg Invocation.program (h.2.symm.trans heq)
  exact absurd hprogram (show "gcloud" ≠ "ansible-playbook" by decide)

/-! ### The gate -/

/-- What the **gate before the application** guarantees about the calls of a start behind some
playbooks, and about how it ends. -/
structure StartGated (stopping : List String) (cs : List Exchange)
    (result : Except CommandFault Unit) : Prop where
  /-- The application is started at most once. -/
  once : (cs.filter fun x => x.invocation = ctx.playbook appBook).length ≤ 1
  /-- If it is started, that is the last call. The other playbooks and then that of the datastores
  succeeded before, and then the listing of the services was asked for until it told the right
  count, which it did in the call right before. -/
  opened : ∀ before x after, cs = before ++ x :: after → x.invocation = ctx.playbook appBook →
    after = [] ∧ ∃ books missed status, before = books ++ (missed ++ [status]) ∧
      ctx.Plays (stopping ++ [storesBook]) books ∧ (∀ y ∈ books, y.succeeded) ∧
      (∀ y ∈ missed, ∃ n, ctx.TellsServices n y ∧ n ≠ ctx.config.swarmServices) ∧
      ctx.TellsServices ctx.config.swarmServices status
  /-- A call that fails gives its fault to the command, and if it is not the start of the
  application itself, the application is not started. -/
  failed : ∀ x ∈ cs, ∀ e, x.reply = .error e →
    (x.invocation ≠ ctx.playbook appBook → ∀ y ∈ cs, y.invocation ≠ ctx.playbook appBook) ∧
    result = .error (if x.mode = .output then .readiness (.noStatus .services e) else .call e)
  /-- If one of the other playbooks fails, nothing else is called. -/
  stopFailed : ∀ x ∈ cs, x.invocation ∈ stopping.map ctx.playbook → ¬ x.succeeded →
    ∀ y ∈ cs, y.invocation ∈ stopping.map ctx.playbook
  /-- If no call fails and no listing tells the right count, every check is made, the application is
  not started, and the command fails with the last count. -/
  timedOut : (∀ x ∈ cs, x.succeeded ∧ ¬ ctx.TellsServices ctx.config.swarmServices x) →
    (∀ y ∈ cs, y.invocation ≠ ctx.playbook appBook) ∧
    (cs.filter fun x => x.mode = .output).length = ctx.config.readiness.checks ∧
    ∃ actual last, cs.getLast? = some last ∧ ctx.TellsServices actual last ∧
      result = .error (.readiness (.timeout .services ctx.config.swarmServices actual
        ctx.config.readiness.budget))
  /-- A command that succeeds started the application. -/
  started : result = .ok () →
    ∃ last, cs.getLast? = some last ∧ last.invocation = ctx.playbook appBook ∧ last.succeeded

/-! ### The guarantees

A start ends in front of the gate, at the gate or behind it. The guarantees are shown for each of
the three by itself. -/

section

variable {ctx} {stopping : List String} {cs : List Exchange}

/-- A run in which the application is not started does not start it too often or too early. -/
theorem notStarted (hne : ∀ x ∈ cs, x.invocation ≠ ctx.playbook appBook) :
    (cs.filter fun x => x.invocation = ctx.playbook appBook).length ≤ 1 ∧
      ∀ before x after, cs = before ++ x :: after → x.invocation ≠ ctx.playbook appBook := by
  constructor
  · rw [List.filter_eq_nil_iff.mpr fun x hx => by simpa using hne x hx]
    exact Nat.zero_le _
  · rintro before x after rfl
    exact hne x (List.mem_append_right _ List.mem_cons_self)

/-- Behind some playbooks, the calls for an output are the checks of the gate. -/
theorem filter_output_eq {played : List String} {books statuses : List Exchange}
    {result : Except PollFault Outcome} (hplays : ctx.Plays played books)
    (hgate : ctx.ServicesWatched statuses result) :
    ((books ++ statuses).filter fun x => x.mode = .output) = statuses := by
  rw [List.filter_append, List.filter_eq_nil_iff.mpr, List.nil_append, List.filter_eq_self.mpr]
  · intro x hx
    exact decide_eq_true (hgate.asks x hx).1
  · intro x hx
    obtain ⟨name, -, hmode, -⟩ := hplays.exists_name hx
    rw [hmode]
    decide

variable (hfresh : ∀ name ∈ stopping, ctx.playbook name ≠ ctx.playbook storesBook ∧
  ctx.playbook name ≠ ctx.playbook appBook)

include hfresh

/-- No playbook before the gate is that of the application. -/
theorem Plays.ne_appBook {played rest : List String}
    (hnames : stopping ++ [storesBook] = played ++ rest) (hplays : ctx.Plays played cs) :
    ∀ x ∈ cs, x.invocation ≠ ctx.playbook appBook := by
  intro x hx
  obtain ⟨name, hname, -, hcall⟩ := hplays.exists_name hx
  have hmem : name ∈ stopping ++ [storesBook] := by
    rw [hnames]
    exact List.mem_append_left _ hname
  rw [hcall]
  rcases List.mem_append.mp hmem with hstop | hstores
  · exact (hfresh name hstop).2
  · rw [List.mem_singleton.mp hstores]
    exact ctx.storesBook_ne_appBook

/-- No call before the application is its playbook. -/
theorem ne_appBook_of_watched {books statuses : List Exchange} {result : Except PollFault Outcome}
    (hplays : ctx.Plays (stopping ++ [storesBook]) books)
    (hgate : ctx.ServicesWatched statuses result) :
    ∀ x ∈ books ++ statuses, x.invocation ≠ ctx.playbook appBook := by
  intro x hx
  rcases List.mem_append.mp hx with hx | hx
  · exact Plays.ne_appBook hfresh (List.append_nil _).symm hplays x hx
  · exact ctx.ne_playbook_of_asks (hgate.asks x hx) appBook

/-- If the last of the playbooks that were run is one of the stopping ones, all of them are. -/
theorem Plays.stopping_of_last {played rest : List String} {done : List Exchange} {x : Exchange}
    (hnames : stopping ++ [storesBook] = played ++ rest) (hplays : ctx.Plays played (done ++ [x]))
    (hstop : x.invocation ∈ stopping.map ctx.playbook) :
    ∀ y ∈ done ++ [x], y.invocation ∈ stopping.map ctx.playbook := by
  intro y hy
  rcases List.eq_nil_or_concat rest with rfl | ⟨init, last, rfl⟩
  · -- the last playbook would be that of the datastores
    rw [List.append_nil] at hnames
    have hmap : (done ++ [x]).map (fun x => (x.mode, x.invocation)) =
        (stopping ++ [storesBook]).map fun name => (Mode.run, ctx.playbook name) := by
      rw [hnames]
      exact hplays
    rw [List.map_append, List.map_append] at hmap
    have hstores := (List.append_inj' hmap rfl).2
    obtain ⟨name, hname, heq⟩ := List.mem_map.mp hstop
    have hcall : x.invocation = ctx.playbook storesBook :=
      (Prod.mk.inj (List.cons.inj hstores).1).2
    exact absurd (heq.trans hcall) (hfresh name hname).1
  · have hinit : stopping = played ++ init := by
      rw [List.concat_eq_append, ← List.append_assoc] at hnames
      exact (List.append_inj' hnames rfl).1
    obtain ⟨name, hname, -, hcall⟩ := hplays.exists_name hy
    refine List.mem_map.mpr ⟨name, ?_, hcall.symm⟩
    rw [hinit]
    exact List.mem_append_left _ hname

/-- The guarantees, if a playbook before the gate failed. -/
theorem startGated_of_cut
    {played rest : List String} {done : List Exchange} {x : Exchange} {e : CallFault}
    (hnames : stopping ++ [storesBook] = played ++ rest) (hcalls : cs = done ++ [x])
    (hplays : ctx.Plays played cs) (hdone : ∀ y ∈ done, y.succeeded) (hreply : x.reply = .error e) :
    ctx.StartGated stopping cs (.error (.call e)) := by
  have hne := Plays.ne_appBook hfresh hnames hplays
  have hx : x ∈ cs := by
    rw [hcalls]
    exact List.mem_append_right _ List.mem_cons_self
  have hlast : ∀ y ∈ cs, ¬ y.succeeded → y = x := by
    intro y hy hfailed
    rw [hcalls] at hy
    exact Exchange.eq_last_of_not_succeeded hdone hy hfailed
  obtain ⟨honce, hopened⟩ := notStarted hne
  refine ⟨honce, fun before y after hsplit hy => absurd hy (hopened before y after hsplit),
    ?_, ?_, ?_, nofun⟩
  · intro y hy e' he'
    obtain rfl := hlast y hy (Exchange.not_succeeded_of_error he')
    obtain rfl : e = e' := Except.error.inj (hreply.symm.trans he')
    obtain ⟨name, -, hmode, -⟩ := hplays.exists_name hy
    refine ⟨fun _ => hne, ?_⟩
    rw [hmode, if_neg (by decide)]
  · intro y hy hstop hfailed
    obtain rfl := hlast y hy hfailed
    rw [hcalls] at hplays ⊢
    exact hplays.stopping_of_last hfresh hnames hstop
  · intro hall
    exact absurd (hall x hx).1 (Exchange.not_succeeded_of_error hreply)

/-- The guarantees, if the gate stayed closed. -/
theorem startGated_of_closed
    {books statuses : List Exchange} {fault : PollFault} (hcalls : cs = books ++ statuses)
    (hplays : ctx.Plays (stopping ++ [storesBook]) books) (hok : ∀ y ∈ books, y.succeeded)
    (hgate : ctx.ServicesWatched statuses (.error fault)) :
    ctx.StartGated stopping cs (.error (.readiness fault)) := by
  have hne : ∀ x ∈ cs, x.invocation ≠ ctx.playbook appBook := by
    rw [hcalls]
    exact ne_appBook_of_watched hfresh hplays hgate
  have hstatus : ∀ x ∈ cs, ¬ x.succeeded → x ∈ statuses := by
    intro x hx hfailed
    rw [hcalls] at hx
    rcases List.mem_append.mp hx with hx | hx
    · exact absurd (hok x hx) hfailed
    · exact hx
  obtain ⟨honce, hopened⟩ := notStarted hne
  refine ⟨honce, fun before y after hsplit hy => absurd hy (hopened before y after hsplit),
    ?_, ?_, ?_, nofun⟩
  · intro x hx e he
    have hmem := hstatus x hx (Exchange.not_succeeded_of_error he)
    refine ⟨fun _ => hne, ?_⟩
    rw [(hgate.asks x hmem).1, if_pos rfl, Except.error.inj (hgate.eq_of_error hmem he)]
    rfl
  · intro x hx hstop hfailed
    obtain ⟨name, -, heq⟩ := List.mem_map.mp hstop
    exact absurd heq.symm (ctx.ne_playbook_of_asks (hgate.asks x (hstatus x hx hfailed)) name)
  · intro hall
    refine ⟨hne, ?_⟩
    rw [hcalls, filter_output_eq hplays hgate, ← hcalls]
    cases hgate with
    | failed missed x e hstatuses hmissed hx hreply =>
        refine absurd (hall x ?_).1 (Exchange.not_succeeded_of_error hreply)
        rw [hcalls, hstatuses, ← List.append_assoc]
        exact List.mem_append_right _ List.mem_cons_self
    | timedOut missed x actual hstatuses hmissed hx hactual hchecks =>
        refine ⟨hchecks, actual, x, ?_, ctx.counts_iff.mp hx, rfl⟩
        rw [hcalls, hstatuses, ← List.append_assoc, List.getLast?_concat]

/-- The guarantees, if the gate was passed. -/
theorem startGated_of_passed
    {books statuses : List Exchange} {x : Exchange} {outcome : Outcome}
    (hcalls : cs = books ++ statuses ++ [x])
    (hplays : ctx.Plays (stopping ++ [storesBook]) books) (hok : ∀ y ∈ books, y.succeeded)
    (hgate : ctx.ServicesWatched statuses (.ok outcome)) (hmode : x.mode = .run)
    (hcall : x.invocation = ctx.playbook appBook) :
    ctx.StartGated stopping cs (foreground x) := by
  have hne := ne_appBook_of_watched hfresh hplays hgate
  have hlast : ∀ y ∈ cs, ¬ y.succeeded → y = x := by
    intro y hy hfailed
    rw [hcalls] at hy
    refine Exchange.eq_last_of_not_succeeded (fun z hz => ?_) hy hfailed
    rcases List.mem_append.mp hz with hz | hz
    · exact hok z hz
    · cases hreply : z.reply with
      | ok text => exact ⟨text, hreply⟩
      | error e => cases hgate.eq_of_error hz hreply
  obtain ⟨missed, status, _, hstatuses, hmissed, hright⟩ := hgate
  refine ⟨?_, ?_, ?_, ?_, ?_, ?_⟩
  · rw [hcalls, List.filter_append, List.filter_eq_nil_iff.mpr fun y hy => by simpa using hne y hy,
      List.nil_append]
    exact List.length_filter_le _ [x]
  · intro before y after hsplit hy
    obtain ⟨rfl, rfl, rfl⟩ := eq_last_of_notMem (hcalls.symm.trans hsplit) fun hin => hne y hin hy
    refine ⟨rfl, books, missed, status, by rw [hstatuses], hplays, hok, ?_,
      ctx.counts_iff.mp hright⟩
    intro z hz
    obtain ⟨n, hcounts, hn⟩ := hmissed z hz
    exact ⟨n, ctx.counts_iff.mp hcounts, hn⟩
  · intro y hy e he
    obtain rfl := hlast y hy (Exchange.not_succeeded_of_error he)
    refine ⟨fun hnot => absurd hcall hnot, ?_⟩
    rw [foreground_of_error he, hmode, if_neg (by decide)]
  · intro y hy hstop hfailed
    obtain rfl := hlast y hy hfailed
    obtain ⟨name, hname, heq⟩ := List.mem_map.mp hstop
    exact absurd (heq.trans hcall) (hfresh name hname).2
  · intro hall
    refine absurd (ctx.counts_iff.mp hright) (hall status ?_).2
    rw [hcalls, hstatuses, ← List.append_assoc]
    exact List.mem_append_left _ (List.mem_append_right _ List.mem_cons_self)
  · intro hresult
    exact ⟨x, by rw [hcalls, List.getLast?_concat], hcall, foreground_eq_ok_iff.mp hresult⟩

/-- The gate guarantees the same for whatever playbooks are run before the datastores'. -/
theorem Gated.startGated {result : Except CommandFault Unit} (h : ctx.Gated stopping cs result) :
    ctx.StartGated stopping cs result := by
  cases h with
  | cut played rest done x e hnames hcalls hplays hdone hreply =>
      exact startGated_of_cut hfresh hnames hcalls hplays hdone hreply
  | closed books statuses fault hcalls hplays hok hgate =>
      exact startGated_of_closed hfresh hcalls hplays hok hgate
  | passed books statuses x outcome hcalls hplays hok hgate hmode hcall =>
      exact startGated_of_passed hfresh hcalls hplays hok hgate hmode hcall

end

/-- **The gate before the application** holds in every run of a start and of a restart, whatever the
runner answers and however the budget is set. -/
theorem application_gated (hdry : ctx.config.dryRun = false) (w : World σ) :
    (∃ result v new, ctx.start.run w = (result, v) ∧ v.events = w.events ++ new ∧
      ctx.StartGated [] (calls new) result) ∧
    ∃ result v new, ctx.restart.run w = (result, v) ∧ v.events = w.events ++ new ∧
      ctx.StartGated ["stop-datastores.yml", "stop-app.yml"] (calls new) result := by
  constructor
  · obtain ⟨result, v, new, hrun, hnew, hgated⟩ := ctx.run_gated hdry [] w
    rw [start_eq]
    exact ⟨result, v, new, hrun, hnew,
      Gated.startGated (fun name hname => absurd hname List.not_mem_nil) hgated⟩
  · obtain ⟨result, v, new, hrun, hnew, hgated⟩ :=
      ctx.run_gated hdry ["stop-datastores.yml", "stop-app.yml"] w
    rw [restart_eq]
    refine ⟨result, v, new, hrun, hnew, Gated.startGated ?_ hgated⟩
    intro name hname
    rcases List.mem_cons.mp hname with rfl | hname
    · exact ⟨ctx.playbook_ne (by decide) (by decide) (by decide),
        ctx.playbook_ne (by decide) (by decide) (by decide)⟩
    · rw [List.mem_singleton.mp hname]
      exact ⟨ctx.playbook_ne (by decide) (by decide) (by decide),
        ctx.playbook_ne (by decide) (by decide) (by decide)⟩

/-- A start and a restart in a cluster of one service that is up at the second look. -/
theorem application_gated_scripted :
    let ctx : Context (List Cue) :=
      ⟨{ baseDir := ⟨"bench"⟩, site := .cloud, swarmServices := 1 }, scripted, silentPacer⟩
    let w : World (List Cue) :=
      ⟨⟨[], [], ""⟩, ⟨[]⟩, [⟨"service ls", [.output "web 0/1\n", .output "web 1/1\n"]⟩], [], [], []⟩
    ctx.config.dryRun = false ∧
    (∃ result v new, ctx.start.run w = (result, v) ∧ v.events = w.events ++ new ∧
      ctx.StartGated [] (calls new) result) ∧
    ∃ result v new, ctx.restart.run w = (result, v) ∧ v.events = w.events ++ new ∧
      ctx.StartGated ["stop-datastores.yml", "stop-app.yml"] (calls new) result :=
  ⟨rfl, application_gated _ rfl _⟩

end Context

end GeoBench.Deployment
