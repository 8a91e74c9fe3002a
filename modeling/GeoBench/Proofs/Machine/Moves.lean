import GeoBench.Machine.Runner
import GeoBench.Proofs.Machine.Confined

/-!
# The moves of a session

Everything that a session does to its world is a **move**: a text comes out, time is let pass, a
program is called, or the file tree is asked to change. What one move does is said once, here. A
session is **within** some moves and some faults if every run of it is a list of such moves, and a
run that fails does so with such a fault; the rules follow the way in which sessions are put
together. What a whole run keeps is then what each of its moves keeps, by induction on the list.

A request that is refused is a move all the same, one that leaves the tree as it is, and so is a
write that falls short, which leaves the first bytes of its text. What a move does to the files at
some place is told for worlds without links, as for every other session.

## Two ways to tell what a session does

The moves of a session say what it may do, one kind of move at a time, with the condition for it;
its passage says what it did between its calls, and along which paths
(`GeoBench.Proofs.Machine.Confined`). Moves are used where a statement depends on **which** texts
are written or printed, or where a whole list of possibilities has to be gone through; passages
where files are read again that were written before.

## Gives

What a session gives back may decide which moves follow, as the empty output of a dry run does. A
session `Gives` a kind of value if whatever it gives back is of that kind, and the rule for one part
after another hands it on.

## Main results

* `Within.bind`, `Within.bind_of_gives` — one part after another.
* `Move.onlyCalls_replay` — moves that request nothing of the tree leave all changes to the calls.
* `Within.rel` — what every move keeps, a session keeps.
* `Within.rewrites` — but for the calls, a place is left alone, or gets a text that some move
  writes.
-/

namespace GeoBench.Machine

variable {σ ε ε' α β : Type}

/-! ### Moves -/

/-- A **move**: one thing that a session does to its world. -/
inductive Move where
  | say (u : Utterance)
  | pass (pacer : Pacer) (seconds : Nat) (message : String)
  | call (mode : Mode) (i : Invocation)
  | makeAll (p : Path)
  | write (p : Path) (text : String)
  | copy (source destination : Path)
  | remove (p : Path)

namespace Move

/-- What a move other than a call **notes**. -/
def events : Move → List Event
  | say u => [.said u]
  | pass pacer n message => .waited n message :: (pacer.announce n message).map .said
  | _ => []

/-- The world **after** a move. -/
def after (runner : Runner σ) (w : World σ) : Move → World σ
  | call mode i => Session.afterCall runner mode i w
  | makeAll p => ((Session.makeAll p).run w).2
  | write p text => ((Session.writeText p text).run w).2
  | copy source destination => ((Session.copyFile source destination).run w).2
  | remove p => ((Session.removeDirectory p).run w).2
  | m => w.note m.events

/-- The world after some moves, one after the other. -/
def replay (runner : Runner σ) (ms : List Move) (w : World σ) : World σ :=
  ms.foldl (after runner) w

/-- The places that a move **touches**, other than by a call. -/
def touches (s : Surroundings) : Move → Set Place
  | write p _ => {p.place s.cwd}
  | copy _ destination => {destination.place s.cwd}
  | remove p => {at_ | Place.Below (p.place s.cwd) at_}
  | _ => ∅

/-- A move that asks **nothing of the files**. -/
def IsQuiet : Move → Prop
  | makeAll _ | write _ _ | copy _ _ | remove _ => False
  | _ => True

variable {runner : Runner σ} {w : World σ} {m : Move} {ms ns : List Move}

/-- Moves one after the other. -/
theorem replay_append : replay runner (ms ++ ns) w = replay runner ns (replay runner ms w) :=
  List.foldl_append

/-- A move that asks something of the files is a request. -/
theorem requested_after (h : ¬ m.IsQuiet) : w.Requested (m.after runner w) := by
  cases m with
  | say | pass | call => exact absurd trivial h
  | makeAll p => exact Session.requested_makeAll p w
  | write p text => exact Session.requested_writeBytes p _ false false w
  | copy source destination => exact Session.requested_copyFile source destination w
  | remove p => exact Session.requested_removeDirectory p w

/-- No move changes what the surroundings say. -/
theorem around_after : (m.after runner w).around = w.around := by
  by_cases hquiet : m.IsQuiet
  · cases m with
    | say | pass | call => rfl
    | makeAll | write | copy | remove => exact hquiet.elim
  · exact (requested_after hquiet).around

/-- Every move leads onward. -/
theorem onward_after : w.Onward (m.after runner w) := by
  by_cases hquiet : m.IsQuiet
  · cases m with
    | say | pass | call => exact ⟨List.Subset.refl _, List.suffix_rfl⟩
    | makeAll | write | copy | remove => exact hquiet.elim
  · exact (requested_after hquiet).onward

/-- **What every move keeps**, a list of moves keeps. -/
theorem replay_rel {R : World σ → World σ → Prop} (hrefl : ∀ u, R u u)
    (htrans : ∀ {a b c}, R a b → R b c → R a c)
    (hmove : ∀ m ∈ ms, ∀ u : World σ, u.around = w.around → R u (m.after runner u)) :
    R w (replay runner ms w) := by
  induction ms generalizing w with
  | nil => exact hrefl w
  | cons m ms ih =>
      refine htrans (hmove m List.mem_cons_self w rfl) (ih fun n hn u hu => ?_)
      exact hmove n (List.mem_cons_of_mem m hn) u (hu.trans around_after)

/-- No move leaves the surroundings. -/
theorem around_replay : (replay runner ms w).around = w.around :=
  replay_rel (R := fun u v => v.around = u.around) (fun _ => rfl) (fun h h' => h'.trans h)
    fun _ _ _ _ => around_after

/-- Calls apart, a move notes its events behind the earlier ones. -/
theorem events_after (h : ∀ mode i, m ≠ call mode i) :
    (m.after runner w).events = w.events ++ m.events := by
  by_cases hquiet : m.IsQuiet
  · cases m with
    | call mode i => exact absurd rfl (h mode i)
    | say | pass => exact World.events_note w _
    | makeAll | write | copy | remove => exact hquiet.elim
  · have hnothing : m.events = [] := by
      cases m with
      | say | pass | call => exact absurd trivial hquiet
      | makeAll | write | copy | remove => rfl
    rw [hnothing, List.append_nil, (requested_after hquiet).events]

/-- A move that is no call tells of none. -/
theorem calls_events : calls m.events = [] := by
  cases m with
  | pass pacer n message => rw [events, calls_waited, calls_map_said]
  | say | call | makeAll | write | copy | remove => rfl

/-- No move takes anything away from the record. -/
theorem exists_events : ∃ new, (m.after runner w).events = w.events ++ new := by
  cases m with
  | call mode i => exact ⟨_, (Session.events_afterCall runner mode i w).choose_spec⟩
  | say | pass | makeAll | write | copy | remove => exact ⟨_, events_after nofun⟩

end Move

/-! ### Sessions within some moves -/

/-- A session **within** some moves and faults: every run of it is a list of such moves, and a run
that fails does so with such a fault. -/
def Within (runner : Runner σ) (may : Surroundings → Move → Prop) (fails : ε → Prop)
    (x : Session σ ε α) : Prop :=
  ∀ w, (∃ ms, (x.run w).2 = Move.replay runner ms w ∧ ∀ m ∈ ms, may w.around m) ∧
    ∀ f, (x.run w).1 = .error f → fails f

/-- A session that **gives**, if it succeeds, only results of some kind. -/
def Gives (kind : α → Prop) (x : Session σ ε α) : Prop :=
  ∀ w a v, x.run w = (.ok a, v) → kind a

namespace Gives

/-- Whatever is given back is something. -/
theorem any (x : Session σ ε α) : Gives (fun _ => True) x :=
  fun _ _ _ _ => trivial

/-- What a part gives is given to the next one. -/
theorem bind {x : Session σ ε α} {next : α → Session σ ε β} {kind : β → Prop} {kind' : α → Prop}
    (hx : Gives kind' x) (hnext : ∀ a, kind' a → Gives kind (next a)) :
    Gives kind (x >>= next) := by
  intro w b v hrun
  obtain ⟨a, u, hfirst, hrest⟩ := Session.exists_of_run_bind_eq_ok hrun
  exact hnext a (hx w a u hfirst) u b v hrest

/-- A value is given back as it is. -/
theorem pure {kind : α → Prop} {a : α} (h : kind a) :
    Gives kind (Pure.pure a : Session σ ε α) := by
  intro w b v hrun
  obtain rfl : a = b := Except.ok.inj (Prod.mk.inj hrun).1
  exact h

/-- What a failure is called changes nothing about what is given. -/
theorem withFault {f : ε → ε'} {x : Session σ ε α} {kind : α → Prop} (hx : Gives kind x) :
    Gives kind (Session.withFault f x) :=
  fun w a v hrun => hx w a v (Session.run_of_run_withFault_eq_ok hrun)

/-- A result for each member of a list, each told by its member. -/
theorem mapM {l : List α} {f : α → Session σ ε β} {g : α → β}
    (hf : ∀ a, Gives (· = g a) (f a)) : Gives (· = l.map g) (l.mapM f) := by
  induction l with
  | nil =>
      rw [List.mapM_nil]
      exact pure rfl
  | cons a l ih =>
      rw [List.mapM_cons]
      refine bind (hf a) fun b hb => bind ih fun bs hbs => pure ?_
      rw [hb, hbs, List.map_cons]

/-- In a **dry run** a call gives an empty output. -/
theorem perform (mode : Mode) (i : Invocation) :
    Gives (· = "") (Session.perform (dryRun : Runner σ) mode i) := by
  intro w text v hrun
  exact (Except.ok.inj (Prod.mk.inj hrun).1).symm

end Gives

namespace Within

variable {runner : Runner σ} {may may' : Surroundings → Move → Prop} {fails : ε → Prop}
  {fails' : ε' → Prop}

/-- More moves may be made, and more faults met. -/
theorem mono {fails' : ε → Prop} {x : Session σ ε α} (h : Within runner may fails x)
    (hmay : ∀ s m, may s m → may' s m) (hfails : ∀ f, fails f → fails' f) :
    Within runner may' fails' x := by
  intro w
  obtain ⟨⟨ms, hrun, hms⟩, hfault⟩ := h w
  exact ⟨⟨ms, hrun, fun m hm => hmay _ m (hms m hm)⟩, fun f hf => hfails f (hfault f hf)⟩

/-- What may be done may be done with something more given. -/
theorem given {given : Surroundings → Prop} {x : Session σ ε α} (h : Within runner may fails x) :
    Within runner (fun s m => given s → may s m) fails x :=
  h.mono (fun _ _ hmay _ => hmay) fun _ hf => hf

/-! ### Parts that make one move, or none -/

/-- A part that makes no move. -/
theorem of_still {x : Session σ ε α} {result : World σ → Except ε α}
    (h : ∀ w, x.run w = (result w, w)) (hfails : ∀ w f, result w = .error f → fails f) :
    Within runner may fails x := by
  intro w
  rw [h w]
  exact ⟨⟨[], rfl, fun m hm => absurd hm List.not_mem_nil⟩, hfails w⟩

/-- A part that makes one move. -/
theorem of_move {x : Session σ ε α} {m : Move} (hmay : ∀ s, may s m)
    (h : ∀ w, (x.run w).2 = m.after runner w) (hfails : ∀ w f, (x.run w).1 = .error f → fails f) :
    Within runner may fails x := by
  intro w
  refine ⟨⟨[m], h w, fun n hn => ?_⟩, hfails w⟩
  rw [List.mem_singleton.mp hn]
  exact hmay w.around

/-- A value that is given back makes no move. -/
theorem pure (a : α) : Within runner may fails (Pure.pure a : Session σ ε α) :=
  of_still (Session.run_pure a) nofun

/-- A failure makes no move. -/
theorem throw {fault : ε} (h : fails fault) :
    Within runner may fails (MonadExcept.throw fault : Session σ ε α) := by
  have hrun : ∀ w : World σ, (MonadExcept.throw fault : Session σ ε α).run w =
      (.error fault, w) := fun _ => rfl
  refine of_still hrun fun w f hf => ?_
  rwa [← Except.error.inj hf]

/-- A line of the log is one move. -/
theorem log {level : Level} {message : String}
    (h : ∀ s, may s (.say (.logged level message))) :
    Within runner may fails (Session.log level message : Session σ ε Unit) :=
  of_move h (fun _ => rfl) nofun

/-- A line on what is going on. -/
theorem info {message : String} (h : ∀ s, may s (.say (.logged .info message))) :
    Within runner may fails (Session.info message : Session σ ε Unit) :=
  log h

/-- A line on details. -/
theorem debug {message : String} (h : ∀ s, may s (.say (.logged .debug message))) :
    Within runner may fails (Session.debug message : Session σ ε Unit) :=
  log h

/-- A line on the console is one move. -/
theorem printLine {text : String} (h : ∀ s, may s (.say (.printed (text ++ "\n")))) :
    Within runner may fails (Session.printLine text : Session σ ε Unit) :=
  of_move h (fun _ => rfl) nofun

/-- Time that passes is one move. -/
theorem wait {pacer : Pacer} {n : Nat} {message : String}
    (h : ∀ s, may s (.pass pacer n message)) :
    Within runner may fails (Session.wait pacer n message : Session σ ε Unit) :=
  of_move h (fun w => congrArg Prod.snd (Session.run_wait pacer n message w)) nofun

/-- A question about the files makes no move. -/
theorem ask (question : Links → Tree → Place → α) :
    Within runner may fails (Session.ask question : Session σ ε α) :=
  of_still (Session.run_ask question) nofun

/-- A text that is read makes no move. -/
theorem readText (p : Path) :
    Within runner may (fun _ => True) (Session.readText p : Session σ Fault String) :=
  of_still (Session.run_readText p) fun _ _ _ => trivial

/-- A result that is at hand makes no move, and fails as it does. -/
theorem ofExcept {x : Except ε α} (h : ∀ f, x = .error f → fails f) :
    Within runner may fails (Session.ofExcept x : Session σ ε α) :=
  of_still (Session.run_ofExcept x) fun _ => h

/-- A text that is written is one move. -/
theorem writeText {p : Path} {text : String} (h : ∀ s, may s (.write p text)) :
    Within runner may (fun _ => True) (Session.writeText p text : Session σ Fault Unit) :=
  of_move h (fun _ => rfl) fun _ _ _ => trivial

/-- A file that is copied is one move. -/
theorem copyFile {source destination : Path} (h : ∀ s, may s (.copy source destination)) :
    Within runner may (fun _ => True)
      (Session.copyFile source destination : Session σ Fault Unit) :=
  of_move h (fun _ => rfl) fun _ _ _ => trivial

/-- A directory that is removed is one move. -/
theorem removeDirectory {p : Path} (h : ∀ s, may s (.remove p)) :
    Within runner may (fun _ => True) (Session.removeDirectory p : Session σ Fault Unit) :=
  of_move h (fun _ => rfl) fun _ _ _ => trivial

/-- Directories that are made are one move. -/
theorem makeAll {p : Path} (h : ∀ s, may s (.makeAll p)) :
    Within runner may (fun _ => True) (Session.makeAll p : Session σ Fault Unit) :=
  of_move h (fun _ => rfl) fun _ _ _ => trivial

/-- A **call** fails only if the run is not dry. -/
theorem perform {mode : Mode} {i : Invocation} (h : ∀ s, may s (.call mode i)) :
    Within runner may (fun _ => runner ≠ dryRun) (Session.perform runner mode i) := by
  refine of_move h (fun _ => rfl) ?_
  rintro w f hf rfl
  cases hf

/-! ### Composition -/

/-- **One part after another**, where the second one may rely on what the first one gives. -/
theorem bind_of_gives {x : Session σ ε α} {next : α → Session σ ε β} {kind : α → Prop}
    (hx : Within runner may fails x) (hgives : Gives kind x)
    (hnext : ∀ a, kind a → Within runner may fails (next a)) :
    Within runner may fails (x >>= next) := by
  intro w
  obtain ⟨⟨ms, hfirst, hms⟩, hfails⟩ := hx w
  rcases hrun : x.run w with ⟨fault | a, u⟩
  · rw [Session.run_bind_of_error hrun]
    rw [hrun] at hfirst hfails
    refine ⟨⟨ms, hfirst, hms⟩, fun f hf => hfails f ?_⟩
    rw [Except.error.inj hf]
  · rw [Session.run_bind_of_ok hrun]
    rw [hrun] at hfirst
    obtain ⟨⟨ns, hrest, hns⟩, hfails'⟩ := hnext a (hgives w a u hrun) u
    obtain rfl : u = Move.replay runner ms w := hfirst
    rw [Move.around_replay] at hns
    refine ⟨⟨ms ++ ns, hrest.trans Move.replay_append.symm, ?_⟩, hfails'⟩
    exact fun m hm => (List.mem_append.mp hm).elim (hms m) (hns m)

/-- **One part after another.** -/
theorem bind {x : Session σ ε α} {next : α → Session σ ε β} (hx : Within runner may fails x)
    (hnext : ∀ a, Within runner may fails (next a)) : Within runner may fails (x >>= next) :=
  bind_of_gives hx (.any x) fun a _ => hnext a

/-- A part that begins with a look at the surroundings goes on in a world with these. -/
theorem around_bind {next : Surroundings → Session σ ε α}
    (h : ∀ s, Within runner (fun s' m => s' = s → may s' m) fails (next s)) :
    Within runner may fails (Session.around >>= next) := by
  intro w
  rw [Session.run_bind_of_ok (Session.run_around w)]
  obtain ⟨⟨ms, hrun, hms⟩, hfails⟩ := h w.around w
  exact ⟨⟨ms, hrun, fun m hm => hms m hm rfl⟩, hfails⟩

/-- **A part with its failure seen as another one.** -/
theorem withFault {f : ε → ε'} {x : Session σ ε α} (hx : Within runner may fails x)
    (hf : ∀ fault, fails fault → fails' (f fault)) :
    Within runner may fails' (Session.withFault f x) := by
  intro w
  obtain ⟨hmoves, hfails⟩ := hx w
  refine ⟨hmoves, fun fault' hfault' => ?_⟩
  rw [Session.run_withFault] at hfault'
  cases hresult : (x.run w).1 with
  | ok a =>
      rw [hresult] at hfault'
      cases hfault'
  | error fault =>
      rw [hresult] at hfault'
      rw [← Except.error.inj hfault']
      exact hf fault (hfails fault hresult)

/-- A part whose failure is caught, whatever it is. -/
theorem tryCatch {x : Session σ ε α} {handle : ε → Session σ ε α}
    (hx : Within runner may (fun _ => True) x) (hhandle : ∀ f, Within runner may fails (handle f)) :
    Within runner may fails (MonadExcept.tryCatch x handle) := by
  intro w
  obtain ⟨⟨ms, hfirst, hms⟩, -⟩ := hx w
  have hrun := Session.run_tryCatch x handle w
  rcases hresult : x.run w with ⟨fault | a, u⟩
  · rw [hresult] at hrun hfirst
    obtain rfl : u = Move.replay runner ms w := hfirst
    obtain ⟨⟨ns, hrest, hns⟩, hfails⟩ := hhandle fault (Move.replay runner ms w)
    rw [Move.around_replay] at hns
    rw [hrun]
    refine ⟨⟨ms ++ ns, hrest.trans Move.replay_append.symm, ?_⟩, hfails⟩
    exact fun m hm => (List.mem_append.mp hm).elim (hms m) (hns m)
  · rw [hresult] at hrun hfirst
    rw [hrun]
    exact ⟨⟨ms, hfirst, hms⟩, nofun⟩

/-- A part for each member of a list, in order. -/
theorem forM {l : List α} {f : α → Session σ ε PUnit} (hf : ∀ a, Within runner may fails (f a)) :
    Within runner may fails (l.forM f) := by
  induction l with
  | nil => exact pure _
  | cons a l ih =>
      show Within runner may fails (f a >>= fun _ => l.forM f)
      exact bind (hf a) fun _ => ih

/-- A part for each member of a list, in order, with their results. -/
theorem mapM {l : List α} {f : α → Session σ ε β} (hf : ∀ a, Within runner may fails (f a)) :
    Within runner may fails (l.mapM f) := by
  induction l with
  | nil =>
      rw [List.mapM_nil]
      exact pure _
  | cons a l ih =>
      rw [List.mapM_cons]
      exact bind (hf a) fun _ => bind ih fun _ => pure _

/-- A text is saved by the making of its directory and the writing of its file. -/
theorem saveText {fault : Path → Fault → ε} {p : Path} {content : String}
    (hmake : ∀ s q, may s (.makeAll q)) (hwrite : ∀ s, may s (.write p content))
    (hfails : ∀ q cause, fails (fault q cause)) :
    Within runner may fails (Session.saveText fault p content : Session σ ε Unit) := by
  have hfile : Within runner may fails
      (Session.withFault (fault p) (Session.writeText p content) : Session σ ε Unit) :=
    .withFault (.writeText hwrite) fun cause _ => hfails p cause
  rw [Session.saveText]
  split
  · exact .bind (.withFault (.makeAll fun s => hmake s _) fun cause _ => hfails _ cause) fun _ =>
      hfile
  · exact hfile

/-! ### What runs keep -/

/-- **What every move keeps, a session keeps.** -/
theorem rel {x : Session σ ε α} (h : Within runner may fails x) {R : World σ → World σ → Prop}
    (w : World σ) (hrefl : ∀ u, R u u) (htrans : ∀ {a b c}, R a b → R b c → R a c)
    (hmove : ∀ m (u : World σ), may w.around m → u.around = w.around → R u (m.after runner u)) :
    R w (x.run w).2 := by
  obtain ⟨⟨ms, hrun, hms⟩, -⟩ := h w
  rw [hrun]
  exact Move.replay_rel hrefl htrans fun m hm u hu => hmove m u (hms m hm) hu

/-- A session leaves the surroundings as they are. -/
theorem around_run {x : Session σ ε α} (h : Within runner may fails x) (w : World σ) :
    (x.run w).2.around = w.around :=
  h.rel (R := fun u v => v.around = u.around) w (fun _ => rfl) (fun h h' => h'.trans h)
    fun _ _ _ _ => Move.around_after

/-- **What a session adds to the record** is what its moves add. -/
theorem exists_events {x : Session σ ε α} (h : Within runner may fails x) (w : World σ)
    {P : Event → Prop} (hmay : ∀ m (u : World σ), may w.around m → u.around = w.around →
      ∃ new, (m.after runner u).events = u.events ++ new ∧ ∀ e ∈ new, P e) :
    ∃ new, (x.run w).2.events = w.events ++ new ∧ ∀ e ∈ new, P e := by
  refine h.rel (R := fun u v => ∃ new, v.events = u.events ++ new ∧ ∀ e ∈ new, P e) w
    (fun _ => ⟨[], (List.append_nil _).symm, nofun⟩) ?_ hmay
  rintro a b c ⟨new, hnew, hall⟩ ⟨new', hnew', hall'⟩
  exact ⟨new ++ new', by rw [hnew', hnew, List.append_assoc],
    fun e he => (List.mem_append.mp he).elim (hall e) (hall' e)⟩

end Within

/-! ### Trees that only calls change -/

/-- **Only the calls** change a tree: each finds what was left before it. -/
def OnlyCalls : Tree → List Exchange → Tree → Prop
  | t, [], t' => t' = t
  | t, x :: xs, t' => x.found = t ∧ OnlyCalls x.left xs t'

namespace OnlyCalls

variable {t u v : Tree} {xs ys : List Exchange}

/-- What the calls did in two stretches, they did in both together. -/
theorem append (h : OnlyCalls t xs u) (hrest : OnlyCalls u ys v) : OnlyCalls t (xs ++ ys) v := by
  induction xs generalizing t with
  | nil =>
      obtain rfl : u = t := h
      exact hrest
  | cons x xs ih => exact ⟨h.1, ih h.2⟩

/-- Calls that leave the tree as they find it leave all as it was. -/
theorem eq_of_idle (h : OnlyCalls t xs u) (hidle : ∀ x ∈ xs, x.left = x.found) : u = t := by
  induction xs generalizing t with
  | nil => exact h
  | cons x xs ih =>
      rw [ih h.2 fun y hy => hidle y (List.mem_cons_of_mem _ hy), hidle x List.mem_cons_self, h.1]

end OnlyCalls

/-- Moves that request nothing of the tree leave all changes to the calls. -/
theorem Move.onlyCalls_replay {runner : Runner σ} {w : World σ} {ms : List Move}
    (h : ∀ m ∈ ms, m.IsQuiet) :
    ∃ new, (replay runner ms w).events = w.events ++ new ∧
      OnlyCalls w.tree (calls new) (replay runner ms w).tree := by
  refine replay_rel (R := fun u v => ∃ new, v.events = u.events ++ new ∧
    OnlyCalls u.tree (calls new) v.tree) (fun _ => ⟨[], (List.append_nil _).symm, rfl⟩) ?_ ?_
  · rintro a b c ⟨new, hnew, honly⟩ ⟨new', hnew', honly'⟩
    refine ⟨new ++ new', ?_, ?_⟩
    · rw [hnew', hnew, List.append_assoc]
    · rw [calls_append]
      exact honly.append honly'
  · intro m hm u _
    cases m with
    | call mode i =>
        obtain ⟨said, hevents⟩ := Session.events_afterCall runner mode i u
        refine ⟨_, hevents, ?_⟩
        rw [calls_map_said_called]
        exact ⟨rfl, rfl⟩
    | say | pass =>
        refine ⟨_, events_after nofun, ?_⟩
        rw [calls_events]
        exact rfl
    | makeAll | write | copy | remove => exact (h _ hm).elim

/-- The same, for the calls of a passage. -/
theorem Passage.onlyCalls {apart : Set Path} {runner : Runner σ} {w : World σ} {ms : List Move}
    {xs : List Exchange} (h : Passage apart w xs (Move.replay runner ms w))
    (hms : ∀ m ∈ ms, m.IsQuiet) :
    OnlyCalls w.tree xs (Move.replay runner ms w).tree := by
  obtain ⟨new, hnew, rfl⟩ := h.events
  obtain ⟨new', hnew', honly⟩ := Move.onlyCalls_replay hms
  rwa [List.append_cancel_left (hnew.symm.trans hnew')]

/-! ### Places that are left alone -/

/-- From one world to another the file at a place is **rewritten** with one of some texts, or with a
start of it if a write falls short, or is left alone, unless by a call. -/
def World.Rewrites (texts : Set String) (at_ : Place) (w v : World σ) : Prop :=
  ∃ new, v.events = w.events ++ new ∧ w.Onward v ∧
    (w.LinkFree → (∀ x ∈ calls new, x.SparesAt at_) →
      v.tree.file? at_ = w.tree.file? at_ ∨
        ∃ text ∈ texts, v.tree.HoldsStart at_ text ∧ (w.WritesWhole → v.tree.Holds at_ text))

namespace World.Rewrites

variable {texts : Set String} {at_ : Place} {u v w : World σ}

/-- Nothing happens to the file. -/
theorem refl (w : World σ) : w.Rewrites texts at_ w :=
  ⟨[], (List.append_nil _).symm, .refl w, fun _ _ => .inl rfl⟩

/-- What was rewritten last counts. -/
theorem trans (h : w.Rewrites texts at_ u) (h' : u.Rewrites texts at_ v) :
    w.Rewrites texts at_ v := by
  obtain ⟨new, hnew, honward, hfile⟩ := h
  obtain ⟨new', hnew', honward', hfile'⟩ := h'
  refine ⟨new ++ new', ?_, honward.trans honward', fun hfree hspared => ?_⟩
  · rw [hnew', hnew, List.append_assoc]
  · rw [calls_append] at hspared
    have hbefore := hfile hfree fun x hx => hspared x (List.mem_append_left _ hx)
    have hafter := hfile' (honward.linkFree hfree) fun x hx =>
      hspared x (List.mem_append_right _ hx)
    rcases hafter with heq | ⟨text, htext, hstart, hholds⟩
    · rcases hbefore with heq' | ⟨text, htext, hstart, hholds⟩
      · exact .inl (heq.trans heq')
      · exact .inr ⟨text, htext, hstart.of_eq heq, fun hwhole => (hholds hwhole).of_eq heq⟩
    · exact .inr ⟨text, htext, hstart, fun hwhole => hholds (honward.writesWhole hwhole)⟩

/-- What became of the file, seen from the record of what happened. -/
theorem file? (h : w.Rewrites texts at_ v) {new : List Event} (hnew : v.events = w.events ++ new)
    (hfree : w.LinkFree) (hspared : ∀ x ∈ calls new, x.SparesAt at_) :
    v.tree.file? at_ = w.tree.file? at_ ∨
      ∃ text ∈ texts, v.tree.HoldsStart at_ text ∧ (w.WritesWhole → v.tree.Holds at_ text) := by
  obtain ⟨new', hnew', -, hfile⟩ := h
  rw [List.append_cancel_left (hnew'.symm.trans hnew)] at hfile
  exact hfile hfree hspared

end World.Rewrites

namespace Move

variable {runner : Runner σ} {w : World σ} {at_ : Place} {m : Move}

/-- A place that a move does not touch has the same file after it, unless by a call. -/
theorem file?_after (hfree : w.LinkFree) (hcall : ∀ mode i, m ≠ call mode i)
    (h : at_ ∉ m.touches w.around) : (m.after runner w).tree.file? at_ = w.tree.file? at_ := by
  cases m with
  | say | pass => rfl
  | call mode i => exact absurd rfl (hcall mode i)
  | makeAll p => exact (Session.extends_run_makeAll p w).files at_ (Set.notMem_empty at_)
  | write p text => exact (Session.extends_run_writeBytes hfree p _ _ _).files at_ h
  | copy source destination =>
      exact (Session.extends_run_copyFile hfree source destination).files at_ h
  | remove p => exact Session.sameFiles_run_removeDirectory hfree p at_ h

/-- A single move leaves a place alone that it does not touch, or writes its text there. -/
theorem rewrites_after {texts : Set String}
    (h : at_ ∉ m.touches w.around ∨ ∃ p text, m = write p text ∧ text ∈ texts) :
    w.Rewrites texts at_ (m.after runner w) := by
  by_cases hcall : ∃ mode i, m = call mode i
  · obtain ⟨mode, i, rfl⟩ := hcall
    obtain ⟨said, hevents⟩ := Session.events_afterCall runner mode i w
    refine ⟨_, hevents, onward_after, fun _ hspared => .inl ?_⟩
    rw [calls_map_said_called] at hspared
    exact hspared _ List.mem_cons_self
  · have hcall : ∀ mode i, m ≠ call mode i := fun mode i heq => hcall ⟨mode, i, heq⟩
    refine ⟨m.events, events_after hcall, onward_after, fun hfree _ => ?_⟩
    by_cases hat : at_ ∈ m.touches w.around
    · obtain ⟨p, text, rfl, htext⟩ := h.resolve_left (not_not.mpr hat)
      obtain rfl : at_ = p.place w.around.cwd := hat
      exact (Session.file?_run_writeText hfree p text).imp_right fun hheld => ⟨text, htext, hheld⟩
    · exact .inl (file?_after hfree hcall hat)

end Move

namespace Within

variable {runner : Runner σ} {may : Surroundings → Move → Prop} {fails : ε → Prop}
  {x : Session σ ε α} {at_ : Place}

/-- **A place is left alone, or gets a text** that some move writes there. -/
theorem rewrites (h : Within runner may fails x) (w : World σ) {texts : Set String}
    (hmay : ∀ m, may w.around m →
      at_ ∉ m.touches w.around ∨ ∃ p text, m = .write p text ∧ text ∈ texts) :
    w.Rewrites texts at_ (x.run w).2 := by
  refine h.rel w .refl .trans fun m u hm hu => Move.rewrites_after ?_
  rw [hu]
  exact hmay m hm

end Within

end GeoBench.Machine
