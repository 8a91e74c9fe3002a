import GeoBench.Proofs.Machine.Requests
import Mathlib.Data.Set.Insert

/-!
# Sessions that keep to some calls and some files

A call may do anything to the file tree, and a session is not to blame for it. What a session does
to the tree **itself** is what happens between its calls. A session is **confined** if it makes only
allowed calls and touches itself only the files along some paths; whatever a call spares is then as
it was, unless one of these paths may arrive at it.

The rules follow the way in which sessions are put together, as for any other property of whole
sessions: a session whose parts are confined is confined.

## Through links

What a session touches is told by its paths, and where they lead is told by the links. A passage
therefore names paths, and touches the files where these may arrive (`Links.reached`): their own
places where there are no links, and whatever the links make of them otherwise. Nothing is supposed
of the links.

Two paths are different files if they have no arrival in common. A world that **keeps apart** some
paths is one in which this holds of any two of them, as it does for paths to different places in a
world without links (`World.keepsApart_of_linkFree`). It is the only hypothesis about links in the
statements about files that are written one after the other, and they are wrong without it: two
generated files that are one through a link have one content.

That no write falls short is needed only where a session that failed is said to have changed
nothing.

## Main results

* `Passage.file?_eq`, `Passage.readText` — a file that every call spares and that the paths do not
  reach is as before, and is read as before.
* `Confined.perform`, `Confined.writeText`, `Confined.makeAll` — what calls and requests touch.
* `Confined.bind` — one part after another.
* `Confined.passage` — what a session without calls does.
* `Passage.of_saveText`, `Passage.of_saveText_error` — what is read after a text was saved, and what
  a failure to save it changes.
* `AllOrNothing.bind`, `AllOrNothing.bind_of_ok` — what may come before and after a text is saved
  for a failure to change nothing.
-/

namespace GeoBench.Machine

variable {σ ε ε' α β : Type}

/-! ### Own changes -/

/-- A call that **spares** a place leaves the file there as it found it. -/
def Exchange.SparesAt (x : Exchange) (at_ : Place) : Prop :=
  x.left.file? at_ = x.found.file? at_

/-- A call that **spares** a path, seen from a working directory and through some links, leaves the
files where it may arrive as it found them, and what is read along it. -/
structure Exchange.Spares (x : Exchange) (links : Links) (cwd : Place) (p : Path) : Prop where
  files : ∀ at_ ∈ links.arrivals cwd true p, x.SparesAt at_
  text : links.readText x.left cwd p = links.readText x.found cwd p

/-- What is changed **between** calls are the files at some places: up to what the first call finds,
from what each call leaves to what the next one finds, and after the last one. -/
def OwnChanges (apart : Set Place) : Tree → List Exchange → Tree → Prop
  | t, [], t' => t.Extends apart t'
  | t, x :: xs, t' => t.Extends apart x.found ∧ OwnChanges apart x.left xs t'

namespace OwnChanges

variable {apart more : Set Place} {t u v : Tree} {xs ys : List Exchange} {cwd at_ : Place}
  {p : Path}

/-- More places may be changed. -/
theorem mono (h : OwnChanges apart t xs u) (hsub : apart ⊆ more) : OwnChanges more t xs u := by
  induction xs generalizing t with
  | nil => exact Tree.Extends.mono h hsub
  | cons x xs ih => exact ⟨h.1.mono hsub, ih h.2⟩

/-- Changes before the first call. -/
theorem of_extends (h : t.Extends apart u) (hrest : OwnChanges apart u xs v) :
    OwnChanges apart t xs v := by
  cases xs with
  | nil => exact h.trans hrest
  | cons x xs => exact ⟨h.trans hrest.1, hrest.2⟩

/-- Changes in two stretches of calls are changes in both together. -/
theorem append (h : OwnChanges apart t xs u) (hrest : OwnChanges apart u ys v) :
    OwnChanges apart t (xs ++ ys) v := by
  induction xs generalizing t with
  | nil => exact of_extends h hrest
  | cons x xs ih => exact ⟨h.1, ih h.2⟩

/-- The changes before a call and those after it. -/
theorem split {x : Exchange} (h : OwnChanges apart t (xs ++ x :: ys) v) :
    OwnChanges apart t xs x.found ∧ OwnChanges apart x.left ys v := by
  induction xs generalizing t with
  | nil => exact h
  | cons y xs ih => exact ⟨⟨h.1, (ih h.2).1⟩, (ih h.2).2⟩

/-- **A file that every call spares** is as before, unless it is at one of the places. -/
theorem file?_eq (h : OwnChanges apart t xs u) (hat : at_ ∉ apart)
    (hspared : ∀ x ∈ xs, x.SparesAt at_) : u.file? at_ = t.file? at_ := by
  induction xs generalizing t with
  | nil => exact Tree.Extends.files h at_ hat
  | cons x xs ih =>
      have hx : x.left.file? at_ = x.found.file? at_ := hspared x List.mem_cons_self
      rw [ih h.2 fun y hy => hspared y (List.mem_cons_of_mem _ hy), hx, h.1.files at_ hat]

/-- **What is read** along a path is read again, if every call spares the path and it arrives at
none of the places. -/
theorem readText {links : Links} {text : String} (h : OwnChanges apart t xs u)
    (hapart : Disjoint (links.arrivals cwd true p) apart)
    (hspared : ∀ x ∈ xs, x.Spares links cwd p) (hread : links.readText t cwd p = .ok text) :
    links.readText u cwd p = .ok text := by
  induction xs generalizing t with
  | nil => exact Links.readText_of_extends h hapart hread
  | cons x xs ih =>
      refine ih h.2 (fun y hy => hspared y (List.mem_cons_of_mem _ hy)) ?_
      rw [(hspared x List.mem_cons_self).text]
      exact Links.readText_of_extends h.1 hapart hread

end OwnChanges

/-! ### Paths that are kept apart -/

/-- A world **keeps apart** some paths if no two of them may arrive at one place. -/
def World.KeepsApart (w : World σ) (paths : List Path) : Prop :=
  ∀ p ∈ paths, ∀ q ∈ paths, p ≠ q →
    Disjoint (w.links.arrivals w.around.cwd true p) (w.links.arrivals w.around.cwd true q)

namespace World

variable {w : World σ} {paths more : List Path}

/-- Where no place is a link, paths to different places are kept apart. -/
theorem keepsApart_of_linkFree (hfree : w.LinkFree) (hplaces : ∀ p ∈ paths, ∀ q ∈ paths, p ≠ q →
    p.place w.around.cwd ≠ q.place w.around.cwd) : w.KeepsApart paths := by
  intro p hp q hq hne
  rw [show w.links = [] from hfree, Links.arrivals_nil, Links.arrivals_nil,
    Set.disjoint_singleton]
  exact hplaces p hp q hq hne

/-- Each of some paths with names has one of the names. -/
theorem exists_hasName_of_mem {names : List String} (h : List.Forall₂ Path.HasName paths names)
    {p : Path} (hp : p ∈ paths) : ∃ a ∈ names, p.HasName a := by
  induction h with
  | nil => exact absurd hp List.not_mem_nil
  | cons hhead _ ih =>
      rcases List.mem_cons.mp hp with rfl | hp
      · exact ⟨_, List.mem_cons_self, hhead⟩
      · obtain ⟨a, ha, hpa⟩ := ih hp
        exact ⟨a, List.mem_cons_of_mem _ ha, hpa⟩

/-- Where no place is a link, paths with names of their own are kept apart. The induction is on the
paths and their names. -/
theorem keepsApart_of_hasName {names : List String} (hfree : w.LinkFree)
    (h : List.Forall₂ Path.HasName paths names) (hnames : names.Nodup) : w.KeepsApart paths := by
  refine keepsApart_of_linkFree hfree ?_
  induction h with
  | nil => exact nofun
  | @cons p a paths names hp hrest ih =>
      obtain ⟨hfresh, hnames⟩ := List.nodup_cons.mp hnames
      have hother : ∀ q ∈ paths, p.place w.around.cwd ≠ q.place w.around.cwd := by
        intro q hq
        obtain ⟨b, hb, hqb⟩ := exists_hasName_of_mem hrest hq
        exact hp.place_ne hqb fun heq => hfresh (heq ▸ hb)
      intro q hq r hr hne
      rcases List.mem_cons.mp hq with rfl | hq'
      · exact hother r ((List.mem_cons.mp hr).resolve_left hne.symm)
      · rcases List.mem_cons.mp hr with rfl | hr'
        · exact (hother q hq').symm
        · exact ih hnames q hq' r hr' hne

/-- Fewer paths are kept apart where more are. -/
theorem KeepsApart.mono (h : w.KeepsApart more) (hsub : paths ⊆ more) : w.KeepsApart paths :=
  fun p hp q hq => h p (hsub hp) q (hsub hq)

/-- Two paths with names of their own have no arrival in common. -/
theorem KeepsApart.disjoint {p q : Path} {a b : String} (h : w.KeepsApart paths) (hp : p ∈ paths)
    (hq : q ∈ paths) (hpa : p.HasName a) (hqb : q.HasName b) (hne : a ≠ b) :
    Disjoint (w.links.arrivals w.around.cwd true p) (w.links.arrivals w.around.cwd true q) :=
  h p hp q hq (hpa.ne hqb hne)

/-- A path arrives nowhere where other ones may that it is kept apart from. -/
theorem KeepsApart.disjoint_reached {p : Path} {others : Set Path} (h : w.KeepsApart paths)
    (hp : p ∈ paths) (hothers : ∀ q ∈ others, q ∈ paths ∧ q ≠ p) :
    Disjoint (w.links.arrivals w.around.cwd true p) (w.links.reached w.around.cwd others) := by
  rw [Set.disjoint_left]
  rintro at_ hat ⟨q, hq, hat'⟩
  obtain ⟨hmem, hne⟩ := hothers q hq
  exact Set.disjoint_left.mp (h p hp q hmem hne.symm) hat hat'

end World

/-! ### Passages -/

/-- A **passage** from one world to another: some calls are made, and between them no file is
touched but where some paths may arrive. The links stay as they are. -/
structure Passage (apart : Set Path) (w : World σ) (xs : List Exchange) (v : World σ) : Prop where
  around : v.around = w.around
  events : ∃ new, v.events = w.events ++ new ∧ calls new = xs
  onward : w.Onward v
  links : v.links = w.links
  files : OwnChanges (w.links.reached w.around.cwd apart) w.tree xs v.tree

namespace Passage

variable {apart more : Set Path} {w u v : World σ} {xs ys : List Exchange} {at_ : Place}

/-- Something other than a call is noted, and nothing else happens. -/
theorem note (apart : Set Path) (w : World σ) {es : List Event} (hcalls : calls es = []) :
    Passage apart w [] (w.note es) :=
  ⟨rfl, ⟨es, w.events_note es, hcalls⟩, ⟨List.Subset.refl _, List.suffix_rfl⟩, rfl,
    Tree.Extends.refl _ _⟩

/-- Nothing happens. -/
theorem refl (apart : Set Path) (w : World σ) : Passage apart w [] w :=
  ⟨rfl, ⟨[], (List.append_nil _).symm, rfl⟩, .refl w, rfl, Tree.Extends.refl _ _⟩

/-- One passage behind another. -/
theorem trans (h : Passage apart w xs u) (h' : Passage apart u ys v) :
    Passage apart w (xs ++ ys) v := by
  obtain ⟨new, hnew, hxs⟩ := h.events
  obtain ⟨new', hnew', hys⟩ := h'.events
  have hfiles := h'.files
  rw [h.links, h.around] at hfiles
  refine ⟨h'.around.trans h.around, ⟨new ++ new', ?_, ?_⟩, h.onward.trans h'.onward,
    h'.links.trans h.links, h.files.append hfiles⟩
  · rw [hnew', hnew, List.append_assoc]
  · rw [calls_append, hxs, hys]

/-- More paths may be touched. -/
theorem mono (h : Passage apart w xs v) (hsub : apart ⊆ more) : Passage more w xs v :=
  ⟨h.around, h.events, h.onward, h.links, h.files.mono (Links.reached_mono _ _ hsub)⟩

/-- A request of files. -/
theorem of_requested (h : w.Requested v) (hlinks : v.links = w.links)
    (hfiles : w.tree.Extends (w.links.reached w.around.cwd apart) v.tree) :
    Passage apart w [] v :=
  ⟨h.around, ⟨[], h.events.trans (List.append_nil _).symm, rfl⟩, h.onward, hlinks, hfiles⟩

/-- A world without links is left without. -/
theorem linkFree (h : Passage apart w xs v) (hfree : w.LinkFree) : v.LinkFree :=
  h.onward.linkFree hfree

/-- What is kept apart stays apart. -/
theorem keepsApart {paths : List Path} (h : Passage apart w xs v) (hkept : w.KeepsApart paths) :
    v.KeepsApart paths := by
  rwa [World.KeepsApart, h.links, h.around]

/-- **A call** is a passage with one exchange, which tells what the call found, gave and left. -/
theorem of_perform (apart : Set Path) {runner : Runner σ} {mode : Mode} {i : Invocation}
    {reply : Except CallFault String}
    (h : (Session.perform runner mode i).run w = (reply, v)) :
    ∃ x : Exchange, Passage apart w [x] v ∧ x.mode = mode ∧ x.invocation = i ∧ x.reply = reply ∧
      x.found = w.tree ∧ x.left = v.tree := by
  obtain ⟨said, hevents⟩ := Session.events_afterCall runner mode i w
  rw [Session.run_perform] at h
  obtain ⟨rfl, rfl⟩ := Prod.mk.inj h
  exact ⟨Session.exchangeOf runner mode i w, ⟨rfl, ⟨_, hevents, calls_map_said_called said _⟩,
    ⟨List.Subset.refl _, List.suffix_rfl⟩, rfl, Tree.Extends.refl _ _, Tree.Extends.refl _ _⟩,
    rfl, rfl, rfl, rfl, rfl⟩

/-- A call whose failure is seen as another one is a passage with one exchange. -/
theorem exists_call (apart : Set Path) (f : CallFault → ε) (runner : Runner σ) (mode : Mode)
    (i : Invocation) (w : World σ) : ∃ (x : Exchange) (u : World σ),
      (Session.withFault f (Session.perform runner mode i)).run w = (x.reply.mapError f, u) ∧
      Passage apart w [x] u ∧ x.mode = mode ∧ x.invocation = i ∧ x.found = w.tree ∧
      x.left = u.tree := by
  rcases hcall : (Session.perform runner mode i).run w with ⟨reply, u⟩
  obtain ⟨x, hpassage, hmode, hx, rfl, hfound, hleft⟩ := of_perform apart hcall
  refine ⟨x, u, ?_, hpassage, hmode, hx, hfound, hleft⟩
  rw [Session.run_withFault, hcall]

/-- The worlds at both ends of a passage tell its calls. -/
theorem calls_unique {apart' : Set Path} (h : Passage apart w xs v)
    (h' : Passage apart' w ys v) : xs = ys := by
  obtain ⟨new, hnew, rfl⟩ := h.events
  obtain ⟨new', hnew', rfl⟩ := h'.events
  rw [List.append_cancel_left (hnew.symm.trans hnew')]

/-- **A file that every call spares** is as before, unless one of the paths may arrive at it. -/
theorem file?_eq (h : Passage apart w xs v) (hat : at_ ∉ w.links.reached w.around.cwd apart)
    (hspared : ∀ x ∈ xs, x.SparesAt at_) : v.tree.file? at_ = w.tree.file? at_ :=
  h.files.file?_eq hat hspared

/-- A passage that touches nothing leaves every file that the calls spare. -/
theorem file?_eq_of_silent (h : Passage ∅ w xs v) (hspared : ∀ x ∈ xs, x.SparesAt at_) :
    v.tree.file? at_ = w.tree.file? at_ := by
  refine h.file?_eq ?_ hspared
  rw [Links.reached_empty]
  exact Set.notMem_empty at_

/-- **What is read** along a path is read again, if every call spares it and it is kept apart from
the paths that are touched. -/
theorem readText {p : Path} {text : String} (h : Passage apart w xs v)
    (hapart : Disjoint (w.links.arrivals w.around.cwd true p)
      (w.links.reached w.around.cwd apart))
    (hspared : ∀ x ∈ xs, x.Spares w.links w.around.cwd p)
    (hread : w.links.readText w.tree w.around.cwd p = .ok text) :
    w.links.readText v.tree w.around.cwd p = .ok text :=
  h.files.readText hapart hspared hread

/-- What is read is read again after a passage that touches nothing and calls nothing. -/
theorem readText_of_silent {p : Path} {text : String} (h : Passage ∅ w [] v)
    (hread : w.links.readText w.tree w.around.cwd p = .ok text) :
    w.links.readText v.tree w.around.cwd p = .ok text := by
  refine h.readText ?_ (fun _ hx => absurd hx List.not_mem_nil) hread
  rw [Links.reached_empty]
  exact Set.disjoint_empty _

end Passage

/-! ### Confined sessions -/

/-- A session that makes only **allowed** calls, and touches itself only the files where some paths
may arrive. -/
def Confined (allowed : Invocation → Prop) (apart : Surroundings → Set Path)
    (x : Session σ ε α) : Prop :=
  ∀ w, ∃ xs, Passage (apart w.around) w xs (x.run w).2 ∧ ∀ y ∈ xs, allowed y.invocation

namespace Confined

variable {allowed allowed' : Invocation → Prop} {apart apart' : Surroundings → Set Path}

/-- More calls may be allowed, and more paths touched. -/
theorem mono {x : Session σ ε α} (h : Confined allowed apart x)
    (hallowed : ∀ i, allowed i → allowed' i) (hapart : ∀ s, apart s ⊆ apart' s) :
    Confined allowed' apart' x := by
  intro w
  obtain ⟨xs, hpassage, hxs⟩ := h w
  exact ⟨xs, hpassage.mono (hapart _), fun y hy => hallowed _ (hxs y hy)⟩

/-- A part that only notes something other than a call. -/
theorem of_note {x : Session σ ε α} {result : World σ → Except ε α} (es : List Event)
    (hcalls : calls es = []) (h : ∀ w, x.run w = (result w, w.note es)) :
    Confined allowed apart x := by
  intro w
  rw [h w]
  exact ⟨[], .note _ w hcalls, fun y hy => absurd hy List.not_mem_nil⟩

/-- A value that is given back touches nothing. -/
theorem pure (a : α) : Confined allowed apart (Pure.pure a : Session σ ε α) :=
  of_note [] rfl (Session.run_pure a)

/-- A failure touches nothing. -/
theorem throw (fault : ε) :
    Confined allowed apart (MonadExcept.throw fault : Session σ ε α) := by
  have hrun : ∀ w : World σ, (MonadExcept.throw fault : Session σ ε α).run w =
      (.error fault, w.note []) := fun _ => rfl
  exact of_note [] rfl hrun

/-- Neither does a line of the log. -/
theorem log (level : Level) (message : String) :
    Confined allowed apart (Session.log level message : Session σ ε Unit) :=
  of_note _ (calls_said _ _) (Session.run_log level message)

/-- A line on what is going on. -/
theorem info (message : String) :
    Confined allowed apart (Session.info message : Session σ ε Unit) :=
  log .info message

/-- A line on details. -/
theorem debug (message : String) :
    Confined allowed apart (Session.debug message : Session σ ε Unit) :=
  log .debug message

/-- A line on the console. -/
theorem printLine (text : String) :
    Confined allowed apart (Session.printLine text : Session σ ε Unit) :=
  of_note _ (calls_said _ _) (Session.run_printLine text)

/-- Time that passes touches nothing. -/
theorem wait (pacer : Pacer) (n : Nat) (message : String) :
    Confined allowed apart (Session.wait pacer n message : Session σ ε Unit) := by
  refine of_note _ ?_ (Session.run_wait pacer n message)
  rw [calls_waited, calls_map_said]

/-- A question about the files touches nothing. -/
theorem ask (question : Links → Tree → Place → α) :
    Confined allowed apart (Session.ask question : Session σ ε α) :=
  of_note [] rfl (Session.run_ask question)

/-- Whether a path leads to a file is such a question. -/
theorem isFile (p : Path) : Confined allowed apart (Session.isFile p : Session σ ε Bool) :=
  ask _

/-- A text that is read is left as it is. -/
theorem readText (p : Path) :
    Confined allowed apart (Session.readText p : Session σ Fault String) :=
  of_note [] rfl (Session.run_readText p)

/-- A result that is at hand. -/
theorem ofExcept (x : Except ε α) :
    Confined allowed apart (Session.ofExcept x : Session σ ε α) :=
  of_note [] rfl (Session.run_ofExcept x)

/-- A **request** touches what it changes, and leaves the links as they are. -/
theorem of_requested {x : Session σ ε α} (h : ∀ w : World σ, w.Requested (x.run w).2)
    (hlinks : ∀ w : World σ, (x.run w).2.links = w.links)
    (hfiles : ∀ w : World σ, w.tree.Extends (w.links.reached w.around.cwd (apart w.around))
      (x.run w).2.tree) : Confined allowed apart x :=
  fun w => ⟨[], .of_requested (h w) (hlinks w) (hfiles w), fun _ hy => absurd hy List.not_mem_nil⟩

/-- A text that is **written** touches the file along its path. -/
theorem writeText {p : Path} {text : String} (h : ∀ s, p ∈ apart s) :
    Confined allowed apart (Session.writeText p text : Session σ Fault Unit) :=
  of_requested (Session.requested_writeBytes _ _ _ _) (Session.links_run_writeBytes _ _ _ _)
    fun w => (Session.extends_arrivals_run_writeBytes p _ _ _ w).mono
      fun _ hat => ⟨p, h w.around, hat⟩

/-- A file that is **copied** touches the file along the path of the copy. -/
theorem copyFile {source destination : Path} (h : ∀ s, destination ∈ apart s) :
    Confined allowed apart (Session.copyFile source destination : Session σ Fault Unit) :=
  of_requested (Session.requested_copyFile _ _) (Session.links_run_copyFile _ _)
    fun w => (Session.extends_arrivals_run_copyFile source destination w).mono
      fun _ hat => ⟨destination, h w.around, hat⟩

/-- **Directories** are made without touching a file. -/
theorem makeAll (p : Path) :
    Confined allowed apart (Session.makeAll p : Session σ Fault Unit) :=
  of_requested (Session.requested_makeAll p) (Session.links_run_makeAll p)
    fun w => (Session.extends_run_makeAll p w).mono (Set.empty_subset _)

/-- A **call** that is allowed. -/
theorem perform {runner : Runner σ} {mode : Mode} {i : Invocation} (h : allowed i) :
    Confined allowed apart (Session.perform runner mode i) := by
  intro w
  obtain ⟨x, hpassage, -, hcall, -⟩ :=
    Passage.of_perform (apart w.around) (Session.run_perform runner mode i w)
  refine ⟨[x], hpassage, fun y hy => ?_⟩
  rw [List.mem_singleton.mp hy, hcall]
  exact h

/-- **One part after another.** -/
theorem bind {x : Session σ ε α} {next : α → Session σ ε β} (hx : Confined allowed apart x)
    (hnext : ∀ a, Confined allowed apart (next a)) : Confined allowed apart (x >>= next) := by
  intro w
  obtain ⟨xs, hpassage, hxs⟩ := hx w
  rcases hrun : x.run w with ⟨fault | a, u⟩
  · rw [Session.run_bind_of_error hrun]
    rw [hrun] at hpassage
    exact ⟨xs, hpassage, hxs⟩
  · rw [Session.run_bind_of_ok hrun]
    rw [hrun] at hpassage
    obtain ⟨ys, hrest, hys⟩ := hnext a u
    rw [hpassage.around] at hrest
    exact ⟨xs ++ ys, hpassage.trans hrest,
      fun y hy => (List.mem_append.mp hy).elim (hxs y) (hys y)⟩

/-- A part that begins with a look at the surroundings goes on in a world with these. -/
theorem around_bind {next : Surroundings → Session σ ε α}
    (h : ∀ s, Confined allowed (fun s' => {p | s' = s → p ∈ apart s'}) (next s)) :
    Confined allowed apart (Session.around >>= next) := by
  intro w
  rw [Session.run_bind_of_ok (Session.run_around w)]
  obtain ⟨xs, hpassage, hxs⟩ := h w.around w
  exact ⟨xs, hpassage.mono fun p hp => hp rfl, hxs⟩

/-- **A part with its failure seen as another one.** -/
theorem withFault {f : ε → ε'} {x : Session σ ε α} (hx : Confined allowed apart x) :
    Confined allowed apart (Session.withFault f x) :=
  fun w => hx w

/-- A session that is **allowed no call** makes none. -/
theorem passage {x : Session σ ε α} {w v : World σ} {result : Except ε α}
    (h : Confined (fun _ => False) apart x) (hrun : x.run w = (result, v)) :
    Passage (apart w.around) w [] v := by
  obtain ⟨xs, hpassage, hxs⟩ := h w
  rwa [List.eq_nil_iff_forall_not_mem.mpr hxs, hrun] at hpassage

/-- A session that is allowed no call and no change is a passage with neither. -/
theorem passage_silent {x : Session σ ε α} {w v : World σ} {result : Except ε α}
    (h : Confined (fun _ => False) (fun _ => ∅) x) (hrun : x.run w = (result, v)) :
    Passage ∅ w [] v :=
  h.passage hrun

end Confined

/-! ### Texts that are saved -/

/-- A text is **saved**: its directory is made if it is missing, and the file is written. -/
def Session.saveText (fault : Path → Fault → ε) (p : Path) (content : String) :
    Session σ ε Unit :=
  match p.parent? with
  | some parent => do
    withFault (fault parent) (makeAll parent)
    withFault (fault p) (writeText p content)
  | none => withFault (fault p) (writeText p content)

section

variable {allowed : Invocation → Prop} {apart : Surroundings → Set Path}
  {fault : Path → Fault → ε} {p : Path} {content : String}

/-- A text that is saved touches the file along its path. -/
theorem Confined.saveText (h : ∀ s, p ∈ apart s) :
    Confined allowed apart (Session.saveText fault p content : Session σ ε Unit) := by
  rw [Session.saveText]
  split
  · exact .bind (.withFault (.makeAll _)) fun _ => .withFault (.writeText h)
  · exact .withFault (.writeText h)

/-- **A text that was saved** is read again along its path, and no other file was touched. -/
theorem Passage.of_saveText {w v : World σ}
    (h : (Session.saveText fault p content).run w = (.ok (), v)) :
    Passage {p} w [] v ∧ w.links.readText v.tree w.around.cwd p = .ok content := by
  have hconfined : Confined (fun _ => False) (fun _ => {p})
      (Session.saveText fault p content : Session σ ε Unit) :=
    .saveText fun _ => Set.mem_singleton _
  have hpassage := hconfined.passage h
  have hwrite : ∀ {u : World σ},
      (Session.withFault (fault p) (Session.writeText p content)).run u = (.ok (), v) →
      v.links.readText v.tree u.around.cwd p = .ok content := fun hrun =>
    Session.readText_of_run_writeText (Session.run_of_run_withFault_eq_ok hrun)
  refine ⟨hpassage, ?_⟩
  rw [← hpassage.links]
  rw [Session.saveText] at h
  split at h
  next parent _ =>
    obtain ⟨_, u, hmake, h⟩ := Session.exists_of_run_bind_eq_ok h
    have hrequested : w.Requested u := by
      have hmade := Session.requested_makeAll parent w
      rwa [Session.run_of_run_withFault_eq_ok hmake] at hmade
    rw [← hrequested.around]
    exact hwrite h
  · exact hwrite h

/-- A text is saved in the place of another one if its directory is there. -/
theorem Session.run_saveText_of_readText {w : World σ} {text : String} (hfree : w.LinkFree)
    (hwhole : w.WritesWhole)
    (hparent : ∀ parent ∈ p.parent?, w.tree.makeAll w.around.cwd parent = ⟨w.tree, none⟩)
    (hread : w.tree.readText w.around.cwd p = .ok text) :
    ∃ v, (Session.saveText fault p content).run w = (.ok (), v) := by
  obtain ⟨t, hwrite⟩ := Tree.writeText_of_readText hread content
  have hrun : (Session.withFault (fault p) (Session.writeText p content)).run w =
      (.ok (), { w with tree := t, shortfalls := w.shortfalls.tail }) := by
    rw [Session.run_withFault, Session.run_writeText_of_writeText hfree hwhole hwrite]
    rfl
  rw [Session.saveText]
  split
  next parent hsome =>
    have hmake : (Session.withFault (fault parent) (Session.makeAll parent)).run w =
        (.ok (), w) := by
      rw [Session.run_withFault, Session.run_makeAll_of_linkFree hfree, hparent parent hsome]
      rfl
    rw [Session.run_bind_of_ok hmake]
    exact ⟨_, hrun⟩
  · exact ⟨_, hrun⟩

/-- **A text that could not be saved** changed no file, if no write falls short. -/
theorem Passage.of_saveText_error {f : ε} {w v : World σ} (hwhole : w.WritesWhole)
    (h : (Session.saveText fault p content).run w = (.error f, v)) : Passage ∅ w [] v := by
  have hmake : ∀ q, Confined (fun _ => False) (fun _ => ∅)
      (Session.withFault (fault q) (Session.makeAll q) : Session σ ε Unit) :=
    fun q => .withFault (.makeAll q)
  have hwrite : ∀ {u : World σ}, u.WritesWhole →
      (Session.withFault (fault p) (Session.writeText p content)).run u = (.error f, v) →
      Passage ∅ u [] v := by
    intro u hwhole hrun
    have hrequested := Session.requested_writeBytes p (Text.encode content) false false u
    have hlinks := Session.links_run_writeBytes p (Text.encode content) false false u
    rw [Session.run_withFault] at hrun
    rcases hwrite : (Session.writeText p content).run u with ⟨cause | _, u'⟩
    · rw [hwrite] at hrun
      obtain rfl : u' = v := (Prod.mk.inj hrun).2
      rw [show (Session.writeBytes p (Text.encode content) false false).run u = _ from hwrite]
        at hrequested hlinks
      refine .of_requested hrequested hlinks ?_
      rw [show u'.tree = u.tree from Session.tree_eq_of_run_writeBytes hwhole hwrite]
      exact .refl _ _
    · rw [hwrite] at hrun
      cases (Prod.mk.inj hrun).1
  rw [Session.saveText] at h
  split at h
  next parent _ =>
    rcases hrun : (Session.withFault (fault parent) (Session.makeAll parent)).run w
      with ⟨f' | _, u⟩
    · rw [Session.run_bind_of_error hrun] at h
      rw [← (Prod.mk.inj h).2]
      exact (hmake parent).passage hrun
    · rw [Session.run_bind_of_ok hrun] at h
      have hmade : Passage ∅ w [] u := (hmake parent).passage hrun
      exact hmade.trans (hwrite (hmade.onward.writesWhole hwhole) h)
  · exact hwrite hwhole h

end

/-! ### Sessions that touch nothing when they fail -/

/-- A session that touches **all or nothing**: if it fails, and no write falls short, it made only
allowed calls and touched no file itself. -/
def AllOrNothing (allowed : Invocation → Prop) (x : Session σ ε α) : Prop :=
  ∀ w f v, w.WritesWhole → x.run w = (.error f, v) →
    ∃ xs, Passage ∅ w xs v ∧ ∀ y ∈ xs, allowed y.invocation

namespace AllOrNothing

variable {allowed : Invocation → Prop} {x : Session σ ε α} {next : α → Session σ ε β}

/-- What a failure is called changes nothing about the files. -/
theorem withFault {g : ε → ε'} (h : AllOrNothing allowed x) :
    AllOrNothing allowed (Session.withFault g x) := by
  intro w f v hwhole hrun
  rw [Session.run_withFault] at hrun
  rcases hx : x.run w with ⟨f' | a, u⟩
  · rw [hx] at hrun
    obtain rfl : u = v := (Prod.mk.inj hrun).2
    exact h w f' u hwhole hx
  · rw [hx] at hrun
    cases (Prod.mk.inj hrun).1

/-- A text is saved as a whole, or not at all if no write falls short. -/
theorem saveText {fault : Path → Fault → ε} {p : Path} {content : String} :
    AllOrNothing allowed (Session.saveText fault p content : Session σ ε Unit) :=
  fun _ _ _ hwhole hrun => ⟨[], Passage.of_saveText_error hwhole hrun, nofun⟩

/-- A part that touches nothing may come **before**. -/
theorem bind (hx : Confined allowed (fun _ => ∅) x) (hnext : ∀ a, AllOrNothing allowed (next a)) :
    AllOrNothing allowed (x >>= next) := by
  intro w f v hwhole hrun
  obtain ⟨xs, hpassage, hxs⟩ := hx w
  rcases hx : x.run w with ⟨f' | a, u⟩
  · rw [Session.run_bind_of_error hx] at hrun
    rw [hx] at hpassage
    obtain rfl : u = v := (Prod.mk.inj hrun).2
    exact ⟨xs, hpassage, hxs⟩
  · rw [Session.run_bind_of_ok hx] at hrun
    rw [hx] at hpassage
    obtain ⟨ys, hrest, hys⟩ := hnext a u f v (hpassage.onward.writesWhole hwhole) hrun
    exact ⟨xs ++ ys, hpassage.trans hrest,
      fun y hy => (List.mem_append.mp hy).elim (hxs y) (hys y)⟩

/-- A part that always succeeds may come **after**. -/
theorem bind_of_ok (hx : AllOrNothing allowed x)
    (hnext : ∀ a w, ∃ b v, (next a).run w = (.ok b, v)) : AllOrNothing allowed (x >>= next) := by
  intro w f v hwhole hrun
  rcases hrest : x.run w with ⟨f' | a, u⟩
  · rw [Session.run_bind_of_error hrest] at hrun
    obtain rfl : u = v := (Prod.mk.inj hrun).2
    exact hx w f' u hwhole hrest
  · obtain ⟨b, v', hok⟩ := hnext a u
    rw [Session.run_bind_of_ok hrest, hok] at hrun
    cases (Prod.mk.inj hrun).1

end AllOrNothing

end GeoBench.Machine
