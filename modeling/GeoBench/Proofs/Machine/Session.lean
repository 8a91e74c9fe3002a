import GeoBench.Machine.World
import Mathlib.Tactic.Common

/-!
# Runs of sessions

What each part of a session does to the world it runs in, so that no proof about a session has to
look into its monad. A part that only lets something happen takes a world `w` to `w.note es`, the
same world with the events `es` behind the earlier ones.

The **paces** of a session are its waits and its calls: what is left of its events when the texts
that came out are left aside.

## Worlds onward

No part of a session makes a link, and the shortfalls that are to come are used up from the first
one on: a world is **onward** from another one if it has no links but those of the other one, and
its shortfalls are the last ones of the other. What is assumed of a world once, that it has no links
or that no write falls short, therefore holds in every world onward from it.

## Main results

* `calls_append`, `paces_append` — calls and paces of a longer record.
* `Session.run_bind_of_ok` — what follows a part that succeeded runs in the world it left.
* `Session.events_afterCall` — a call is recorded behind the texts that came out meanwhile.
* `World.Onward.linkFree`, `World.Onward.writesWhole` — what is assumed once is assumed for good.
-/

namespace GeoBench.Machine

variable {σ ε ε' α β : Type}

/-! ### Records -/

/-- A call that failed did not succeed. -/
theorem Exchange.not_succeeded_of_error {x : Exchange} {e : CallFault} (h : x.reply = .error e) :
    ¬ x.succeeded := by
  rintro ⟨text, htext⟩
  rw [h] at htext
  cases htext

/-- If all calls but the last one succeeded, one that did not is the last one. -/
theorem Exchange.eq_last_of_not_succeeded {done : List Exchange} {x y : Exchange}
    (hdone : ∀ z ∈ done, z.succeeded) (hy : y ∈ done ++ [x]) (hfailed : ¬ y.succeeded) : y = x := by
  rcases List.mem_append.mp hy with hy | hy
  · exact absurd (hdone y hy) hfailed
  · exact List.mem_singleton.mp hy

/-- The same world after some more **events**. -/
def World.note (w : World σ) (es : List Event) : World σ :=
  { w with past := es.reverse ++ w.past }

namespace World

/-- Notes one after the other are one note. -/
@[simp] theorem note_note (w : World σ) (es fs : List Event) :
    (w.note es).note fs = w.note (es ++ fs) := by
  simp [note]

/-- A note leaves the tree as it is. -/
@[simp] theorem tree_note (w : World σ) (es : List Event) : (w.note es).tree = w.tree := rfl

/-- A note leaves the state of the runner as it is. -/
@[simp] theorem runnerState_note (w : World σ) (es : List Event) :
    (w.note es).runnerState = w.runnerState := rfl

/-- The events noted come behind the earlier ones. -/
@[simp] theorem events_note (w : World σ) (es : List Event) :
    (w.note es).events = w.events ++ es := by
  simp [note, events]

end World

namespace World

variable {u v w : World σ}

/-- A world **onward** from another one: no link was made, and the shortfalls that are left are the
last ones. -/
structure Onward (w v : World σ) : Prop where
  links : v.links ⊆ w.links
  shortfalls : v.shortfalls <:+ w.shortfalls

namespace Onward

/-- A world comes from itself. -/
theorem refl (w : World σ) : w.Onward w :=
  ⟨List.Subset.refl _, List.suffix_rfl⟩

/-- One stretch of time after another. -/
theorem trans (h : w.Onward u) (h' : u.Onward v) : w.Onward v :=
  ⟨List.Subset.trans h'.links h.links, h'.shortfalls.trans h.shortfalls⟩

/-- A world **without links** stays without. -/
theorem linkFree (h : w.Onward v) (hfree : w.LinkFree) : v.LinkFree := by
  have hlinks := h.links
  rw [show w.links = [] from hfree] at hlinks
  exact List.subset_nil.mp hlinks

/-- Where **no write falls short**, none will. -/
theorem writesWhole (h : w.Onward v) (hwhole : w.WritesWhole) : v.WritesWhole :=
  fun entry hentry => hwhole entry (h.shortfalls.subset hentry)

end Onward

/-- Where no write falls short, nothing stops the next one. -/
theorem WritesWhole.shortfall?_eq_none (h : w.WritesWhole) (content : ByteArray) :
    w.shortfall? content = none := by
  rw [shortfall?]
  cases hnext : w.shortfalls.head? with
  | none => rfl
  | some entry =>
      rw [h entry (List.mem_of_head? hnext)]
      rfl

/-- From one world to another **files are requested**, and nothing else happens. -/
structure Requested (w v : World σ) : Prop where
  around : v.around = w.around
  past : v.past = w.past
  onward : w.Onward v

namespace Requested

/-- Nothing need be asked for. -/
theorem refl (w : World σ) : w.Requested w :=
  ⟨rfl, rfl, .refl w⟩

/-- One request after another. -/
theorem trans (h : w.Requested u) (h' : u.Requested v) : w.Requested v :=
  ⟨h'.around.trans h.around, h'.past.trans h.past, h.onward.trans h'.onward⟩

/-- Requests are not recorded. -/
theorem events (h : w.Requested v) : v.events = w.events := by
  rw [World.events, h.past, World.events]

end Requested

end World

/-- Whether an event is a wait or a call. -/
def Event.isPace : Event → Bool
  | .said _ => false
  | _ => true

/-- The waits and the calls among some events, in order. -/
def paces (events : List Event) : List Event :=
  events.filter Event.isPace

/-- Nothing happened, so nothing was called. -/
@[simp] theorem calls_nil : calls [] = [] := rfl

/-- A call is told. -/
@[simp] theorem calls_called (x : Exchange) (es : List Event) :
    calls (.called x :: es) = x :: calls es := rfl

/-- A wait is no call. -/
@[simp] theorem calls_waited (n : Nat) (message : String) (es : List Event) :
    calls (.waited n message :: es) = calls es := rfl

/-- A line is no call. -/
@[simp] theorem calls_said (u : Utterance) (es : List Event) :
    calls (.said u :: es) = calls es := rfl

/-- The calls of what happened one after the other. -/
@[simp] theorem calls_append (es fs : List Event) : calls (es ++ fs) = calls es ++ calls fs :=
  List.filterMap_append

/-- Texts that come out are no calls. -/
@[simp] theorem calls_map_said (us : List Utterance) : calls (us.map .said) = [] := by
  induction us with
  | nil => rfl
  | cons u us ih => rw [List.map_cons, calls_said, ih]

/-- A call and the texts that came out meanwhile are one call. -/
theorem calls_map_said_called (us : List Utterance) (x : Exchange) :
    calls (us.map .said ++ [.called x]) = [x] := by
  rw [calls_append, calls_map_said, calls_called, calls_nil, List.nil_append]

/-- A call among some events is one of them. -/
theorem mem_of_mem_calls {x : Exchange} {es : List Event} (h : x ∈ calls es) :
    .called x ∈ es := by
  obtain ⟨e, he, hx⟩ := List.mem_filterMap.mp h
  cases e with
  | called y => rwa [← Option.some.inj hx]
  | waited | said => cases hx

/-- Nothing happened. -/
@[simp] theorem paces_nil : paces [] = [] := rfl

/-- A call is a pace. -/
@[simp] theorem paces_called (x : Exchange) (es : List Event) :
    paces (.called x :: es) = .called x :: paces es := rfl

/-- A wait is a pace. -/
@[simp] theorem paces_waited (n : Nat) (message : String) (es : List Event) :
    paces (.waited n message :: es) = .waited n message :: paces es := rfl

/-- A line is none. -/
@[simp] theorem paces_said (u : Utterance) (es : List Event) :
    paces (.said u :: es) = paces es := rfl

/-- The paces of what happened one after the other. -/
@[simp] theorem paces_append (es fs : List Event) : paces (es ++ fs) = paces es ++ paces fs :=
  List.filter_append es fs

/-- Texts that come out are no paces. -/
@[simp] theorem paces_map_said (us : List Utterance) : paces (us.map .said) = [] := by
  induction us with
  | nil => rfl
  | cons u us ih => rw [List.map_cons, paces_said, ih]

/-- If two lists show the same, each member of one shows what some member of the other shows. -/
theorem exists_mem_of_map_eq_map {γ : Type} {f : α → γ} {g : β → γ} {xs : List α} {ys : List β}
    (h : xs.map f = ys.map g) {x : α} (hx : x ∈ xs) : ∃ y ∈ ys, g y = f x := by
  have hmem : f x ∈ xs.map f := List.mem_map_of_mem hx
  rw [h] at hmem
  exact List.mem_map.mp hmem

/-- What stands once in a list, at its end, has nothing behind it. -/
theorem eq_last_of_notMem {l before after : List α} {a x : α}
    (h : l ++ [a] = before ++ x :: after) (hx : x ∉ l) : before = l ∧ x = a ∧ after = [] := by
  rcases List.eq_nil_or_concat after with rfl | ⟨init, last, rfl⟩
  · obtain ⟨rfl, hlast⟩ := List.append_inj' h rfl
    exact ⟨rfl, (List.cons.inj hlast).1.symm, rfl⟩
  · have hinit : l = before ++ x :: init := by
      rw [List.concat_eq_append, ← List.cons_append, ← List.append_assoc] at h
      exact (List.append_inj' h rfl).1
    refine absurd ?_ hx
    rw [hinit]
    exact List.mem_append_right _ List.mem_cons_self

namespace Session

/-! ### Composition -/

/-- A value that is given back leaves the world as it is. -/
@[simp] theorem run_pure (a : α) (w : World σ) :
    (pure a : Session σ ε α).run w = (.ok a, w) := rfl

/-- What follows a part that succeeded runs in the world it left. -/
theorem run_bind_of_ok {x : Session σ ε α} {w w' : World σ} {a : α}
    (h : x.run w = (.ok a, w')) (next : α → Session σ ε β) :
    (x >>= next).run w = (next a).run w' := by
  show (match x.run w with | (r, v) => ExceptT.bindCont next r v) = _
  rw [h]
  rfl

/-- A bind runs its first part and, if that succeeded, its second part in the world left. -/
theorem run_bind (x : Session σ ε α) (next : α → Session σ ε β) (w : World σ) :
    (x >>= next).run w =
      match x.run w with
      | (.ok a, w') => (next a).run w'
      | (.error fault, w') => (.error fault, w') := by
  rcases h : x.run w with ⟨fault | a, w'⟩
  · exact run_bind_of_error h next
  · exact run_bind_of_ok h next

/-- A bind that succeeded did so in both of its parts. -/
theorem exists_of_run_bind_eq_ok {x : Session σ ε α} {next : α → Session σ ε β} {w v : World σ}
    {b : β} (h : (x >>= next).run w = (.ok b, v)) :
    ∃ a u, x.run w = (.ok a, u) ∧ (next a).run u = (.ok b, v) := by
  rcases hrun : x.run w with ⟨fault | a, u⟩
  · rw [run_bind_of_error hrun] at h
    cases (Prod.mk.inj h).1
  · rw [run_bind_of_ok hrun] at h
    exact ⟨a, u, rfl, h⟩

/-- A part that succeeded with its failure seen as another one succeeded as it is. -/
theorem run_of_run_withFault_eq_ok {f : ε → ε'} {x : Session σ ε α} {w v : World σ} {a : α}
    (h : (withFault f x).run w = (.ok a, v)) : x.run w = (.ok a, v) := by
  rw [run_withFault] at h
  rcases hrun : x.run w with ⟨fault | b, u⟩
  · rw [hrun] at h
    cases (Prod.mk.inj h).1
  · rw [hrun] at h
    obtain ⟨hresult, rfl⟩ := Prod.mk.inj h
    obtain rfl : b = a := Except.ok.inj hresult
    rfl

/-- A part whose failure is caught: what is done about it runs in the world that the part left. -/
theorem run_tryCatch (x : Session σ ε α) (handle : ε → Session σ ε α) (w : World σ) :
    (tryCatch x handle).run w =
      match x.run w with
      | (.ok a, w') => (.ok a, w')
      | (.error fault, w') => (handle fault).run w' := by
  show (match x.run w with | (r, v) => ((match r with
    | .ok a => Pure.pure (.ok a)
    | .error fault => (handle fault).run : StateM (World σ) (Except ε α)) v)) = _
  rcases x.run w with ⟨fault | a, w'⟩ <;> rfl

/-! ### Parts that always succeed -/

/-- A line of the log is noted. -/
@[simp] theorem run_log (level : Level) (message : String) (w : World σ) :
    (log level message : Session σ ε Unit).run w =
      (.ok (), w.note [.logged level message]) := rfl

/-- A line on what is going on is noted. -/
@[simp] theorem run_info (message : String) (w : World σ) :
    (info message : Session σ ε Unit).run w = (.ok (), w.note [.logged .info message]) := rfl

/-- A line on the console is noted, with its end. -/
@[simp] theorem run_printLine (text : String) (w : World σ) :
    (printLine text : Session σ ε Unit).run w = (.ok (), w.note [.printed (text ++ "\n")]) := rfl

/-- A wait is recorded before what its pacer lets be known. -/
@[simp] theorem run_wait (pacer : Pacer) (n : Nat) (message : String) (w : World σ) :
    (wait pacer n message : Session σ ε Unit).run w =
      (.ok (), w.note (.waited n message :: (pacer.announce n message).map .said)) := by
  show (Except.ok (), _) = (Except.ok (), _)
  simp [World.note]

/-- A look at the surroundings changes nothing. -/
@[simp] theorem run_around (w : World σ) :
    (around : Session σ ε Surroundings).run w = (.ok w.around, w) := rfl

/-- A question is answered from the links, the tree and the working directory. -/
@[simp] theorem run_ask (question : Links → Tree → Place → α) (w : World σ) :
    (ask question : Session σ ε α).run w = (.ok (question w.links w.tree w.around.cwd), w) := rfl

/-- A result that is at hand is given as it is. -/
@[simp] theorem run_ofExcept (x : Except ε α) (w : World σ) :
    (ofExcept x : Session σ ε α).run w = (x, w) := rfl

/-! ### Changes of the file tree -/

/-- A request that is granted leaves the tree that it asks for. -/
theorem run_change_of_ok {request : Tree → Place → Except Fault Tree} {w : World σ} {t : Tree}
    (h : request w.tree w.around.cwd = .ok t) :
    (change request).run w = (.ok (), { w with tree := t }) := by
  simp only [change, ExceptT.run, ExceptT.mk, h]

/-- A change that is refused leaves the world as it is. -/
theorem run_change_of_error {request : Tree → Place → Except Fault Tree} {w : World σ}
    {fault : Fault} (h : request w.tree w.around.cwd = .error fault) :
    (change request).run w = (.error fault, w) := by
  simp only [change, ExceptT.run, ExceptT.mk, h]

/-- A text is read from where the links lead. -/
theorem run_readText (p : Path) (w : World σ) :
    (readText p).run w = (w.links.readText w.tree w.around.cwd p, w) := rfl

/-- Where no place is a link, a text is read from the tree. -/
theorem run_readText_of_linkFree {w : World σ} (h : w.LinkFree) (p : Path) :
    (readText p).run w = (w.tree.readText w.around.cwd p, w) := by
  rw [run_readText, show w.links = [] from h, Links.readText_nil]

/-- The way around the links changes nothing. -/
theorem run_reach (p : Path) (w : World σ) :
    (reach p).run w = (w.links.follow w.tree w.around.cwd true p, w) := rfl

/-! ### Calls -/

/-- The world that a call **leaves**. -/
def afterCall (runner : Runner σ) (mode : Mode) (i : Invocation) (w : World σ) : World σ :=
  ((perform runner mode i).run w).2

/-- What a call **adds** to the record. -/
def exchangeOf (runner : Runner σ) (mode : Mode) (i : Invocation) (w : World σ) : Exchange :=
  ⟨mode, i, ((perform runner mode i).run w).1, w.tree, (afterCall runner mode i w).tree⟩

/-- A call gives the reply of its exchange. -/
theorem run_perform (runner : Runner σ) (mode : Mode) (i : Invocation) (w : World σ) :
    (perform runner mode i).run w =
      ((exchangeOf runner mode i w).reply, afterCall runner mode i w) := rfl

/-- A call is recorded behind the texts that came out meanwhile. -/
theorem events_afterCall (runner : Runner σ) (mode : Mode) (i : Invocation) (w : World σ) :
    ∃ said : List Utterance, (afterCall runner mode i w).events =
      w.events ++ (said.map .said ++ [.called (exchangeOf runner mode i w)]) :=
  ⟨_, events_perform runner mode i w⟩

end Session

end GeoBench.Machine
