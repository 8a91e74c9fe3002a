import GeoBench.Proofs.Machine.Requests

/-!
# Sessions that stop at their first failed call

A session **fails fast** if a failed call is the last thing that happens in it: nothing is called,
waited for, logged or written after it, the file tree stays as the call left it, and the session
fails with a fault that names the fault of the call as its source.

Which fault has which source is a parameter, so that each part of a session can be judged by its own
kind of faults. The rules below follow the way in which sessions are put together: a session whose
parts fail fast does so itself.

## Main results

* `Orderly.last_of_failed` — nothing follows a failed call, and the run fails for it.
* `FailFast.perform` — a call is a session that fails fast.
* `FailFast.bind` — one part after another.
* `FailFast.withFault` — a part with its failure seen as another one.
* `FailFast.forM`, `FailFast.mapM` — a part for each member of a list.
-/

namespace GeoBench.Machine

variable {σ ε ε' α β : Type}

/-- How a run **ends** that stops at its first failed call. -/
inductive Orderly (source : ε → Option CallFault) (w w' : World σ) (result : Except ε α) : Prop
  /-- Every call succeeded, and no fault has a call as its source. -/
  | undisturbed (new : List Event) (hevents : w'.events = w.events ++ new)
      (hcalls : ∀ x ∈ calls new, x.succeeded)
      (hresult : ∀ f, result = .error f → source f = none)
  /-- The last thing that happened is a call that failed, the first one that did. -/
  | cut (before : List Event) (x : Exchange) (e : CallFault) (f : ε)
      (hevents : w'.events = w.events ++ (before ++ [.called x]))
      (hcalls : ∀ y ∈ calls before, y.succeeded) (hreply : x.reply = .error e)
      (htree : w'.tree = x.left) (hresult : result = .error f) (hsource : source f = some e)

namespace Orderly

variable {source : ε → Option CallFault} {w w' : World σ} {result : Except ε α}

/-- Such a run only adds to the record. -/
theorem exists_events (h : Orderly source w w' result) : ∃ new, w'.events = w.events ++ new := by
  cases h with
  | undisturbed new hevents => exact ⟨new, hevents⟩
  | cut before x _ _ hevents => exact ⟨before ++ [.called x], hevents⟩

/-- If the run succeeded, so did every call. -/
theorem succeeded_of_ok (h : Orderly source w w' result) {new : List Event}
    (hnew : w'.events = w.events ++ new) {a : α} (ha : result = .ok a) :
    ∀ x ∈ calls new, x.succeeded := by
  cases h with
  | undisturbed new' hevents hcalls =>
      obtain rfl : new' = new := List.append_cancel_left (hevents.symm.trans hnew)
      exact hcalls
  | cut _ _ _ f _ _ _ _ hresult =>
      rw [ha] at hresult
      cases hresult

/-- Nothing follows a failed call, wherever it is in the record, and the run fails for it. -/
theorem last_of_failed (h : Orderly source w w' result) {before after : List Event} {x : Exchange}
    (hnew : w'.events = w.events ++ (before ++ .called x :: after)) {e : CallFault}
    (he : x.reply = .error e) :
    after = [] ∧ w'.tree = x.left ∧ ∃ f, result = .error f ∧ source f = some e := by
  have hmem : x ∈ calls (before ++ .called x :: after) := by
    rw [calls_append, calls_called]
    exact List.mem_append_right _ List.mem_cons_self
  cases h with
  | undisturbed new hevents hcalls =>
      obtain rfl : new = _ := List.append_cancel_left (hevents.symm.trans hnew)
      exact absurd (hcalls x hmem) (Exchange.not_succeeded_of_error he)
  | cut before' y e' f hevents hcalls hreply htree hresult hsource =>
      have hsplit := List.append_cancel_left (hevents.symm.trans hnew)
      have hnot : .called x ∉ before' := by
        -- the calls before the last one succeeded
        intro hin
        exact Exchange.not_succeeded_of_error he (hcalls x (List.mem_filterMap.mpr ⟨_, hin, rfl⟩))
      obtain ⟨rfl, hlast, rfl⟩ := eq_last_of_notMem hsplit hnot
      obtain rfl : x = y := Event.called.inj hlast
      obtain rfl : e' = e := Except.error.inj (hreply.symm.trans he)
      exact ⟨rfl, htree, f, hresult, hsource⟩

end Orderly

/-- A session that **fails fast**, from every world. -/
def FailFast (source : ε → Option CallFault) (x : Session σ ε α) : Prop :=
  ∀ w, Orderly source w (x.run w).2 (x.run w).1

namespace FailFast

variable {source : ε → Option CallFault}

/-! ### Parts without calls -/

/-- A part that notes events other than calls, and has no failed call to tell of. -/
theorem of_run {x : Session σ ε α}
    (h : ∀ w, ∃ new, (x.run w).2.events = w.events ++ new ∧ calls new = [] ∧
      ∀ f, (x.run w).1 = .error f → source f = none) : FailFast source x := by
  intro w
  obtain ⟨new, hevents, hcalls, hresult⟩ := h w
  refine .undisturbed new hevents ?_ hresult
  rw [hcalls]
  exact fun x hx => absurd hx List.not_mem_nil

/-- A part that only notes something other than a call. -/
theorem of_note {x : Session σ ε α} {a : World σ → α} (es : List Event) (hcalls : calls es = [])
    (h : ∀ w, x.run w = (.ok (a w), w.note es)) : FailFast source x := by
  refine of_run fun w => ⟨es, ?_, hcalls, ?_⟩
  · rw [h w]
    exact World.events_note w es
  · intro f hf
    rw [h w] at hf
    cases hf

/-- A value that is given back makes no call. -/
theorem pure (a : α) : FailFast source (Pure.pure a : Session σ ε α) :=
  of_note [] rfl (Session.run_pure a)

/-- A fault that is thrown has no call as its source, and what follows it does not run. -/
theorem throw_bind {fault : ε} (h : source fault = none) (next : β → Session σ ε α) :
    FailFast source (MonadExcept.throw fault >>= next) := by
  refine of_run fun w => ⟨[], (List.append_nil w.events).symm, rfl, fun f hf => ?_⟩
  obtain rfl : fault = f := Except.error.inj hf
  exact h

/-- A failure that is owed to no call may come at any time. -/
theorem throw {fault : ε} (h : source fault = none) :
    FailFast source (MonadExcept.throw fault : Session σ ε α) :=
  throw_bind h Pure.pure

/-- A line of the log. -/
theorem log (level : Level) (message : String) :
    FailFast source (Session.log level message : Session σ ε Unit) :=
  of_note _ (calls_said _ _) (Session.run_log level message)

/-- A line on what is going on. -/
theorem info (message : String) : FailFast source (Session.info message : Session σ ε Unit) :=
  log .info message

/-- A line on details. -/
theorem debug (message : String) : FailFast source (Session.debug message : Session σ ε Unit) :=
  log .debug message

/-- A line on the console. -/
theorem printLine (text : String) :
    FailFast source (Session.printLine text : Session σ ε Unit) :=
  of_note _ (calls_said _ _) (Session.run_printLine text)

/-- Time that passes. -/
theorem wait (pacer : Pacer) (n : Nat) (message : String) :
    FailFast source (Session.wait pacer n message : Session σ ε Unit) := by
  refine of_note _ ?_ (Session.run_wait pacer n message)
  rw [calls_waited, calls_map_said]

/-- A look at the surroundings. -/
theorem around : FailFast source (Session.around : Session σ ε Surroundings) :=
  of_note [] rfl Session.run_around

/-- A question about the files. -/
theorem ask (question : Links → Tree → Place → α) :
    FailFast source (Session.ask question : Session σ ε α) :=
  of_note [] rfl (Session.run_ask question)

/-- Whether a path leads to a file. -/
theorem isFile (p : Path) : FailFast source (Session.isFile p : Session σ ε Bool) :=
  ask _

/-- Whether a path leads anywhere. -/
theorem existsAt (p : Path) : FailFast source (Session.existsAt p : Session σ ε Bool) :=
  ask _

/-- A result that is there already. -/
theorem ofExcept (x : Except ε α) :
    FailFast (fun _ => none) (Session.ofExcept x : Session σ ε α) :=
  of_run fun w => ⟨[], (List.append_nil w.events).symm, rfl, fun _ _ => rfl⟩

/-- A request of files is no event. -/
theorem of_requested {x : Session σ Fault α} (h : ∀ w : World σ, w.Requested (x.run w).2) :
    FailFast (fun _ => none) x :=
  of_run fun w => ⟨[], (h w).events.trans (List.append_nil _).symm, rfl, fun _ _ => rfl⟩

/-- A text that is read. -/
theorem readText (p : Path) : FailFast (fun _ => none) (Session.readText p : Session σ _ _) :=
  of_requested World.Requested.refl

/-- A text that is written. -/
theorem writeText (p : Path) (content : String) :
    FailFast (fun _ => none) (Session.writeText p content : Session σ Fault Unit) :=
  of_requested (Session.requested_writeBytes _ _ _ _)

/-- A file that is copied. -/
theorem copyFile (source destination : Path) :
    FailFast (fun _ => none) (Session.copyFile source destination : Session σ Fault Unit) :=
  of_requested (Session.requested_copyFile _ _)

/-- Directories that are made. -/
theorem makeAll (p : Path) :
    FailFast (fun _ => none) (Session.makeAll p : Session σ Fault Unit) :=
  of_requested (Session.requested_makeAll p)

/-- A directory that is removed. -/
theorem removeDirectory (p : Path) :
    FailFast (fun _ => none) (Session.removeDirectory p : Session σ Fault Unit) :=
  of_requested (Session.requested_removeDirectory p)

/-! ### Calls -/

/-- A **call** is its own source if it fails, and then the last thing that happened. -/
theorem perform (runner : Runner σ) (mode : Mode) (i : Invocation) :
    FailFast some (Session.perform runner mode i) := by
  intro w
  obtain ⟨said, hevents⟩ := Session.events_afterCall runner mode i w
  rw [Session.run_perform]
  cases hreply : (Session.exchangeOf runner mode i w).reply with
  | ok text =>
      refine .undisturbed _ hevents ?_ nofun
      rw [calls_append, calls_map_said, calls_called, calls_nil, List.nil_append]
      intro x hx
      obtain rfl := List.mem_singleton.mp hx
      exact ⟨text, hreply⟩
  | error e =>
      refine .cut (said.map .said) _ e e hevents ?_ hreply rfl rfl rfl
      rw [calls_map_said]
      exact fun x hx => absurd hx List.not_mem_nil

/-! ### Composition -/

/-- **One part after another.** The second part runs only if the first one succeeded, so it begins
when every call so far succeeded. -/
theorem bind {x : Session σ ε α} {next : α → Session σ ε β} (hx : FailFast source x)
    (hnext : ∀ a, FailFast source (next a)) : FailFast source (x >>= next) := by
  intro w
  rcases hrun : x.run w with ⟨fault | a, w'⟩
  · rw [Session.run_bind_of_error hrun]
    have h := hx w
    rw [hrun] at h
    cases h with
    | undisturbed new hevents hcalls hresult =>
        refine .undisturbed new hevents hcalls fun f hf => hresult f ?_
        rw [Except.error.inj hf]
    | cut before y e f hevents hcalls hreply htree hresult hsource =>
        refine .cut before y e f hevents hcalls hreply htree ?_ hsource
        rw [Except.error.inj hresult]
  · rw [Session.run_bind_of_ok hrun]
    have h := hx w
    rw [hrun] at h
    cases h with
    | cut before y e f hevents hcalls hreply htree hresult hsource => cases hresult
    | undisturbed new hevents hcalls hresult =>
        cases hnext a w' with
        | undisturbed more hmore hcalls' hresult' =>
            refine .undisturbed (new ++ more) ?_ ?_ hresult'
            · rw [hmore, hevents, List.append_assoc]
            · intro y hy
              rw [calls_append] at hy
              exact (List.mem_append.mp hy).elim (hcalls y) (hcalls' y)
        | cut before y e f hmore hcalls' hreply htree hresult' hsource =>
            refine .cut (new ++ before) y e f ?_ ?_ hreply htree hresult' hsource
            · rw [hmore, hevents, List.append_assoc, List.append_assoc]
            · intro z hz
              rw [calls_append] at hz
              exact (List.mem_append.mp hz).elim (hcalls z) (hcalls' z)

/-- **A part with its failure seen as another one**, if that keeps the source. -/
theorem withFault {source' : ε' → Option CallFault} {f : ε → ε'} {x : Session σ ε α}
    (hf : ∀ fault, source' (f fault) = source fault) (hx : FailFast source x) :
    FailFast source' (Session.withFault f x) := by
  intro w
  rw [Session.run_withFault]
  cases hx w with
  | undisturbed new hevents hcalls hresult =>
      refine .undisturbed new hevents hcalls fun fault' hfault' => ?_
      cases hr : (x.run w).1 with
      | ok a =>
          rw [hr] at hfault'
          cases hfault'
      | error fault =>
          rw [hr] at hfault'
          obtain rfl : f fault = fault' := Except.error.inj hfault'
          rw [hf, hresult fault hr]
  | cut before y e fault hevents hcalls hreply htree hresult hsource =>
      refine .cut before y e (f fault) hevents hcalls hreply htree ?_ ((hf fault).trans hsource)
      rw [hresult]
      rfl

/-- A part for each member of a list, in order. -/
theorem forM {l : List α} {f : α → Session σ ε PUnit} (hf : ∀ a, FailFast source (f a)) :
    FailFast source (l.forM f) := by
  induction l with
  | nil => exact pure _
  | cons a l ih =>
      show FailFast source (f a >>= fun _ => l.forM f)
      exact bind (hf a) fun _ => ih

/-- A part for each member of a list, in order, with their results. -/
theorem mapM {l : List α} {f : α → Session σ ε β} (hf : ∀ a, FailFast source (f a)) :
    FailFast source (l.mapM f) := by
  induction l with
  | nil =>
      rw [List.mapM_nil]
      exact pure _
  | cons a l ih =>
      rw [List.mapM_cons]
      exact bind (hf a) fun _ => bind ih fun _ => pure _

end FailFast

end GeoBench.Machine
