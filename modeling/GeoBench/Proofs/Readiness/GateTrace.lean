import GeoBench.Proofs.Readiness.PollTrace

/-!
# The calls of a gate

A gate that is waited for calls its status command again and again. This module tells which calls
these are for every runner, whose answers may depend on all that happened before: every answer but
the last one has a count other than the target, and the last one decides how the gate ends.

## Any runner

A runner may answer by what it was asked before, by the file tree, or by a state of its own. So the
answers of a gate are not a sequence that is given in advance, and the calls of a gate are told
together with what each one was answered: all but the last were counted and missed the target. The
induction is on the checks that are left, with one status more in front of the others
(`Watched.cons`).

## Main results

* `Gate.watched_await` — the calls and the end of a gate that is waited for.
-/

namespace GeoBench.Readiness

open GeoBench.Machine

variable {σ : Type}

/-- What happens in a cycle up to its probe is no call. -/
theorem calls_opening_eq_nil (dimension : Dimension) (limits : Limits) (pacer : Pacer)
    (left : Nat) : calls (opening dimension limits pacer left) = [] := by
  simp only [opening, detailed, List.cons_append, calls_said, calls_waited, calls_append,
    calls_map_said, calls_nil, List.append_nil]

namespace Gate

/-- An exchange in which a gate **asks** for its status. -/
def Asks (g : Gate) (x : Exchange) : Prop :=
  x.mode = .output ∧ x.invocation = g.status

/-- An exchange in which a gate is told a listing with some **count**. -/
def Counts (g : Gate) (n : Nat) (x : Exchange) : Prop :=
  g.Asks x ∧ ∃ text, x.reply = .ok text ∧ countMatching text g.token = n

/-- An exchange that does not open a gate: it is told another count. -/
def Misses (g : Gate) (x : Exchange) : Prop :=
  ∃ n, g.Counts n x ∧ n ≠ g.target

/-- The calls of a gate that may make some **checks**, and how it ends. -/
inductive Watched (g : Gate) (checks budget : Nat) (statuses : List Exchange) :
    Except PollFault Outcome → Prop
  /-- The last status has the right count. -/
  | passed (missed : List Exchange) (x : Exchange) (outcome : Outcome)
      (hcalls : statuses = missed ++ [x]) (hmissed : ∀ y ∈ missed, g.Misses y)
      (hx : g.Counts g.target x) : Watched g checks budget statuses (.ok outcome)
  /-- The last status could not be had. -/
  | failed (missed : List Exchange) (x : Exchange) (e : CallFault)
      (hcalls : statuses = missed ++ [x]) (hmissed : ∀ y ∈ missed, g.Misses y)
      (hx : g.Asks x) (hreply : x.reply = .error e) :
      Watched g checks budget statuses (.error (.noStatus g.dimension e))
  /-- Every check was made, and none found the right count. -/
  | timedOut (missed : List Exchange) (x : Exchange) (actual : Nat)
      (hcalls : statuses = missed ++ [x]) (hmissed : ∀ y ∈ missed, g.Misses y)
      (hx : g.Counts actual x) (hactual : actual ≠ g.target)
      (hchecks : statuses.length = checks) :
      Watched g checks budget statuses (.error (.timeout g.dimension g.target actual budget))

/-- One more status in front of the others, with another count. -/
theorem Watched.cons {g : Gate} {checks budget : Nat} {statuses : List Exchange}
    {result : Except PollFault Outcome} {x : Exchange} (hx : g.Misses x)
    (h : g.Watched checks budget statuses result) :
    g.Watched (checks + 1) budget (x :: statuses) result := by
  have hall : ∀ {missed : List Exchange}, (∀ y ∈ missed, g.Misses y) →
      ∀ y ∈ x :: missed, g.Misses y := by
    intro missed hmissed y hy
    rcases List.mem_cons.mp hy with rfl | hy
    · exact hx
    · exact hmissed y hy
  cases h with
  | passed missed y outcome hcalls hmissed hy =>
      exact .passed (x :: missed) y outcome (by rw [hcalls, List.cons_append]) (hall hmissed) hy
  | failed missed y e hcalls hmissed hy hreply =>
      exact .failed (x :: missed) y e (by rw [hcalls, List.cons_append]) (hall hmissed) hy hreply
  | timedOut missed y actual hcalls hmissed hy hactual hchecks =>
      exact .timedOut (x :: missed) y actual (by rw [hcalls, List.cons_append]) (hall hmissed) hy
        hactual (by rw [List.length_cons, hchecks])

/-- A count is told by a call that succeeded. -/
theorem Counts.succeeded {g : Gate} {n : Nat} {x : Exchange} (h : g.Counts n x) : x.succeeded := by
  obtain ⟨-, text, htext, -⟩ := h
  exact ⟨text, htext⟩

/-- Every call of a gate asks for its status. -/
theorem Watched.asks {g : Gate} {checks budget : Nat} {statuses : List Exchange}
    {result : Except PollFault Outcome} (h : g.Watched checks budget statuses result) :
    ∀ x ∈ statuses, g.Asks x := by
  have hall : ∀ {missed : List Exchange} {y : Exchange}, statuses = missed ++ [y] →
      (∀ z ∈ missed, g.Misses z) → g.Asks y → ∀ x ∈ statuses, g.Asks x := by
    intro missed y hcalls hmissed hy x hx
    rw [hcalls] at hx
    rcases List.mem_append.mp hx with hx | hx
    · obtain ⟨n, hcounts, -⟩ := hmissed x hx
      exact hcounts.1
    · rw [List.mem_singleton.mp hx]
      exact hy
  cases h with
  | passed missed y outcome hcalls hmissed hy => exact hall hcalls hmissed hy.1
  | failed missed y e hcalls hmissed hy => exact hall hcalls hmissed hy
  | timedOut missed y actual hcalls hmissed hy => exact hall hcalls hmissed hy.1

/-- A gate ends with the first status that cannot be had. -/
theorem Watched.eq_of_error {g : Gate} {checks budget : Nat} {statuses : List Exchange}
    {result : Except PollFault Outcome} (h : g.Watched checks budget statuses result)
    {x : Exchange} (hx : x ∈ statuses) {e : CallFault} (he : x.reply = .error e) :
    result = .error (.noStatus g.dimension e) := by
  have hnot : ¬ x.succeeded := Exchange.not_succeeded_of_error he
  have hlast : ∀ {missed : List Exchange} {y : Exchange}, statuses = missed ++ [y] →
      (∀ z ∈ missed, g.Misses z) → x = y := by
    intro missed y hcalls hmissed
    rw [hcalls] at hx
    refine Exchange.eq_last_of_not_succeeded (fun z hz => ?_) hx hnot
    obtain ⟨n, hcounts, -⟩ := hmissed z hz
    exact hcounts.succeeded
  cases h with
  | passed missed y outcome hcalls hmissed hy =>
      obtain rfl := hlast hcalls hmissed
      exact absurd hy.succeeded hnot
  | failed missed y e' hcalls hmissed hy hreply =>
      obtain rfl := hlast hcalls hmissed
      rw [Except.error.inj (hreply.symm.trans he)]
  | timedOut missed y actual hcalls hmissed hy =>
      obtain rfl := hlast hcalls hmissed
      exact absurd hy.succeeded hnot

/-! ### Every runner -/

section

variable (g : Gate) (limits : Limits) (pacer : Pacer) (runner : Runner σ)

/-- The probe of a gate is a call of its status command, and counts. -/
def probe : Session σ CallFault Nat := do
  return (← g.check runner).actual

/-- A probe asks for the status once, and gives the count of the listing that it was told. -/
theorem run_probe (w : World σ) :
    ∃ (x : Exchange) (u : World σ) (said : List Utterance),
      (g.probe runner).run w = (x.reply.map (countMatching · g.token), u) ∧
      g.Asks x ∧ u.events = w.events ++ (said.map .said ++ [.called x]) := by
  obtain ⟨said, hevents⟩ := Session.events_afterCall runner .output g.status w
  refine ⟨Session.exchangeOf runner .output g.status w, _, said, ?_, ⟨rfl, rfl⟩, hevents⟩
  rw [probe, Session.run_bind, check, Session.run_bind, Session.run_perform]
  cases (Session.exchangeOf runner .output g.status w).reply <;> rfl

/-- The texts around a probe are no calls. -/
theorem calls_opening (left : Nat) (said : List Utterance) (x : Exchange) :
    calls (opening g.dimension limits pacer left ++ (said.map .said ++ [.called x])) = [x] := by
  rw [calls_append, calls_opening_eq_nil, List.nil_append, calls_map_said_called]

/-- The **step** of a poll of a gate: the cycle ends it, or finds another count and leads to the
next one. -/
theorem cycle_gate {j : Nat} (hj : j < limits.checks) (attempts : UInt32) (w : World σ) :
    (∃ result v new,
      (pollFrom g.dimension g.target limits pacer (g.probe runner) attempts
        (limits.left j)).run w = (result, v) ∧
      v.events = w.events ++ new ∧
      g.Watched (limits.checks - j) limits.budget (calls new) result) ∨
    (j + 1 < limits.checks ∧ ∃ u more x,
      (pollFrom g.dimension g.target limits pacer (g.probe runner) attempts
        (limits.left j)).run w =
        (pollFrom g.dimension g.target limits pacer (g.probe runner) (attempts + 1)
          (limits.left (j + 1))).run u ∧
      u.events = w.events ++ more ∧ calls more = [x] ∧ g.Misses x) := by
  obtain ⟨x, u, said, hprobe, hasks, hsaid⟩ :=
    g.run_probe runner (w.note (opening g.dimension limits pacer (limits.left j)))
  have hnone : ∀ y ∈ ([] : List Exchange), g.Misses y := fun y hy => absurd hy List.not_mem_nil
  have hcalls := g.calls_opening limits pacer (limits.left j) said x
  have hevents : u.events = w.events ++
      (opening g.dimension limits pacer (limits.left j) ++ (said.map .said ++ [.called x])) := by
    rw [hsaid, World.events_note, List.append_assoc]
  have hnoted : ∀ u' : Utterance, (u.note [.said u']).events = w.events ++
      (opening g.dimension limits pacer (limits.left j) ++ (said.map .said ++ [.called x]) ++
        [.said u']) := by
    intro u'
    rw [World.events_note, hevents, List.append_assoc]
  have hmore : ∀ u' : Utterance, calls (opening g.dimension limits pacer (limits.left j) ++
      (said.map .said ++ [.called x]) ++ [.said u']) = [x] := by
    intro u'
    rw [calls_append, hcalls, calls_said, calls_nil, List.append_nil]
  rw [run_pollFrom, hprobe, limits.left_sub_step]
  rcases hreply : x.reply with cause | text
  · -- the status could not be had
    refine .inl ⟨_, _, _, rfl, hevents, ?_⟩
    rw [hcalls]
    exact .failed [] x cause rfl hnone hasks hreply
  · have hx : g.Counts (countMatching text g.token) x := ⟨hasks, text, hreply, rfl⟩
    by_cases htarget : countMatching text g.token = g.target
    · -- the right count
      refine .inl ⟨_, _, _, if_pos htarget, hnoted _, ?_⟩
      rw [hmore]
      exact .passed [] x _ rfl hnone (htarget ▸ hx)
    · by_cases hrest : limits.left (j + 1) = 0
      · -- another count, and the budget is used up
        have hlast := (limits.left_succ_eq_zero_iff hj).mp hrest
        refine .inl ⟨_, _, _, (if_neg htarget).trans (if_pos hrest), hnoted _, ?_⟩
        rw [hmore]
        refine .timedOut [] x _ rfl hnone hx htarget ?_
        rw [List.length_singleton]
        omega
      · -- another count, and something of the budget is left
        have hopen := (limits.left_succ_eq_zero_iff hj).not.mp hrest
        exact .inr ⟨by omega, _, _, x, (if_neg htarget).trans (if_neg hrest), hnoted _, hmore _,
          _, hx, htarget⟩

/-- The poll of a gate from any point that it can reach. The induction is on the number of checks
that are left; each cycle but the last one adds a status with another count. -/
theorem watched_pollFrom (m j : Nat) (hm : limits.checks - j = m + 1) (attempts : UInt32)
    (w : World σ) :
    ∃ result v new,
      (pollFrom g.dimension g.target limits pacer (g.probe runner) attempts
        (limits.left j)).run w = (result, v) ∧
      v.events = w.events ++ new ∧
      g.Watched (m + 1) limits.budget (calls new) result := by
  induction m generalizing j attempts w with
  | zero =>
      have hj : j < limits.checks := by omega
      rcases g.cycle_gate limits pacer runner hj attempts w with hends | ⟨hnext, -⟩
      · rw [hm] at hends
        exact hends
      · omega
  | succ m ih =>
      have hj : j < limits.checks := by omega
      rcases g.cycle_gate limits pacer runner hj attempts w with
        hends | ⟨hnext, u, more, x, hrun, hmore, hcalls, hx⟩
      · rw [hm] at hends
        exact hends
      · obtain ⟨result, v, new, hrest, hnew, hwatched⟩ := ih (j + 1) (by omega) (attempts + 1) u
        refine ⟨result, v, more ++ new, hrun.trans hrest, ?_, ?_⟩
        · rw [hnew, hmore, List.append_assoc]
        · rw [calls_append, hcalls, List.singleton_append]
          exact hwatched.cons hx

/-- The line that is logged before a gate is waited for. -/
def announced : Event :=
  .logged .info ("waiting for " ++ toString g.target ++ " " ++ g.dimension.text ++ " (budget " ++
    toString limits.budget ++ "s)")

/-- The line that is logged behind a gate that was passed. -/
def opened (outcome : Outcome) : Event :=
  .logged .info (g.dimension.text ++ " ready: " ++ toString outcome.check.actual ++ "/" ++
    toString outcome.check.target ++ " after " ++ toString outcome.attempts ++ " check(s)")

/-- **The calls of a gate** that is waited for, and how it ends. The texts before and behind the
poll are no calls. -/
theorem watched_await (w : World σ) :
    ∃ result v new, (g.await limits pacer runner).run w = (result, v) ∧
      v.events = w.events ++ new ∧ g.Watched limits.checks limits.budget (calls new) result := by
  have hchecks : limits.checks - 1 + 1 = limits.checks := Nat.sub_add_cancel limits.checks_pos
  obtain ⟨result, v, new, hrun, hnew, hwatched⟩ := g.watched_pollFrom limits pacer runner
    (limits.checks - 1) 0 hchecks.symm 0 (w.note [g.announced limits])
  rw [limits.left_zero] at hrun
  rw [hchecks] at hwatched
  rw [World.events_note, List.append_assoc] at hnew
  rw [await, Session.run_bind_of_ok (Session.run_info _ w)]
  rcases result with fault | outcome
  · refine ⟨_, v, [g.announced limits] ++ new, Session.run_bind_of_error hrun _, hnew, ?_⟩
    rw [calls_append, announced, calls_said]
    exact hwatched
  · refine ⟨.ok outcome, v.note [g.opened outcome],
      [g.announced limits] ++ (new ++ [g.opened outcome]), ?_, ?_, ?_⟩
    · exact (Session.run_bind_of_ok hrun _).trans
        (Session.run_bind_of_ok (Session.run_info _ v) _)
    · rw [World.events_note, hnew, List.append_assoc, List.append_assoc]
    · rw [calls_append, calls_append, announced, opened, calls_said, calls_said, calls_nil,
        List.append_nil]
      exact hwatched

end

end Gate

end GeoBench.Readiness
