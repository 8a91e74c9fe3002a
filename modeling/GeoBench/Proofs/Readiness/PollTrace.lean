import GeoBench.Proofs.Machine.Session
import GeoBench.Readiness.Poll
import Mathlib.Algebra.BigOperators.Group.List.Basic
import Mathlib.Algebra.GroupWithZero.Nat

/-!
# The trace of a poll

A poll waits and probes by turns. Before its wait number `j`, counted from zero, `j` strides of the
budget are used up, so the wait takes one stride or what is left of the budget. The poll ends with
the first probe that fails or finds the target, and with the probe after the wait that uses up the
budget at the latest.

## Why no time is lost

The budget is used up by whole strides but for the last wait, which takes what is left. The number
of checks is therefore the budget divided by the stride, rounded up, and at least one: with a budget
of zero there is one check, behind a wait of no time. An interval of zero counts as one second, so
every wait but that one makes the budget smaller.

## Answers and probes

A probe may be any session, so the trace of one cycle is told for all of them. For the trace as a
whole the answers are given as a sequence: probe number `j` answers its `j`-th member, a count or a
failure. Which answers come from which calls is said for gates, behind this module.

## Main results

* `run_pollFrom` — one cycle of a poll over any probe.
* `pollFrom_answering` — the cycles from any point of a poll over a sequence of answers to its end.
* `poll_trace` — **the whole trace**: how many waits and probes there are, how long each wait is and
  what it tells, and how the poll ends.
-/

namespace GeoBench.Readiness

open GeoBench.Machine

variable {σ : Type}

namespace Limits

/-- The seconds that a wait takes while the budget allows: an interval of zero counts as one. -/
def stride (l : Limits) : Nat := max l.interval 1

/-- The most **checks** that a poll makes: one for each stride of the budget that is begun, and one
at least. -/
def checks (l : Limits) : Nat := max 1 ((l.budget + l.stride - 1) / l.stride)

/-- The seconds left of the budget after some waits of one stride. -/
def left (l : Limits) (j : Nat) : Nat := l.budget - j * l.stride

/-- How long wait number `j` takes. -/
def waitAt (l : Limits) (j : Nat) : Nat := min l.stride (l.left j)

/-- Each wait takes some time. -/
theorem stride_pos (l : Limits) : 0 < l.stride :=
  Nat.lt_of_lt_of_le Nat.one_pos (Nat.le_max_right _ _)

/-- Check number `j` can be reached when it is the first one, or the strides before it leave
something of the budget. -/
theorem lt_checks_iff (l : Limits) (j : Nat) : j < l.checks ↔ j = 0 ∨ j * l.stride < l.budget := by
  have hs := l.stride_pos
  have hdiv : j < (l.budget + l.stride - 1) / l.stride ↔ j * l.stride < l.budget := by
    rw [Nat.lt_iff_add_one_le, Nat.le_div_iff_mul_le hs, Nat.succ_mul]
    omega
  rw [checks]
  omega

/-- There is at least one check. -/
theorem checks_pos (l : Limits) : 0 < l.checks :=
  (l.lt_checks_iff 0).mpr (.inl rfl)

/-- A number of checks is enough when as many strides use up the budget. -/
theorem checks_le_iff (l : Limits) {n : Nat} (hn : 0 < n) :
    l.checks ≤ n ↔ l.budget ≤ n * l.stride := by
  have hlt := l.lt_checks_iff n
  omega

/-- The strides before a check that can be reached fit into the budget. -/
theorem mul_stride_le_of_lt (l : Limits) {j : Nat} (hj : j < l.checks) :
    j * l.stride ≤ l.budget := by
  rcases (l.lt_checks_iff j).mp hj with rfl | hlt
  · rw [Nat.zero_mul]
    exact Nat.zero_le _
  · exact Nat.le_of_lt hlt

/-- Before the first wait the whole budget is left. -/
theorem left_zero (l : Limits) : l.left 0 = l.budget := by
  rw [left, Nat.zero_mul, Nat.sub_zero]

/-- The wait before check number `j` uses up the budget exactly when the check is the last one. -/
theorem left_succ_eq_zero_iff (l : Limits) {j : Nat} (hj : j < l.checks) :
    l.left (j + 1) = 0 ↔ j + 1 = l.checks := by
  have hnext := l.lt_checks_iff (j + 1)
  simp only [left]
  omega

/-- A wait takes what it takes of the seconds that are left. -/
theorem left_sub_step (l : Limits) (j : Nat) :
    l.left j - step l.interval (l.left j) = l.left (j + 1) := by
  have hstep : step l.interval (l.left j) = min l.stride (l.left j) := rfl
  rw [hstep]
  simp only [left, Nat.succ_mul]
  omega

/-- The seconds of the first waits together. -/
theorem sum_waitAt (l : Limits) (n : Nat) :
    ((List.range n).map l.waitAt).sum = min l.budget (n * l.stride) := by
  induction n with
  | zero => simp
  | succ n ih =>
      rw [List.range_succ, List.map_append, List.sum_append, ih]
      simp only [List.map_cons, List.map_nil, List.sum_cons, List.sum_nil, waitAt, left,
        Nat.succ_mul]
      omega

end Limits

/-! ### One cycle -/

/-- What is announced with a wait when `left` seconds of the budget are left. -/
def waitMessage (dimension : Dimension) (left : Nat) : String :=
  "waiting for " ++ dimension.text ++ " (" ++ toString left ++ "s budget left)"

/-- A line of detail on the state of a poll, as an event. -/
def detailed (dimension : Dimension) (state : String) : Event :=
  .logged .debug (dimension.text ++ ": " ++ state)

/-- A detail of the poll is one line. -/
@[simp] theorem run_detail (dimension : Dimension) (state : String) (w : World σ) :
    (detail dimension state).run w = (.ok (), w.note [detailed dimension state]) := rfl

/-- What happens in a cycle up to its probe, when `left` seconds of the budget are left. -/
def opening (dimension : Dimension) (limits : Limits) (pacer : Pacer) (left : Nat) : List Event :=
  let seconds := step limits.interval left
  detailed dimension ("Waiting \x7b remaining_secs: " ++ toString left ++ " \x7d") ::
    (.waited seconds (waitMessage dimension left) ::
      (pacer.announce seconds (waitMessage dimension left)).map .said) ++
    [detailed dimension "Checking"]

/-- A line that is logged when a poll goes on. -/
def retrying (dimension : Dimension) (target actual left : Nat) : List Event :=
  [.logged .info (dimension.text ++ ": " ++ toString actual ++ "/" ++ toString target ++
    " ready, retrying (" ++ toString left ++ "s budget left)")]

/-- **One cycle** of a poll: it ends with a failed probe, with the target, or with the budget, and
goes on otherwise. -/
theorem run_pollFrom (dimension : Dimension) (target : Nat) (limits : Limits) (pacer : Pacer)
    (probe : Session σ CallFault Nat) (attempts : UInt32) (left : Nat) (w : World σ) :
    (pollFrom dimension target limits pacer probe attempts left).run w =
      match probe.run (w.note (opening dimension limits pacer left)) with
      | (.error cause, v) => (.error (.noStatus dimension cause), v)
      | (.ok actual, v) =>
        if actual = target then
          (.ok ⟨⟨dimension, target, actual⟩, attempts + 1,
              limits.budget - (left - step limits.interval left)⟩,
            v.note [detailed dimension
              ("Satisfied(" ++ Check.detail ⟨dimension, target, actual⟩ ++ ")")])
        else if left - step limits.interval left = 0 then
          (.error (.timeout dimension target actual limits.budget),
            v.note [detailed dimension
              ("Failed(" ++ Check.detail ⟨dimension, target, actual⟩ ++ ")")])
        else
          (pollFrom dimension target limits pacer probe (attempts + 1)
            (left - step limits.interval left)).run
              (v.note (retrying dimension target actual
                (left - step limits.interval left))) := by
  rw [pollFrom]
  simp only [Session.run_bind, run_detail, Session.run_wait, Session.run_withFault,
    World.note_note]
  have hopening :
      ([detailed dimension ("Waiting \x7b remaining_secs: " ++ toString left ++ " \x7d")] ++
      .waited (step limits.interval left) (waitMessage dimension left) ::
        (pacer.announce (step limits.interval left) (waitMessage dimension left)).map .said ++
      [detailed dimension "Checking"]) = opening dimension limits pacer left := rfl
  rw [waitMessage] at hopening
  rw [hopening]
  rcases probe.run (w.note (opening dimension limits pacer left)) with ⟨cause | actual, v⟩
  · rfl
  · simp only [Except.mapError, Check.passes, beq_iff_eq]
    by_cases htarget : actual = target
    · rw [if_pos htarget, if_pos htarget]
      rfl
    · rw [if_neg htarget, if_neg htarget]
      by_cases hrest : left - step limits.interval left = 0
      · rw [dif_pos hrest, if_pos hrest]
        rfl
      · rw [dif_neg hrest, if_neg hrest]
        rfl

/-! ### A sequence of answers -/

section

variable (dimension : Dimension) (target : Nat) (limits : Limits) (pacer : Pacer)
  (status : Invocation) (answers : Nat → Except CallFault Nat)

/-- What the record says of probe number `j`, in a tree that nobody changes. -/
def probed (tree : Tree) (j : Nat) : Exchange :=
  ⟨.output, status, (answers j).map toString, tree, tree⟩

/-- A probe that gives the **answers** of a sequence, one after the other. The state of the runner
is the number of probes so far, and each probe is recorded as a call of the status command. -/
def answering : Session Nat CallFault Nat :=
  ExceptT.mk fun w =>
    (answers w.runnerState,
      { w with
        runnerState := w.runnerState + 1
        past := .called (probed status answers w.tree w.runnerState) :: w.past })

/-- The paces of cycle number `j`: its wait and its probe. -/
def cycle (tree : Tree) (j : Nat) : List Event :=
  [.waited (limits.waitAt j) (waitMessage dimension (limits.left j)),
    .called (probed status answers tree j)]

/-- Whether the answer to probe number `k` **ends** a poll: it is the target or a fault. -/
def Ends (k : Nat) : Prop :=
  answers k = .ok target ∨ ∃ e, answers k = .error e

/-- How a poll ends whose last probe has number `k`. -/
def Verdict (k : Nat) (result : Except PollFault Outcome) : Prop :=
  (∀ e, answers k = .error e → result = .error (.noStatus dimension e)) ∧
  (answers k = .ok target → ∃ attempts, result =
    .ok ⟨⟨dimension, target, target⟩, attempts, min limits.budget ((k + 1) * limits.stride)⟩) ∧
  (∀ a, answers k = .ok a → a ≠ target →
    result = .error (.timeout dimension target a limits.budget))

/-- The cycles from number `j` on go from a world to another one, and number `k` is the last one. -/
structure PollsTo (j k : Nat) (w v : World Nat) (result : Except PollFault Outcome) : Prop where
  le : j ≤ k
  lt_checks : k < limits.checks
  goes_on : ∀ i, j ≤ i → i < k → ¬ Ends target answers i
  stops : Ends target answers k ∨ k + 1 = limits.checks
  verdict : Verdict dimension target limits answers k result
  probes : v.runnerState = k + 1
  trace : ∃ new, v.events = w.events ++ new ∧
    paces new = (List.range' j (k + 1 - j)).flatMap (cycle dimension limits status answers w.tree)

variable {dimension target limits status answers}

/-- A status that is not told ends the poll at once. -/
theorem verdict_of_fault {k : Nat} {e : CallFault} (h : answers k = .error e) :
    Verdict dimension target limits answers k (.error (.noStatus dimension e)) := by
  refine ⟨fun e' he' => ?_, fun ht => ?_, fun a ha => ?_⟩
  · rw [h] at he'
    cases he'
    rfl
  · rw [h] at ht
    cases ht
  · rw [h] at ha
    cases ha

/-- A status with the target ends the poll. -/
theorem verdict_of_target {k : Nat} (h : answers k = .ok target) (attempts : UInt32) :
    Verdict dimension target limits answers k
      (.ok ⟨⟨dimension, target, target⟩, attempts, limits.budget - limits.left (k + 1)⟩) := by
  refine ⟨fun e he => ?_, fun _ => ⟨attempts, ?_⟩, fun a ha hne => ?_⟩
  · rw [h] at he
    cases he
  · have hwaited : limits.budget - limits.left (k + 1) =
        min limits.budget ((k + 1) * limits.stride) := by
      rw [Limits.left]
      omega
    rw [hwaited]
  · rw [h] at ha
    cases ha
    exact absurd rfl hne

/-- A status with another count ends the poll when the budget is used up. -/
theorem verdict_of_count {k a : Nat} (h : answers k = .ok a) (hne : a ≠ target) :
    Verdict dimension target limits answers k
      (.error (.timeout dimension target a limits.budget)) := by
  refine ⟨fun e he => ?_, fun ht => ?_, fun b hb _ => ?_⟩
  · rw [h] at he
    cases he
  · rw [h] at ht
    cases ht
    exact absurd rfl hne
  · rw [h] at hb
    cases hb
    rfl

/-- A count other than the target ends nothing. -/
theorem not_ends_of_count {k a : Nat} (h : answers k = .ok a) (hne : a ≠ target) :
    ¬ Ends target answers k := by
  rintro (ht | ⟨e, he⟩)
  · rw [h] at ht
    cases ht
    exact hne rfl
  · rw [h] at he
    cases he

variable (dimension limits status answers) in
/-- The paces of a cycle's events are its wait and its probe. -/
theorem paces_opening (tree : Tree) (j : Nat) :
    paces (opening dimension limits pacer (limits.left j) ++
      [.called (probed status answers tree j)]) =
        cycle dimension limits status answers tree j := by
  simp only [opening, detailed, List.cons_append, paces_said, paces_waited, paces_append,
    paces_map_said, paces_called, paces_nil, List.nil_append]
  rfl

/-- One more cycle in front of the others. -/
theorem PollsTo.cons {j k : Nat} {w u v : World Nat} {result : Except PollFault Outcome}
    {more : List Event} (h : PollsTo dimension target limits status answers (j + 1) k u v result)
    (hopen : ¬ Ends target answers j) (htree : u.tree = w.tree)
    (hevents : u.events = w.events ++ more)
    (hmore : paces more = cycle dimension limits status answers w.tree j) :
    PollsTo dimension target limits status answers j k w v result where
  le := Nat.le_of_succ_le h.le
  lt_checks := h.lt_checks
  goes_on := by
    intro i hji hik
    rcases Nat.eq_or_lt_of_le hji with rfl | hlt
    · exact hopen
    · exact h.goes_on i hlt hik
  stops := h.stops
  verdict := h.verdict
  probes := h.probes
  trace := by
    obtain ⟨new, hnew, hpaces⟩ := h.trace
    have hk := h.le
    have hcount : k + 1 - j = (k + 1 - (j + 1)) + 1 := by omega
    refine ⟨more ++ new, by rw [hnew, hevents, List.append_assoc], ?_⟩
    rw [paces_append, hmore, hpaces, htree, hcount, List.range'_succ, List.flatMap_cons]

/-- The only cycle left. -/
theorem PollsTo.last {j : Nat} {w v : World Nat} {result : Except PollFault Outcome}
    {new : List Event} (hj : j < limits.checks)
    (hstops : Ends target answers j ∨ j + 1 = limits.checks)
    (hverdict : Verdict dimension target limits answers j result)
    (hprobes : v.runnerState = j + 1) (hevents : v.events = w.events ++ new)
    (hnew : paces new = cycle dimension limits status answers w.tree j) :
    PollsTo dimension target limits status answers j j w v result where
  le := Nat.le_refl j
  lt_checks := hj
  goes_on := fun i hji hij => absurd hij (Nat.not_lt_of_le hji)
  stops := hstops
  verdict := hverdict
  probes := hprobes
  trace := by
    have hone : j + 1 - j = 1 := by omega
    refine ⟨new, hevents, ?_⟩
    rw [hnew, hone]
    simp

variable (status answers) in
/-- A probe gives its answer, counts itself, and is recorded behind what was noted before it. -/
theorem run_answering (w : World Nat) (es : List Event) :
    ∃ u, (answering status answers).run (w.note es) = (answers w.runnerState, u) ∧
      u.tree = w.tree ∧ u.runnerState = w.runnerState + 1 ∧
      u.events = w.events ++ (es ++ [.called (probed status answers w.tree w.runnerState)]) :=
  ⟨_, rfl, rfl, rfl, by simp [World.events, World.note]⟩

/-- The **step** of a poll over a sequence of answers: the cycle ends it, or leads to the next
one. -/
theorem cycle_answering {j : Nat} (hj : j < limits.checks) (attempts : UInt32) {w : World Nat}
    (hw : w.runnerState = j) :
    (∃ result v,
      (pollFrom dimension target limits pacer (answering status answers) attempts
        (limits.left j)).run w = (result, v) ∧
      PollsTo dimension target limits status answers j j w v result) ∨
    (¬ Ends target answers j ∧ j + 1 < limits.checks ∧ ∃ u more,
      (pollFrom dimension target limits pacer (answering status answers) attempts
        (limits.left j)).run w =
        (pollFrom dimension target limits pacer (answering status answers) (attempts + 1)
          (limits.left (j + 1))).run u ∧
      u.tree = w.tree ∧ u.runnerState = j + 1 ∧ u.events = w.events ++ more ∧
      paces more = cycle dimension limits status answers w.tree j) := by
  obtain ⟨u, hprobe, htree, hstate, hevents⟩ := run_answering status answers w
    (opening dimension limits pacer (limits.left j))
  rw [hw] at hprobe hstate hevents
  have hpaces := paces_opening dimension limits pacer status answers w.tree j
  have hnoted : ∀ u' : Utterance, (u.note [.said u']).events = w.events ++
      (opening dimension limits pacer (limits.left j) ++
        [.called (probed status answers w.tree j)] ++ [.said u']) := by
    intro u'
    rw [World.events_note, hevents, List.append_assoc]
  have hsaid : ∀ u' : Utterance, paces (opening dimension limits pacer (limits.left j) ++
        [.called (probed status answers w.tree j)] ++ [.said u']) =
      cycle dimension limits status answers w.tree j := by
    intro u'
    rw [paces_append, hpaces, paces_said, paces_nil, List.append_nil]
  rw [run_pollFrom, hprobe, limits.left_sub_step]
  rcases hanswer : answers j with cause | actual
  · -- a fault of the probe
    exact .inl ⟨_, _, rfl, PollsTo.last hj (.inl (.inr ⟨cause, hanswer⟩))
      (verdict_of_fault hanswer) hstate hevents hpaces⟩
  · by_cases htarget : actual = target
    · -- the target
      subst htarget
      exact .inl ⟨_, _, if_pos rfl, PollsTo.last hj (.inl (.inl hanswer))
        (verdict_of_target hanswer (attempts + 1)) hstate (hnoted _) (hsaid _)⟩
    · by_cases hrest : limits.left (j + 1) = 0
      · -- another count, and the budget is used up
        exact .inl ⟨_, _, (if_neg htarget).trans (if_pos hrest),
          PollsTo.last hj (.inr ((limits.left_succ_eq_zero_iff hj).mp hrest))
            (verdict_of_count hanswer htarget) hstate (hnoted _) (hsaid _)⟩
      · -- another count, and something of the budget is left
        have hnext : j + 1 < limits.checks := by
          have := (limits.left_succ_eq_zero_iff hj).not.mp hrest
          omega
        refine .inr ⟨not_ends_of_count hanswer htarget, hnext, _, _,
          (if_neg htarget).trans (if_neg hrest), ?_, ?_, hnoted _, hsaid _⟩
        · rw [World.tree_note, htree]
        · rw [World.runnerState_note, hstate]

variable (dimension target limits status answers) in
/-- A poll over a sequence of answers comes to an end from any point that it can reach. The
induction is on the number of checks that are left. -/
theorem pollFrom_answering (m j : Nat) (hm : limits.checks - j = m + 1) (attempts : UInt32)
    (w : World Nat) (hw : w.runnerState = j) :
    ∃ k result v,
      (pollFrom dimension target limits pacer (answering status answers) attempts
        (limits.left j)).run w = (result, v) ∧
      PollsTo dimension target limits status answers j k w v result := by
  induction m generalizing j attempts w with
  | zero =>
      have hj : j < limits.checks := by omega
      rcases cycle_answering pacer hj attempts hw with ⟨result, v, hrun, hto⟩ | ⟨-, hnext, -⟩
      · exact ⟨j, result, v, hrun, hto⟩
      · omega
  | succ m ih =>
      have hj : j < limits.checks := by omega
      rcases cycle_answering pacer hj attempts hw with
        ⟨result, v, hrun, hto⟩ | ⟨hopen, hnext, u, more, hrun, htree, hstate, hevents, hmore⟩
      · exact ⟨j, result, v, hrun, hto⟩
      · obtain ⟨k, result, v, hrest, hto⟩ := ih (j + 1) (by omega) (attempts + 1) u hstate
        exact ⟨k, result, v, hrun.trans hrest, hto.cons hopen htree hevents hmore⟩

/-- The last probe of a poll is the first one that ends it, if there is one within the budget. -/
theorem PollsTo.last_eq {k k' : Nat} {w v : World Nat} {result : Except PollFault Outcome}
    (h : PollsTo dimension target limits status answers 0 k w v result) (hk' : k' < limits.checks)
    (hfirst : ∀ i < k', ¬ Ends target answers i) (hends : Ends target answers k') : k = k' := by
  rcases Nat.lt_trichotomy k k' with hlt | heq | hgt
  · rcases h.stops with hstops | hstops
    · exact absurd hstops (hfirst k hlt)
    · omega
  · exact heq
  · exact absurd hends (h.goes_on k' (Nat.zero_le k') hgt)

end

/-- **The whole trace of a poll.** For any answers to its probes, a poll waits and probes by turns,
`n` times in all. Wait number `j` takes the stride or what is left of the budget, and tells how much
is left: as many seconds less than the budget as the waits before it took. With `k` the number of
the first probe that finds the target or fails, if one of the possible checks does, the poll ends
right there; if none does, it makes all checks, waits for the whole budget, and ends with the last
count. -/
theorem poll_trace (dimension : Dimension) (target : Nat) (limits : Limits) (pacer : Pacer)
    (status : Invocation) (answers : Nat → Except CallFault Nat) (w : World Nat) :
    ∃ n result v new,
      (poll dimension target limits pacer (answering status answers)).run
        { w with runnerState := 0 } = (result, v) ∧
      v.events = w.events ++ new ∧
      paces new = (List.range n).flatMap (cycle dimension limits status answers w.tree) ∧
      v.runnerState = n ∧ 0 < n ∧ n ≤ limits.checks ∧
      (∀ j < n, j * limits.stride ≤ limits.budget ∧ limits.waitAt j ≤ limits.left j ∧
        ((List.range j).map limits.waitAt).sum = j * limits.stride) ∧
      (∀ k < limits.checks, (∀ i < k, ¬ Ends target answers i) → answers k = .ok target →
        n = k + 1 ∧ ∃ attempts waited,
          result = .ok ⟨⟨dimension, target, target⟩, attempts, waited⟩ ∧
          waited = ((List.range n).map limits.waitAt).sum ∧
          waited = min limits.budget ((k + 1) * limits.stride)) ∧
      (∀ k < limits.checks, (∀ i < k, ¬ Ends target answers i) → ∀ e, answers k = .error e →
        n = k + 1 ∧ result = .error (.noStatus dimension e)) ∧
      ((∀ k < limits.checks, ¬ Ends target answers k) →
        n = limits.checks ∧ ((List.range n).map limits.waitAt).sum = limits.budget ∧
        ∃ a, answers (n - 1) = .ok a ∧
          result = .error (.timeout dimension target a limits.budget)) := by
  have hpos := limits.checks_pos
  obtain ⟨k, result, v, hrun, hto⟩ := pollFrom_answering dimension target limits pacer status
    answers (limits.checks - 1) 0 (by omega) 0 { w with runnerState := 0 } rfl
  obtain ⟨new, hnew, hpaces⟩ := hto.trace
  rw [limits.left_zero] at hrun
  obtain ⟨hfault, htarget, hcount⟩ := hto.verdict
  have hk := hto.lt_checks
  refine ⟨k + 1, result, v, new, hrun, hnew, ?_, hto.probes, Nat.succ_pos k, hk, ?_, ?_, ?_, ?_⟩
  · rw [hpaces, List.range_eq_range']
    rfl
  · intro j hj
    have hbudget := limits.mul_stride_le_of_lt (show j < limits.checks by omega)
    exact ⟨hbudget, Nat.min_le_right _ _, by rw [limits.sum_waitAt, Nat.min_eq_right hbudget]⟩
  · intro k' hk' hfirst hans
    obtain rfl := hto.last_eq hk' hfirst (.inl hans)
    obtain ⟨attempts, hresult⟩ := htarget hans
    exact ⟨rfl, attempts, _, hresult, (limits.sum_waitAt (k + 1)).symm, rfl⟩
  · intro k' hk' hfirst e hans
    obtain rfl := hto.last_eq hk' hfirst (.inr ⟨e, hans⟩)
    exact ⟨rfl, hfault e hans⟩
  · intro hnone
    have hall : k + 1 = limits.checks := by
      rcases hto.stops with hends | hall
      · exact absurd hends (hnone k hk)
      · exact hall
    have hused := (limits.checks_le_iff (Nat.succ_pos k)).mp (Nat.le_of_eq hall.symm)
    refine ⟨hall, by rw [limits.sum_waitAt, Nat.min_eq_left hused], ?_⟩
    rcases hanswer : answers k with e | a
    · exact absurd (.inr ⟨e, hanswer⟩) (hnone k hk)
    · refine ⟨a, hanswer, hcount a hanswer ?_⟩
      rintro rfl
      exact hnone k hk (.inl hanswer)

end GeoBench.Readiness
