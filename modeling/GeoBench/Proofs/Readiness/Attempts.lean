import GeoBench.CommandLine
import GeoBench.Proofs.Readiness.GateTrace

/-!
# The count of the checks

A poll counts its checks in 32 bits and adds one for each check without a look at the carry. The
number of checks is bounded by the budget and the interval alone, which are counts of 64 bits, so
the count is the number of checks up to a multiple of `2 ^ 32`: it is the number itself as long as
the budget is worth fewer than `2 ^ 32` checks, and starts again at zero behind that.

The number of checks is that of the runs of the probe, which a **tally** reads off the world: the
number of answers that were asked for, or the number of calls that were made.

## Tallies

How often a probe was run cannot be seen in what a poll gives, since its count is what is in
question. It is read off the world instead, by a number that each run of the probe makes greater by
one and nothing else changes (`Tallies`). Two such readings are used: how many answers of a sequence
were taken, and how many calls of the status command are in the record.

## Main results

* `Tallies.run_pollFrom` — the step: one cycle adds one to the tally and one to the count.
* `Tallies.counts_pollFrom` — a run of a poll: its tally, and its count at each of its checks.
* `counts_poll` — when the count of a poll is the number of its checks.
* `Gate.attempts_await` — the count that a gate tells is that of the calls of its status command.
-/

namespace GeoBench.Readiness

open GeoBench.Machine

variable {σ : Type}

/-! ### Tallies -/

/-- A reading of the world is a **tally** of a probe: each run of the probe adds one, whatever comes
of it, and what happens beside the calls changes nothing. -/
structure Tallies (probe : Session σ CallFault Nat) (tally : World σ → Nat) : Prop where
  tally_run : ∀ w, tally (probe.run w).2 = tally w + 1
  tally_note : ∀ w es, calls es = [] → tally (w.note es) = tally w

/-- A sequence of answers tells how many of them were given. -/
theorem tallies_answering (status : Invocation) (answers : Nat → Except CallFault Nat) :
    Tallies (answering status answers) World.runnerState where
  tally_run := fun _ => rfl
  tally_note := fun _ _ _ => rfl

/-- The probes of a gate are the calls that are recorded. -/
theorem Gate.tallies_probe (g : Gate) (runner : Runner σ) :
    Tallies (g.probe runner) fun w => (calls w.events).length where
  tally_run := by
    intro w
    obtain ⟨x, u, said, hrun, -, hevents⟩ := g.run_probe runner w
    rw [hrun]
    simp only [hevents, calls_append w.events, calls_map_said_called, List.length_append,
      List.length_singleton]
  tally_note := by
    intro w es hes
    simp only [World.events_note, calls_append, hes, List.append_nil]

section

variable {dimension : Dimension} {target : Nat} {limits : Limits} {pacer : Pacer}
  {probe : Session σ CallFault Nat} {tally : World σ → Nat}

/-- The **step** of a poll: a cycle runs the probe once. It ends the poll, with a count that is one
more, or hands a count that is one more to the next cycle. -/
theorem Tallies.run_pollFrom (h : Tallies probe tally) {j : Nat} (hj : j < limits.checks)
    (attempts : UInt32) (w : World σ) :
    (∃ result v, (pollFrom dimension target limits pacer probe attempts (limits.left j)).run w =
        (result, v) ∧ tally v = tally w + 1 ∧
        ∀ outcome, result = .ok outcome → outcome.attempts = attempts + 1) ∨
    (j + 1 < limits.checks ∧ ∃ u, tally u = tally w + 1 ∧
      (pollFrom dimension target limits pacer probe attempts (limits.left j)).run w =
        (pollFrom dimension target limits pacer probe (attempts + 1)
          (limits.left (j + 1))).run u) := by
  have htally := h.tally_run (w.note (opening dimension limits pacer (limits.left j)))
  rw [h.tally_note w _ (calls_opening_eq_nil dimension limits pacer _)] at htally
  rw [Readiness.run_pollFrom, limits.left_sub_step]
  revert htally
  rcases probe.run (w.note (opening dimension limits pacer (limits.left j))) with
    ⟨cause | actual, v⟩ <;> intro htally
  · -- the probe failed
    exact .inl ⟨_, v, rfl, htally, fun _ hok => nomatch hok⟩
  · have hnoted : ∀ u : Utterance, tally (v.note [.said u]) = tally w + 1 :=
      fun u => (h.tally_note v _ rfl).trans htally
    by_cases htarget : actual = target
    · -- the target
      refine .inl ⟨_, _, if_pos htarget, hnoted _, ?_⟩
      intro outcome hok
      rw [← Except.ok.inj hok]
    · by_cases hrest : limits.left (j + 1) = 0
      · -- another count, and the budget is used up
        exact .inl ⟨_, _, (if_neg htarget).trans (if_pos hrest), hnoted _,
          fun _ hok => nomatch hok⟩
      · -- another count, and something of the budget is left
        have hopen := (limits.left_succ_eq_zero_iff hj).not.mp hrest
        exact .inr ⟨by omega, _, hnoted _, (if_neg htarget).trans (if_neg hrest)⟩

/-- The rest of a poll **counts** `n` checks: so many are tallied, each of them is made with the
count of those before it, and the count of a success is that of all. -/
structure CountsFrom (dimension : Dimension) (target : Nat) (limits : Limits) (pacer : Pacer)
    (probe : Session σ CallFault Nat) (tally : World σ → Nat) (j : Nat) (attempts : UInt32)
    (w : World σ) (n : Nat) (result : Except PollFault Outcome) (v : World σ) : Prop where
  run_eq : (pollFrom dimension target limits pacer probe attempts (limits.left j)).run w =
    (result, v)
  pos : 0 < n
  le_checks : j + n ≤ limits.checks
  tally_eq : tally v = tally w + n
  each : ∀ i < n, ∃ u, tally u = tally w + i ∧
    (pollFrom dimension target limits pacer probe (attempts + UInt32.ofNat i)
      (limits.left (j + i))).run u = (result, v)
  last : ∀ outcome, result = .ok outcome → outcome.attempts = attempts + UInt32.ofNat n

/-- A cycle that ends the poll counts one check. -/
theorem CountsFrom.single {j : Nat} (hj : j < limits.checks) {attempts : UInt32} {w v : World σ}
    {result : Except PollFault Outcome}
    (hrun : (pollFrom dimension target limits pacer probe attempts (limits.left j)).run w =
      (result, v))
    (htally : tally v = tally w + 1)
    (hlast : ∀ outcome, result = .ok outcome → outcome.attempts = attempts + 1) :
    CountsFrom dimension target limits pacer probe tally j attempts w 1 result v where
  run_eq := hrun
  pos := Nat.one_pos
  le_checks := hj
  tally_eq := htally
  each := by
    intro i hi
    obtain rfl : i = 0 := by omega
    exact ⟨w, rfl, by simpa using hrun⟩
  last := hlast

/-- A cycle in front of others counts one check more. -/
theorem CountsFrom.cons {j n : Nat} {attempts : UInt32} {w u v : World σ}
    {result : Except PollFault Outcome}
    (h : CountsFrom dimension target limits pacer probe tally (j + 1) (attempts + 1) u n result v)
    (hrun : (pollFrom dimension target limits pacer probe attempts (limits.left j)).run w =
      (pollFrom dimension target limits pacer probe (attempts + 1) (limits.left (j + 1))).run u)
    (htally : tally u = tally w + 1) :
    CountsFrom dimension target limits pacer probe tally j attempts w (n + 1) result v where
  run_eq := hrun.trans h.run_eq
  pos := Nat.succ_pos n
  le_checks := by
    have := h.le_checks
    omega
  tally_eq := by
    rw [h.tally_eq, htally]
    omega
  each := by
    intro i hi
    rcases i with _ | i
    · exact ⟨w, rfl, by simpa using hrun.trans h.run_eq⟩
    · obtain ⟨u', htally', hrun'⟩ := h.each i (by omega)
      refine ⟨u', by omega, ?_⟩
      rw [UInt32.ofNat_add, UInt32.add_comm (UInt32.ofNat i), ← UInt32.add_assoc,
        Nat.add_comm i 1, ← Nat.add_assoc]
      exact hrun'
  last := by
    intro outcome hok
    rw [h.last outcome hok, UInt32.ofNat_add, UInt32.add_comm (UInt32.ofNat n),
      ← UInt32.add_assoc]
    rfl

variable (dimension target limits pacer) in
/-- A poll counts its checks from any point that it can reach. The induction is on the number of
checks that are left. -/
theorem Tallies.counts_pollFrom (h : Tallies probe tally) (m j : Nat)
    (hm : limits.checks - j = m + 1) (attempts : UInt32) (w : World σ) :
    ∃ n result v,
      CountsFrom dimension target limits pacer probe tally j attempts w n result v := by
  induction m generalizing j attempts w with
  | zero =>
      have hj : j < limits.checks := by omega
      rcases h.run_pollFrom hj attempts w with ⟨result, v, hrun, htally, hlast⟩ | ⟨hnext, -⟩
      · exact ⟨1, result, v, .single hj hrun htally hlast⟩
      · omega
  | succ m ih =>
      have hj : j < limits.checks := by omega
      rcases h.run_pollFrom hj attempts w with
        ⟨result, v, hrun, htally, hlast⟩ | ⟨hnext, u, htally, hrun⟩
      · exact ⟨1, result, v, .single hj hrun htally hlast⟩
      · obtain ⟨n, result, v, hcounts⟩ := ih (j + 1) (by omega) (attempts + 1) u
        exact ⟨n + 1, result, v, hcounts.cons hrun htally⟩

end

/-! ### The count of a poll -/

section

variable (dimension : Dimension) (target : Nat) (limits : Limits) (pacer : Pacer)

/-- A poll counts its checks from its beginning. -/
theorem Tallies.counts_poll_start {probe : Session σ CallFault Nat} {tally : World σ → Nat}
    (h : Tallies probe tally) (w : World σ) :
    ∃ n result v, CountsFrom dimension target limits pacer probe tally 0 0 w n result v :=
  h.counts_pollFrom dimension target limits pacer (limits.checks - 1) 0
    (Nat.sub_add_cancel limits.checks_pos).symm 0 w

/-- The count of a success in 32 bits, from the tally. -/
theorem Tallies.attempts_eq {probe : Session σ CallFault Nat} {tally : World σ → Nat}
    (h : Tallies probe tally) {w v : World σ} {outcome : Outcome}
    (hrun : (poll dimension target limits pacer probe).run w = (.ok outcome, v)) :
    ∃ n, tally v = tally w + n ∧ n ≤ limits.checks ∧ outcome.attempts = UInt32.ofNat n := by
  obtain ⟨n, result, v', hcounts⟩ := h.counts_poll_start dimension target limits pacer w
  have hsame := hcounts.run_eq
  rw [limits.left_zero, ← poll, hrun] at hsame
  obtain ⟨rfl, rfl⟩ := Prod.mk.inj hsame
  have hlast := hcounts.last outcome rfl
  rw [UInt32.zero_add] at hlast
  refine ⟨n, hcounts.tally_eq, ?_, hlast⟩
  have := hcounts.le_checks
  omega

/-- A number is kept in 32 bits exactly when it is less than `2 ^ 32`. -/
theorem toNat_ofNat_eq_iff (n : Nat) : (UInt32.ofNat n).toNat = n ↔ n < 2 ^ 32 := by
  rw [UInt32.toNat_ofNat']
  omega

/-- A poll over answers of which number `k` is the first one that finds the target. -/
theorem poll_answering (status : Invocation) {answers : Nat → Except CallFault Nat} {k : Nat}
    (hk : k < limits.checks) (hbefore : ∀ i < k, ¬ Ends target answers i)
    (htarget : answers k = .ok target) (w : World Nat) :
    ∃ v, (poll dimension target limits pacer (answering status answers)).run
        { w with runnerState := 0 } =
        (.ok ⟨⟨dimension, target, target⟩, UInt32.ofNat (k + 1),
          min limits.budget ((k + 1) * limits.stride)⟩, v) ∧ v.runnerState = k + 1 := by
  obtain ⟨k', result, v, hrun, hto⟩ := pollFrom_answering dimension target limits pacer status
    answers (limits.checks - 1) 0 (by omega) 0 { w with runnerState := 0 } rfl
  rw [limits.left_zero, ← poll] at hrun
  obtain rfl := hto.last_eq hk hbefore (.inl htarget)
  obtain ⟨attempts, rfl⟩ := hto.verdict.2.1 htarget
  obtain ⟨n, htally, -, hattempts⟩ :=
    (tallies_answering status answers).attempts_eq dimension target limits pacer hrun
  have hn : n = k' + 1 := (Nat.zero_add n).symm.trans (htally.symm.trans hto.probes)
  refine ⟨v, ?_, hto.probes⟩
  rw [hrun, ← hn, ← hattempts]

/-- **When the count is the number of checks.** A poll of any probe makes `n` checks, one at least
and no more than the budget allows. Check number `i`, counted from zero, is made with the count
`i` in 32 bits, whether the poll succeeds in the end or not, and a success tells `n` in 32 bits:
the number of checks itself exactly if that is less than `2 ^ 32`. So all polls under some limits
tell the number of their checks exactly if the budget is worth fewer than `2 ^ 32` strides. -/
theorem counts_poll (status : Invocation) (w : World Nat) :
    (∀ (σ : Type) (probe : Session σ CallFault Nat) (tally : World σ → Nat),
      Tallies probe tally → ∀ u, ∃ n result v,
        (poll dimension target limits pacer probe).run u = (result, v) ∧
        0 < n ∧ n ≤ limits.checks ∧ tally v = tally u + n ∧
        (∀ i < n, ∃ u', tally u' = tally u + i ∧
          (pollFrom dimension target limits pacer probe (UInt32.ofNat i) (limits.left i)).run u' =
            (result, v)) ∧
        ∀ outcome, result = .ok outcome → outcome.attempts = UInt32.ofNat n ∧
          (outcome.attempts.toNat = n ↔ n < 2 ^ 32)) ∧
    ((∀ answers outcome v,
      (poll dimension target limits pacer (answering status answers)).run
        { w with runnerState := 0 } = (.ok outcome, v) →
          outcome.attempts.toNat = v.runnerState) ↔
      limits.budget ≤ (2 ^ 32 - 1) * limits.stride) := by
  refine ⟨fun σ probe tally h u => ?_, ?_⟩
  · obtain ⟨n, result, v, hcounts⟩ := h.counts_poll_start dimension target limits pacer u
    have hrun := hcounts.run_eq
    have hle := hcounts.le_checks
    rw [limits.left_zero, ← poll] at hrun
    refine ⟨n, result, v, hrun, hcounts.pos, by omega, hcounts.tally_eq, ?_, ?_⟩
    · intro i hi
      simpa only [UInt32.zero_add, Nat.zero_add] using hcounts.each i hi
    · intro outcome hok
      have hlast := hcounts.last outcome hok
      rw [UInt32.zero_add] at hlast
      exact ⟨hlast, by rw [hlast, toNat_ofNat_eq_iff]⟩
  · rw [← limits.checks_le_iff (by decide : 0 < 2 ^ 32 - 1)]
    constructor
    · -- with more checks, the target may be found by check number `2 ^ 32 - 1`
      intro hexact
      by_contra hmany
      have hbefore : ∀ i < 2 ^ 32 - 1, ¬ Ends target
          (fun k => if k = 2 ^ 32 - 1 then .ok target else .ok (target + 1)) i :=
        fun i hi => not_ends_of_count (if_neg (Nat.ne_of_lt hi)) (Nat.succ_ne_self target)
      obtain ⟨v, hrun, hprobes⟩ := poll_answering dimension target limits pacer status
        (Nat.lt_of_not_le hmany) hbefore (if_pos rfl) w
      have hwrong := hexact _ _ _ hrun
      rw [hprobes, toNat_ofNat_eq_iff] at hwrong
      omega
    · intro hfew answers outcome v hrun
      obtain ⟨n, htally, hle, hattempts⟩ :=
        (tallies_answering status answers).attempts_eq dimension target limits pacer hrun
      have hn : v.runnerState = n := htally.trans (Nat.zero_add n)
      rw [hattempts, hn, toNat_ofNat_eq_iff]
      omega

/-- The count that a gate tells when it is passed is that of the calls of its status command, in 32
bits. -/
theorem Gate.attempts_await (g : Gate) (runner : Runner σ) {w v : World σ} {outcome : Outcome}
    (hrun : (g.await limits pacer runner).run w = (.ok outcome, v)) :
    ∃ new, v.events = w.events ++ new ∧ (∀ x ∈ calls new, g.Asks x) ∧
      outcome.attempts = UInt32.ofNat (calls new).length := by
  obtain ⟨result, v', new, hrun', hnew, hwatched⟩ := g.watched_await limits pacer runner w
  obtain ⟨rfl, rfl⟩ := Prod.mk.inj (hrun.symm.trans hrun')
  refine ⟨new, hnew, hwatched.asks, ?_⟩
  rw [await, Session.run_bind_of_ok (Session.run_info _ w)] at hrun
  rcases hpoll : (poll g.dimension g.target limits pacer (g.probe runner)).run
    (w.note [g.announced limits]) with ⟨fault | outcome', u⟩
  · cases hrun.symm.trans (Session.run_bind_of_error hpoll _)
  · have hrest := hrun.symm.trans ((Session.run_bind_of_ok hpoll _).trans
      (Session.run_bind_of_ok (Session.run_info _ u) _))
    obtain ⟨hsame, rfl⟩ := Prod.mk.inj hrest
    obtain ⟨n, htally, -, hattempts⟩ :=
      (g.tallies_probe runner).attempts_eq g.dimension g.target limits pacer hpoll
    have hlength : (calls new).length = n := by
      have hcalls := congrArg (fun es => (calls es).length) hnew
      simp only [World.events_note, calls_append, calls_said, calls_nil, announced,
        List.length_append, List.length_nil] at hcalls htally
      omega
    rw [hlength, ← hattempts, Except.ok.inj hsame]

end

/-- The 32 bits are full: the command line admits a budget of `2 ^ 32` seconds and an interval of
one, and a gate that finds its target with check number `2 ^ 32` tells that it made none. -/
theorem full_count :
    CommandLine.read ["--gcp", "--readiness-budget", "4294967296", "--readiness-interval", "1",
      "start"] = .ok ⟨.plain .start, { cloudTarget := true, budget := 4294967296, interval := 1 }⟩ ∧
    ∃ v, (poll .nodes 3 ⟨1, 4294967296⟩ ⟨fun _ _ => []⟩
      (answering ⟨"docker", ["node", "ls"], [], none⟩ fun k =>
        if k = 4294967295 then .ok 3 else .ok 0)).run ⟨⟨[], [], ""⟩, default, 0, [], [], []⟩ =
          (.ok ⟨⟨.nodes, 3, 3⟩, 0, 4294967296⟩, v) ∧ v.runnerState = 4294967296 := by
  have hchecks : 4294967295 < Limits.checks ⟨1, 4294967296⟩ :=
    (Limits.lt_checks_iff _ _).mpr (.inr (by decide))
  have hbefore : ∀ i < 4294967295, ¬ Ends 3 (fun k => if k = 4294967295 then .ok 3 else .ok 0) i :=
    fun i hi => not_ends_of_count (if_neg (Nat.ne_of_lt hi)) (by decide)
  exact ⟨rfl, poll_answering .nodes 3 ⟨1, 4294967296⟩ _ _ hchecks hbefore (if_pos rfl)
    ⟨⟨[], [], ""⟩, default, 0, [], [], []⟩⟩

end GeoBench.Readiness
