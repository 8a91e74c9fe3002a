import GeoBench.Evaluation.Aggregate
import GeoBench.Proofs.Machine.Confined

/-!
# The calls of an aggregation

An aggregation asks for the table of each metric by one call, in order. What it makes of the answers
is told for every runner: the answers are whatever they are, and the report is read off them, or the
first call that fails is the last one.

The samples are fetched in one order and go into the report in another, by a search that gives no
samples for a metric that it does not find. That every field has the samples of its own metric is
what `lookup_zip_all` is needed for.

## What one table decides

A report has seven fields, and all but one are made of the table of a single metric. The share of
notifications is made of two tables. So if two aggregations are told the same tables but for one
metric, their reports differ in the field of that metric alone, and in the share if the metric is
one of its two. That is stated by fields that are computed from a table by itself (`Report.own`).

## Answers

The runner may answer as it likes, and so nothing is said of which tables there are. The tables are
those that the calls were answered with, and they can be read off the record of the session
(`Source.Tells.unique`).

## Main results

* `run_fetchAll` — the calls for some metrics and what they give, by induction on the metrics.
* `aggregated_aggregate` — the calls of an aggregation, and how it ends.
* `aggregate_trace` — the same, with what a change of one table changes in the report.
-/

namespace GeoBench

open GeoBench.Machine GeoBench.Table

/-- The field of a report that is made of the table of a metric **alone**. -/
def Report.own (r : Report) : Metric → Report.Field
  | .composedPosts => .count r.composedPosts
  | .receivedNotifications => .count r.receivedNotifications
  | .inconsistencies => .count r.inconsistencies
  | .composePostDuration => .number r.composeMean
  | .writePostDuration => .number r.writeMean
  | .queueDuration => .number r.queueMean

namespace Evaluation

variable {σ : Type}

/-! ### Tables and reports -/

/-- A report that **sums up** the tables of the metrics. -/
structure SumsUp (r : Report) (texts : Metric → String) : Prop where
  composedPosts : r.composedPosts = sum (samples (texts .composedPosts))
  receivedNotifications : r.receivedNotifications = sum (samples (texts .receivedNotifications))
  inconsistencies : r.inconsistencies = sum (samples (texts .inconsistencies))
  composeMean : r.composeMean = mean (samples (texts .composePostDuration))
  writeMean : r.writeMean = mean (samples (texts .writePostDuration))
  queueMean : r.queueMean = mean (samples (texts .queueDuration))
  share : r.share = inconsistencyShare r.inconsistencies r.receivedNotifications
  shareOfNone : r.receivedNotifications = 0 → r.share = .zero false

namespace SumsUp

variable {r r' : Report} {texts texts' : Metric → String}

/-- The report on the samples of some tables sums them up. -/
theorem ofSamples (texts : Metric → String) :
    SumsUp (Report.ofSamples fun m => samples (texts m)) texts where
  composedPosts := rfl
  receivedNotifications := rfl
  inconsistencies := rfl
  composeMean := rfl
  writeMean := rfl
  queueMean := rfl
  share := rfl
  shareOfNone h := if_pos h

/-- The own field of a metric follows from the table of the metric. -/
theorem own_eq (h : SumsUp r texts) (h' : SumsUp r' texts') {m : Metric}
    (hm : texts' m = texts m) : r'.own m = r.own m := by
  cases m with
  | composePostDuration => simp only [Report.own, h.composeMean, h'.composeMean, hm]
  | composedPosts => simp only [Report.own, h.composedPosts, h'.composedPosts, hm]
  | writePostDuration => simp only [Report.own, h.writeMean, h'.writeMean, hm]
  | queueDuration => simp only [Report.own, h.queueMean, h'.queueMean, hm]
  | receivedNotifications =>
      simp only [Report.own, h.receivedNotifications, h'.receivedNotifications, hm]
  | inconsistencies => simp only [Report.own, h.inconsistencies, h'.inconsistencies, hm]

/-- The share follows from two of the tables. -/
theorem share_eq (h : SumsUp r texts) (h' : SumsUp r' texts')
    (hreceived : texts' .receivedNotifications = texts .receivedNotifications)
    (hinconsistencies : texts' .inconsistencies = texts .inconsistencies) :
    r'.share = r.share := by
  rw [h'.share, h.share, h'.receivedNotifications, h'.inconsistencies, hreceived,
    hinconsistencies, h.receivedNotifications, h.inconsistencies]

end SumsUp

/-! ### Calls for tables -/

/-- Exchanges in which the tables of some metrics are **asked** for, in order. -/
def Source.Asks (s : Source) (ms : List Metric) (xs : List Exchange) : Prop :=
  xs.map (fun x => (x.mode, x.invocation)) = ms.map fun m => (Mode.output, s.invocation m)

/-- Some tables are asked for, and then some others. -/
theorem Source.Asks.append {s : Source} {ms ms' : List Metric} {xs xs' : List Exchange}
    (h : s.Asks ms xs) (h' : s.Asks ms' xs') : s.Asks (ms ++ ms') (xs ++ xs') := by
  rw [Source.Asks, List.map_append, List.map_append, show _ = _ from h, show _ = _ from h']

/-- Each of these exchanges asks for the table of a metric. -/
theorem Source.Asks.exists_metric {s : Source} {ms : List Metric} {xs : List Exchange}
    (h : s.Asks ms xs) {x : Exchange} (hx : x ∈ xs) : ∃ m ∈ ms, x.invocation = s.invocation m := by
  obtain ⟨m, hm, heq⟩ := exists_mem_of_map_eq_map h hx
  exact ⟨m, hm, (Prod.mk.inj heq).2.symm⟩

/-- The tables of the first metrics are asked for by the first of these words. -/
theorem Source.Asks.eq_take {s : Source} {ms : List Metric} {xs : List Exchange}
    (h : s.Asks ms xs) (hms : ms <+: Metric.all) :
    xs.map (fun x => (x.mode, x.invocation)) =
      (Metric.all.map fun m => (Mode.output, s.invocation m)).take xs.length := by
  obtain ⟨rest, hrest⟩ := hms
  have hlength : xs.length = (ms.map fun m => (Mode.output, s.invocation m)).length := by
    rw [← show _ = _ from h, List.length_map]
  rw [← hrest, List.map_append, hlength, List.take_left]
  exact h

/-- Exchanges in which the tables of all metrics are **told**. -/
def Source.Tells (s : Source) (texts : Metric → String) (xs : List Exchange) : Prop :=
  s.Asks Metric.all xs ∧ xs.map (·.reply) = Metric.all.map fun m => .ok (texts m)

/-- The calls for the tables of some metrics, and what they give. -/
inductive Fetched (s : Source) (ms : List Metric) (xs : List Exchange) :
    Except ReportFault (List (List Sample)) → Prop
  /-- Every table was told. -/
  | all (texts : List String) (hasks : s.Asks ms xs)
      (hreplies : xs.map (·.reply) = texts.map .ok) : Fetched s ms xs (.ok (texts.map samples))
  /-- The last call failed. -/
  | cut (asked rest : List Metric) (m : Metric) (done : List Exchange) (x : Exchange)
      (e : CallFault) (hms : ms = asked ++ m :: rest) (hcalls : xs = done ++ [x])
      (hasks : s.Asks (asked ++ [m]) xs) (hdone : ∀ y ∈ done, y.succeeded)
      (hreply : x.reply = .error e) : Fetched s ms xs (.error (.noSource m e))

/-- One more table in front of the others. -/
theorem Fetched.cons {s : Source} {m : Metric} {ms : List Metric} {x : Exchange}
    {xs : List Exchange} {text : String} {result : Except ReportFault (List (List Sample))}
    (hasks : s.Asks [m] [x]) (hreply : x.reply = .ok text) (h : Fetched s ms xs result) :
    Fetched s (m :: ms) (x :: xs) (result.map (samples text :: ·)) := by
  cases h with
  | all texts hall hreplies =>
      exact .all (text :: texts) (hasks.append hall) (by rw [List.map_cons, hreply, hreplies]; rfl)
  | cut asked rest m' done y e hms hcalls hall hdone hy =>
      refine .cut (m :: asked) rest m' (x :: done) y e ?_ ?_ (hasks.append hall) ?_ hy
      · rw [hms, List.cons_append]
      · rw [hcalls, List.cons_append]
      · intro z hz
        rcases List.mem_cons.mp hz with rfl | hz
        · exact ⟨text, hreply⟩
        · exact hdone z hz

section

variable (runner : Runner σ) (s : Source)

/-- Remarks are logged one after the other. -/
theorem run_remarks (found : List String) (w : World σ) :
    ∃ es, (found.forM fun remark => (Session.debug remark : Session σ ReportFault Unit)).run w =
      (.ok (), w.note es) ∧ calls es = [] := by
  induction found generalizing w with
  | nil => exact ⟨[], rfl, rfl⟩
  | cons remark found ih =>
      obtain ⟨es, hrun, hcalls⟩ := ih (w.note [.logged .debug remark])
      refine ⟨.logged .debug remark :: es, ?_, hcalls⟩
      show (Session.debug remark >>= fun _ =>
        found.forM fun remark => (Session.debug remark : Session σ ReportFault Unit)).run w = _
      refine (Session.run_bind_of_ok (Session.run_log .debug remark w) _).trans ?_
      rw [hrun, World.note_note, List.singleton_append]

/-- The samples of a metric are fetched by one call. -/
theorem run_fetch (m : Metric) (w : World σ) :
    ∃ x v, (fetch runner s m).run w = ((x.reply.map samples).mapError (.noSource m), v) ∧
      Passage ∅ w [x] v ∧ s.Asks [m] [x] := by
  obtain ⟨x, u, hcall, hpassage, hmode, hinvocation, -⟩ :=
    Passage.exists_call ∅ (ReportFault.noSource m) runner .output (s.invocation m) w
  have hasks : s.Asks [m] [x] := by
    rw [Source.Asks, List.map_cons, List.map_nil, hmode, hinvocation]
    rfl
  refine ⟨x, ?_⟩
  rw [fetch, Session.run_bind, hcall]
  cases x.reply with
  | error e => exact ⟨u, rfl, hpassage, hasks⟩
  | ok text =>
      obtain ⟨es, hremarks, hsilent⟩ := run_remarks (remarks text) u
      refine ⟨_, (Session.run_bind_of_ok hremarks _).trans
        (Session.run_bind_of_ok (Session.run_log _ _ _) _), ?_, hasks⟩
      rw [World.note_note]
      exact hpassage.trans (.note ∅ _ (by rw [calls_append, hsilent]; rfl))

/-- **The calls for some metrics.** The induction is on the metrics: a call that succeeds puts its
samples in front of what the others give, and one that fails ends it. -/
theorem run_fetchAll (ms : List Metric) (w : World σ) :
    ∃ result v xs, (ms.mapM fun m => fetch runner s m).run w = (result, v) ∧
      Passage ∅ w xs v ∧ Fetched s ms xs result := by
  induction ms generalizing w with
  | nil => exact ⟨_, w, [], rfl, .refl ∅ w, .all [] rfl rfl⟩
  | cons m ms ih =>
      obtain ⟨x, u, hrun, hpassage, hasks⟩ := run_fetch runner s m w
      rw [List.mapM_cons]
      cases hreply : x.reply with
      | error e =>
          rw [hreply] at hrun
          exact ⟨_, u, [x], Session.run_bind_of_error hrun _, hpassage,
            .cut [] ms m [] x e rfl rfl hasks nofun hreply⟩
      | ok text =>
          rw [hreply] at hrun
          obtain ⟨result, v, xs, hrest, hmore, hfetched⟩ := ih u
          refine ⟨result.map (samples text :: ·), v, x :: xs, ?_, hpassage.trans hmore,
            hfetched.cons hasks hreply⟩
          rw [Session.run_bind_of_ok hrun, Session.run_bind, hrest]
          cases result <;> rfl

end

/-! ### Aggregations -/

/-- The calls of an **aggregation**, and how it ends. -/
inductive Aggregated (s : Source) (xs : List Exchange) : Except ReportFault Report → Prop
  /-- The table of every metric was told, and the report sums them up. -/
  | whole (texts : Metric → String) (r : Report) (htells : s.Tells texts xs)
      (hreport : SumsUp r texts) : Aggregated s xs (.ok r)
  /-- The last call failed; there is no report. -/
  | cut (asked rest : List Metric) (m : Metric) (done : List Exchange) (x : Exchange)
      (e : CallFault) (hall : Metric.all = asked ++ m :: rest) (hcalls : xs = done ++ [x])
      (hasks : s.Asks (asked ++ [m]) xs) (hdone : ∀ y ∈ done, y.succeeded)
      (hreply : x.reply = .error e) : Aggregated s xs (.error (.noSource m e))

/-- As many texts as there are metrics are the texts of the metrics. -/
theorem exists_texts {texts : List String} (h : texts.length = Metric.all.length) :
    ∃ f : Metric → String, texts = Metric.all.map f := by
  refine ⟨fun m => ((Metric.all.zip texts).lookup m).getD "", ?_⟩
  match texts, h with
  | [a, b, c, d, e, f], _ => rfl

/-- Tables that were told are told by the replies alone. -/
theorem Source.Tells.unique {s : Source} {texts texts' : Metric → String} {xs : List Exchange}
    (h : s.Tells texts xs) (h' : s.Tells texts' xs) : texts' = texts := by
  have hreplies := h'.2.symm.trans h.2
  funext m
  exact Except.ok.inj (List.map_inj_left.mp hreplies m (Metric.mem_all m))

/-- When the table of every metric was told, the report sums them up. -/
theorem Aggregated.of_tells {s : Source} {texts : Metric → String} {xs : List Exchange}
    {result : Except ReportFault Report} (h : Aggregated s xs result) (htells : s.Tells texts xs) :
    ∃ r, result = .ok r ∧ SumsUp r texts := by
  cases h with
  | whole texts' r htells' hreport =>
      rw [htells.unique htells'] at hreport
      exact ⟨r, rfl, hreport⟩
  | cut asked rest m done x e hall hcalls hasks hdone hreply =>
      have hx : x ∈ xs := by
        rw [hcalls]
        exact List.mem_append_right _ List.mem_cons_self
      obtain ⟨m', -, hm'⟩ := exists_mem_of_map_eq_map htells.2 hx
      rw [hreply] at hm'
      cases hm'

/-- When a call failed, there is no report. -/
theorem Aggregated.of_error {s : Source} {xs : List Exchange} {result : Except ReportFault Report}
    (h : Aggregated s xs result) {y : Exchange} (hy : y ∈ xs) {e : CallFault}
    (he : y.reply = .error e) : ∃ m, result = .error (.noSource m e) := by
  cases h with
  | whole texts r htells =>
      obtain ⟨m, -, hm⟩ := exists_mem_of_map_eq_map htells.2 hy
      rw [he] at hm
      cases hm
  | cut asked rest m done x e' hall hcalls hasks hdone hreply =>
      rw [hcalls] at hy
      obtain rfl := Exchange.eq_last_of_not_succeeded hdone hy (Exchange.not_succeeded_of_error he)
      rw [he] at hreply
      exact ⟨m, by rw [Except.error.inj hreply]⟩

/-- When there is a report, no call failed. -/
theorem Aggregated.reply_ne_error {s : Source} {xs : List Exchange} {r : Report}
    (h : Aggregated s xs (.ok r)) {y : Exchange} (hy : y ∈ xs) (e : CallFault) :
    y.reply ≠ .error e := by
  intro he
  obtain ⟨m, hm⟩ := h.of_error hy he
  cases hm

/-- When there is no report, a call failed. -/
theorem Aggregated.not_all_succeeded {s : Source} {xs : List Exchange} {f : ReportFault}
    (h : Aggregated s xs (.error f)) : ¬ ∀ x ∈ xs, x.succeeded := by
  intro hall
  cases h with
  | cut asked rest m done x e _ hcalls _ _ hreply =>
      have hx : x ∈ xs := by
        rw [hcalls]
        exact List.mem_append_right _ List.mem_cons_self
      exact Exchange.not_succeeded_of_error hreply (hall x hx)

/-- Only tables are asked for. -/
theorem Aggregated.exists_metric {s : Source} {xs : List Exchange}
    {result : Except ReportFault Report} (h : Aggregated s xs result) {x : Exchange} (hx : x ∈ xs) :
    ∃ m, x.invocation = s.invocation m := by
  cases h with
  | whole texts r htells =>
      obtain ⟨m, -, hm⟩ := htells.1.exists_metric hx
      exact ⟨m, hm⟩
  | cut asked rest m done y e hall hcalls hasks =>
      obtain ⟨m', -, hm'⟩ := hasks.exists_metric hx
      exact ⟨m', hm'⟩

/-- **The words** of the calls: the first of six, as many as there are calls. -/
theorem Aggregated.calls_eq {s : Source} {xs : List Exchange}
    {result : Except ReportFault Report} (h : Aggregated s xs result) :
    xs.map (fun x => (x.mode, x.invocation)) =
      (Metric.all.map fun m => (Mode.output, s.invocation m)).take xs.length := by
  cases h with
  | whole texts r htells => exact htells.1.eq_take List.prefix_rfl
  | cut asked rest m done x e hall hcalls hasks =>
      refine hasks.eq_take ⟨rest, ?_⟩
      rw [hall, List.append_assoc, List.singleton_append]

/-- Exchanges that ask for the tables of a report **in order**, word by word: the first of six calls
for an output, as many as there are exchanges. -/
def Source.AsksInOrder (s : Source) (xs : List Exchange) : Prop :=
  xs.map (fun x => (x.mode, x.invocation)) =
    (["sn_compose_post_duration_ms", "sn_composed_posts", "sn_write_post_duration_ms",
      "sn_queue_duration_ms", "sn_received_notifications", "sn_inconsistencies"].map
        fun name => (Mode.output, ⟨s.program, [s.deployer, "metrics", name], [], none⟩)).take
          xs.length

/-- All calls of an aggregation ask for tables, in order. -/
theorem Aggregated.asksInOrder {s : Source} {xs : List Exchange}
    {result : Except ReportFault Report} (h : Aggregated s xs result) : s.AsksInOrder xs :=
  h.calls_eq

/-- A report takes six calls. -/
theorem Aggregated.length_eq {s : Source} {xs : List Exchange} {r : Report}
    (h : Aggregated s xs (.ok r)) : xs.length = 6 := by
  cases h with
  | whole texts _ htells =>
      have hlength := congrArg List.length htells.1
      rwa [List.length_map, List.length_map] at hlength

/-- **The calls of an aggregation**, and how it ends. -/
theorem aggregated_aggregate (runner : Runner σ) (s : Source) (w : World σ) :
    ∃ result v xs, (aggregate runner s).run w = (result, v) ∧ Passage ∅ w xs v ∧
      Aggregated s xs result := by
  obtain ⟨result, v, xs, hrun, hpassage, hfetched⟩ := run_fetchAll runner s Metric.all w
  cases hfetched with
  | cut asked rest m done x e hms hcalls hasks hdone hreply =>
      exact ⟨_, v, xs, Session.run_bind_of_error hrun _, hpassage,
        .cut asked rest m done x e hms hcalls hasks hdone hreply⟩
  | all texts hasks hreplies =>
      have hlength : texts.length = Metric.all.length := by
        have hxs := congrArg List.length hreplies
        have hms := congrArg List.length hasks
        rw [List.length_map, List.length_map] at hxs hms
        exact hxs.symm.trans hms
      obtain ⟨f, rfl⟩ := exists_texts hlength
      refine ⟨_, v, xs, Session.run_bind_of_ok hrun _, hpassage, .whole f _ ⟨hasks, ?_⟩ ?_⟩
      · rw [hreplies, List.map_map]
        rfl
      · rw [List.map_map]
        have hsamples : samplesOf (Metric.all.map (samples ∘ f)) = fun m => samples (f m) :=
          funext (lookup_zip_all (samples ∘ f))
        rw [hsamples]
        exact .ofSamples f

/-- **What an aggregation does.** It asks for the table of each metric by one call of the program
with the words of the deployer, `metrics` and the name of the metric, in order, and touches no file.
If every table is told, the report sums them up. If a call fails, it is the last one, and there is
no report: the fault names the metric and carries the fault of the call.

A change of one table changes the own field of its metric and no other one, but for the share, which
follows from two of the counters. -/
theorem aggregate_trace (runner : Runner σ) (s : Source) (w : World σ) :
    ∃ result v xs, (aggregate runner s).run w = (result, v) ∧ Passage ∅ w xs v ∧
      Aggregated s xs result ∧
      xs.map (fun x => (x.mode, x.invocation)) =
        (["sn_compose_post_duration_ms", "sn_composed_posts", "sn_write_post_duration_ms",
          "sn_queue_duration_ms", "sn_received_notifications", "sn_inconsistencies"].map
            fun name => (Mode.output,
              ⟨s.program, [s.deployer, "metrics", name], [], none⟩)).take xs.length ∧
      (∀ r, result = .ok r → xs.length = 6) ∧
      ∀ {σ' : Type} (runner' : Runner σ') (w' v' : World σ') (result' : Except ReportFault Report)
        (xs' : List Exchange) (texts texts' : Metric → String) (changed : Metric),
        (aggregate runner' s).run w' = (result', v') → Passage ∅ w' xs' v' →
        s.Tells texts xs → s.Tells texts' xs' → (∀ m, m ≠ changed → texts' m = texts m) →
        ∃ r r', result = .ok r ∧ result' = .ok r' ∧ (∀ m, m ≠ changed → r'.own m = r.own m) ∧
          (changed ≠ .receivedNotifications → changed ≠ .inconsistencies → r'.share = r.share) := by
  obtain ⟨result, v, xs, hrun, hpassage, haggregated⟩ := aggregated_aggregate runner s w
  refine ⟨result, v, xs, hrun, hpassage, haggregated, haggregated.calls_eq, ?_, ?_⟩
  · rintro r rfl
    exact haggregated.length_eq
  intro σ' runner' w' v' result' xs' texts texts' changed hrun' hpassage' htells htells' hsame
  obtain ⟨result₂, v₂, xs₂, hrun₂, hpassage₂, haggregated₂⟩ := aggregated_aggregate runner' s w'
  obtain ⟨rfl, rfl⟩ := Prod.mk.inj (hrun'.symm.trans hrun₂)
  obtain rfl := hpassage'.calls_unique hpassage₂
  obtain ⟨r, hr, hreport⟩ := haggregated.of_tells htells
  obtain ⟨r', hr', hreport'⟩ := haggregated₂.of_tells htells'
  refine ⟨r, r', hr, hr', fun m hm => hreport.own_eq hreport' (hsame m hm), ?_⟩
  intro hreceived hinconsistencies
  exact hreport.share_eq hreport' (hsame _ (Ne.symm hreceived)) (hsame _ (Ne.symm hinconsistencies))

end Evaluation

end GeoBench
