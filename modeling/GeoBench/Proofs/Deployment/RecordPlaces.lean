import GeoBench.Proofs.CommandLine.Placement
import GeoBench.Proofs.Deployment.History
import GeoBench.Proofs.Machine.Route

/-!
# The places of records

A report is kept beside the output of its run, in a directory that is joined from the evaluation
directory, the name of the target and the time stamp. The time stamp is any text that stands on the
command line, and is taken as a path: where it leads is a matter of its route. A text that is a name
leads to a directory of its own under the target's, and the stamps of the clock are names. A text
that starts at the root leads away from the evaluation directory, one that climbs may leave it, and
different texts with the same route share a record.

## Main results

* `CommandLine.read_timestamp` — any text is taken for a time stamp.
* `below_runDir_iff` — the time stamps whose runs lie below the directory of the target.
* `place_recordPath_eq_iff` — the time stamps that share a record.
* `kept_metrics` — what a metrics run does to the files: it keeps its record and touches no other.
* `record_places` — all of it together.
-/

namespace GeoBench

open GeoBench.Machine GeoBench.Evaluation

variable {σ : Type}

/-! ### Any text -/

namespace CommandLine

/-- **Any text is taken for a time stamp**, and is the time stamp that the command carries. -/
theorem read_timestamp (timestamp : String) :
    read ["--local", "metrics", "--timestamp=" ++ timestamp] =
      .ok ⟨.metrics (some timestamp), { localTarget := true }⟩ := by
  have hshape : Shape.of ("--timestamp=" ++ timestamp) =
      .long ("timestamp".toList ++ '=' :: timestamp.toList) := by
    rw [Shape.of, String.toList_append]
    rfl
  have hvalue : LongOption (Names.of (some .metrics))
      ("timestamp".toList ++ '=' :: timestamp.toList) [(.timestamp, some timestamp)] none := by
    have h : LongOption (Names.of (some .metrics)) _ _ none :=
      @LongOption.attached _ "timestamp".toList timestamp.toList _ (by decide) rfl rfl
    rwa [String.ofList_toList] at h
  have hspelled : Spelled ["--local"] .metrics ["--timestamp=" ++ timestamp] [(.localTarget, none)]
      [(.timestamp, some timestamp)] [(.localTarget, .on)] [(.timestamp, .text timestamp)] :=
    { outer_spells := .opens (.long rfl (.flag (by decide) rfl ⟨rfl, by decide, by decide⟩)) .nil
      inner_spells := ⟨.free, .opens (.long hshape hvalue) .nil, fun _ => Standing.noConfusion⟩
      outer_settled := rfl
      inner_settled := rfl }
  exact hspelled.read_eq_ok

end CommandLine

/-! ### Where a record is -/

namespace Evaluation

section

variable (evaluationDir : Path) (site : String) (cwd : Place)

/-- A record is in the directory of its run. -/
theorem place_recordPath (timestamp : String) :
    (recordPath evaluationDir site timestamp).place cwd =
      "metrics.yml" :: (runDir evaluationDir site timestamp).place cwd :=
  Path.place_sub_name cwd _ (by decide)

/-- The directory of a run is where the route of its time stamp lands, from the directory of the
target or from the root. -/
theorem place_runDir_eq_landing (timestamp : String) :
    (runDir evaluationDir site timestamp).place cwd = (Path.route ⟨timestamp⟩).landing
      (if Path.isAbsolute ⟨timestamp⟩ then [] else (evaluationDir.sub site).place cwd) :=
  Path.place_sub_route cwd _ timestamp

variable {timestamp timestamp' : String}

/-- **The runs below the directory of the target**, for a time stamp that does not start at the
root. -/
theorem below_runDir_iff (hrelative : Path.isAbsolute ⟨timestamp⟩ = false) :
    Place.Below ((evaluationDir.sub site).place cwd)
        ((runDir evaluationDir site timestamp).place cwd) ↔
      ∃ names ≠ [], (Path.route ⟨timestamp⟩).down =
        names ++ ((evaluationDir.sub site).place cwd).take (Path.route ⟨timestamp⟩).climb := by
  rw [place_runDir_eq_landing, hrelative, if_neg Bool.false_ne_true, Route.below_landing_iff]

/-- A time stamp that starts at the root leads below the directory of the target only if it names
that directory in full. -/
theorem below_runDir_iff_of_isAbsolute (habsolute : Path.isAbsolute ⟨timestamp⟩ = true) :
    Place.Below ((evaluationDir.sub site).place cwd)
        ((runDir evaluationDir site timestamp).place cwd) ↔
      ∃ names ≠ [], (Path.route ⟨timestamp⟩).down =
        names ++ (evaluationDir.sub site).place cwd := by
  rw [place_runDir_eq_landing, habsolute, if_pos rfl, Route.landing_nil, Place.below_iff]

/-- **The time stamps that share a record**, of those that do not start at the root. -/
theorem place_recordPath_eq_iff (hrelative : Path.isAbsolute ⟨timestamp⟩ = false)
    (hrelative' : Path.isAbsolute ⟨timestamp'⟩ = false)
    (hclimb : (Path.route ⟨timestamp⟩).climb ≤ (Path.route ⟨timestamp'⟩).climb) :
    (recordPath evaluationDir site timestamp).place cwd =
        (recordPath evaluationDir site timestamp').place cwd ↔
      (Path.route ⟨timestamp'⟩).down = (Path.route ⟨timestamp⟩).down ++
        (((evaluationDir.sub site).place cwd).take (Path.route ⟨timestamp'⟩).climb).drop
          (Path.route ⟨timestamp⟩).climb := by
  rw [place_recordPath, place_recordPath, List.cons_inj_right, place_runDir_eq_landing,
    place_runDir_eq_landing, hrelative, hrelative', if_neg Bool.false_ne_true,
    Route.landing_eq_iff hclimb]

/-- A name leads to a directory of its own. -/
theorem place_runDir_of_isName (h : Path.IsName timestamp) :
    (runDir evaluationDir site timestamp).place cwd =
      timestamp :: (evaluationDir.sub site).place cwd :=
  Path.place_sub_name cwd _ h

end

end Evaluation

/-! ### Metrics runs -/

namespace Deployment

variable (ctx : Context σ)

/-- **A metrics run** with a time stamp touches no file but its record, and holds the record there
if it succeeds, wherever links lead. -/
theorem kept_metrics (timestamp : String) (w : World σ) : ∃ result v xs,
    (Registry.standard.dispatch ctx (.metrics (some timestamp))).run w = (result, v) ∧
      Passage {reportPath ctx.config timestamp} w xs v ∧
      (result = .ok () → ∃ report : Report, report.Legible ∧
        w.links.readText v.tree w.around.cwd (reportPath ctx.config timestamp) =
          .ok report.toRecord) := by
  obtain ⟨result, xs, ms, hrun, -, hcollects⟩ := ctx.collects_collectMetrics (some timestamp) w
  have hpassage : Passage {reportPath ctx.config timestamp} w xs
      (Move.replay ctx.runner ms w) := by
    refine hcollects.passage.mono ?_
    rintro _ ⟨timestamp', htimestamp, rfl⟩
    rw [Option.some.inj htimestamp]
    rfl
  have hdispatch : Registry.standard.dispatch ctx (.metrics (some timestamp)) =
      (ctx.collectMetrics (some timestamp) >>= fun _ => pure ()) :=
    Registry.dispatch_metrics ctx _
  rw [hdispatch]
  cases result with
  | error fault =>
      exact ⟨_, _, xs, Session.run_bind_of_error hrun _, hpassage, nofun⟩
  | ok report =>
      obtain ⟨-, hlegible, -, hread⟩ := hcollects.kept timestamp rfl report rfl
      rw [hpassage.links] at hread
      exact ⟨_, _, xs, Session.run_bind_of_ok hrun _, hpassage, fun _ => ⟨report, hlegible, hread⟩⟩

/-- **The places of records.** Any text is taken for a time stamp. Its record is in the directory
where its route lands, from the directory of the target, or from the root if the text starts there.

* That is a proper descendant of the directory of the target exactly if the route goes down again by
  all names that it climbed up from, and further; a route from the root has to go down by all names
  of the directory of the target.
* Of the texts that do not start at the root, two share a record exactly if the one that climbs
  further comes down to where the other one turns, and goes on by the same names.
* So time stamps that are names, as those of the clock are, have directories of their own directly
  under that of the target.

A metrics run touches no file but where the path of its record may arrive, wherever links lead;
where there are none, that is the place of the record. So it replaces the record of another time
stamp only if the two share it. -/
theorem record_places (evaluationDir : Path) (site : String) (cwd : Place) :
    let top := (evaluationDir.sub site).place cwd
    let dirOf := fun timestamp => (runDir evaluationDir site timestamp).place cwd
    let recordOf := fun timestamp => (recordPath evaluationDir site timestamp).place cwd
    (∀ timestamp, CommandLine.read ["--local", "metrics", "--timestamp=" ++ timestamp] =
      .ok ⟨.metrics (some timestamp), { localTarget := true }⟩) ∧
    (∀ timestamp, recordOf timestamp = "metrics.yml" :: dirOf timestamp ∧
      dirOf timestamp = (Path.route ⟨timestamp⟩).landing
        (if Path.isAbsolute ⟨timestamp⟩ then [] else top)) ∧
    (∀ timestamp, Path.isAbsolute ⟨timestamp⟩ = false →
      (Place.Below top (dirOf timestamp) ↔ ∃ names ≠ [], (Path.route ⟨timestamp⟩).down =
        names ++ top.take (Path.route ⟨timestamp⟩).climb)) ∧
    (∀ timestamp, Path.isAbsolute ⟨timestamp⟩ = true →
      (Place.Below top (dirOf timestamp) ↔
        ∃ names ≠ [], (Path.route ⟨timestamp⟩).down = names ++ top)) ∧
    (∀ timestamp timestamp', Path.isAbsolute ⟨timestamp⟩ = false →
      Path.isAbsolute ⟨timestamp'⟩ = false →
      (Path.route ⟨timestamp⟩).climb ≤ (Path.route ⟨timestamp'⟩).climb →
      (recordOf timestamp = recordOf timestamp' ↔ (Path.route ⟨timestamp'⟩).down =
        (Path.route ⟨timestamp⟩).down ++
          (top.take (Path.route ⟨timestamp'⟩).climb).drop (Path.route ⟨timestamp⟩).climb)) ∧
    (∀ timestamp timestamp', Path.IsName timestamp → Path.IsName timestamp' →
      Place.Below top (dirOf timestamp) ∧ dirOf timestamp = timestamp :: top ∧
        (recordOf timestamp = recordOf timestamp' ↔ timestamp = timestamp')) ∧
    (∀ seconds, Path.IsName (Clock.stamp seconds)) ∧
    ∀ (σ : Type) (ctx : Context σ) (timestamp : String) (w : World σ), ∃ result v new,
      (Registry.standard.dispatch ctx (.metrics (some timestamp))).run w = (result, v) ∧
      v.events = w.events ++ new ∧
      (∀ at_ ∉ w.links.arrivals w.around.cwd true (reportPath ctx.config timestamp),
        (∀ x ∈ calls new, x.SparesAt at_) → v.tree.file? at_ = w.tree.file? at_) ∧
      (w.LinkFree → w.links.arrivals w.around.cwd true (reportPath ctx.config timestamp) =
        {(reportPath ctx.config timestamp).place w.around.cwd}) ∧
      (result = .ok () → ∃ report : Report, report.Legible ∧
        w.links.readText v.tree w.around.cwd (reportPath ctx.config timestamp) =
          .ok report.toRecord) := by
  intro top dirOf recordOf
  have hrecord : ∀ timestamp, recordOf timestamp = "metrics.yml" :: dirOf timestamp :=
    place_recordPath evaluationDir site cwd
  have hnamed : ∀ {timestamp}, Path.IsName timestamp → dirOf timestamp = timestamp :: top :=
    place_runDir_of_isName evaluationDir site cwd
  refine ⟨CommandLine.read_timestamp,
    fun timestamp => ⟨hrecord timestamp, place_runDir_eq_landing evaluationDir site cwd timestamp⟩,
    fun _ => below_runDir_iff evaluationDir site cwd,
    fun _ => below_runDir_iff_of_isAbsolute evaluationDir site cwd,
    fun _ _ => place_recordPath_eq_iff evaluationDir site cwd, ?_, Clock.isName_stamp, ?_⟩
  · intro timestamp timestamp' h h'
    refine ⟨Place.below_iff.mpr ⟨[timestamp], List.cons_ne_nil _ _, hnamed h⟩, hnamed h, ?_⟩
    rw [hrecord, hrecord, hnamed h, hnamed h', List.cons_inj_right, List.cons_eq_cons,
      and_iff_left rfl]
  · intro σ ctx timestamp w
    obtain ⟨result, v, xs, hrun, hpassage, hkept⟩ := kept_metrics ctx timestamp w
    obtain ⟨new, hnew, rfl⟩ := hpassage.events
    refine ⟨result, v, new, hrun, hnew, fun at_ hat => hpassage.file?_eq ?_, fun hfree => ?_, hkept⟩
    · rwa [Links.reached_singleton]
    · rw [show w.links = [] from hfree, Links.arrivals_nil]

/-- A record that **strays**: a time stamp that starts at the root discards the evaluation directory
and the target, one that climbs leaves them, an empty one has no directory of its own, and two time
stamps that are told apart by a slash share a record. -/
theorem record_strays :
    let base : Path := ⟨"base/evaluation"⟩
    let top := (base.sub "local").place ["work"]
    let dirOf := fun timestamp => (runDir base "local" timestamp).place ["work"]
    CommandLine.read ["--local", "metrics", "--timestamp", "/results"] =
        .ok ⟨.metrics (some "/results"), { localTarget := true }⟩ ∧
      recordPath base "local" "/results" = ⟨"/results/metrics.yml"⟩ ∧
      ¬ Place.Below top (dirOf "/results") ∧ ¬ Place.Below top (dirOf "../..") ∧
      ¬ Place.Below top (dirOf "") ∧
      (recordPath base "local" "run").place ["work"] =
        (recordPath base "local" "run/").place ["work"] := by
  exact ⟨rfl, by decide, fun hbelow => absurd hbelow.1 (by decide),
    fun hbelow => absurd hbelow.1 (by decide), fun hbelow => hbelow.2 (by decide),
    by decide +kernel⟩

end Deployment

end GeoBench
