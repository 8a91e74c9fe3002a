import GeoBench.Table.Sample

/-!
# Reports

A report is what one aggregation gives: three counters, the share of notifications that saw an
inconsistency, and three mean durations. It is written in two forms with the same fields and the
same rounding, a record of `name: value` lines and an indented object with the names in sorted
order.

## Rounding

Means are rounded to two places when a report is written, in both forms alike; the share is rounded
when it is computed. Counters are whole numbers and need no rounding.

## Main results

* `Report.sortedFields_perm` — the two forms have the same fields.
-/

namespace GeoBench

open GeoBench.Number GeoBench.Table

/-- A number rounded to **two places**, ties to even. -/
def roundTwo (x : Binary64) : Binary64 :=
  ((x.mul (.ofNat 100)).roundEven).div (.ofNat 100)

/-- The **share** of received notifications that saw an inconsistency, in percent with two places;
zero when nothing was received. -/
def inconsistencyShare (inconsistencies received : Nat) : Binary64 :=
  if received = 0 then .zero false
  else roundTwo (((Binary64.ofNat inconsistencies).div (.ofNat received)).mul (.ofNat 100))

/-- The result of one aggregation. -/
structure Report where
  composedPosts : Nat
  receivedNotifications : Nat
  inconsistencies : Nat
  share : Binary64
  composeMean : Binary64
  writeMean : Binary64
  queueMean : Binary64
  deriving DecidableEq

namespace Report

/-- The report on the samples of every metric. -/
def ofSamples (samplesOf : Metric → List Sample) : Report where
  composedPosts := sum (samplesOf .composedPosts)
  receivedNotifications := sum (samplesOf .receivedNotifications)
  inconsistencies := sum (samplesOf .inconsistencies)
  share := inconsistencyShare (sum (samplesOf .inconsistencies))
    (sum (samplesOf .receivedNotifications))
  composeMean := mean (samplesOf .composePostDuration)
  writeMean := mean (samplesOf .writePostDuration)
  queueMean := mean (samplesOf .queueDuration)

/-- The value of a field. -/
inductive Field where
  | count (value : Nat)
  | number (value : Binary64)

/-- The fields of a report as they are written, in the order of the record: the means are rounded to
two places. -/
def fields (r : Report) : List (String × Field) :=
  [("num_composed_posts", .count r.composedPosts),
   ("num_received_notifications", .count r.receivedNotifications),
   ("num_inconsistencies", .count r.inconsistencies),
   ("per_inconsistencies", .number r.share),
   ("avg_compose_post_duration_ms", .number (roundTwo r.composeMean)),
   ("avg_write_post_duration_ms", .number (roundTwo r.writeMean)),
   ("avg_queue_duration_ms", .number (roundTwo r.queueMean))]

/-- The fields in the order of their names. -/
def sortedFields (r : Report) : List (String × Field) :=
  [("avg_compose_post_duration_ms", .number (roundTwo r.composeMean)),
   ("avg_queue_duration_ms", .number (roundTwo r.queueMean)),
   ("avg_write_post_duration_ms", .number (roundTwo r.writeMean)),
   ("num_composed_posts", .count r.composedPosts),
   ("num_inconsistencies", .count r.inconsistencies),
   ("num_received_notifications", .count r.receivedNotifications),
   ("per_inconsistencies", .number r.share)]

/-- The two orders hold the same fields. -/
theorem sortedFields_perm (r : Report) : r.sortedFields.Perm r.fields := by
  classical
  rw [List.perm_iff_count]
  intro a
  simp only [sortedFields, fields, List.count_cons, List.count_nil]
  omega

/-- The text of a number in the record; a number that is not finite has a word. -/
def recordNumber : Binary64 → String
  | .nan => ".nan"
  | .infinite negative => signText negative ++ ".inf"
  | .finite negative rank => dataText "" negative rank

/-- The text of a number in the object, with the sign of its exponent; a number that is not finite
has none. -/
def objectNumber : Binary64 → String
  | .finite negative rank => dataText "+" negative rank
  | _ => "null"

/-- The text of a field, given that of numbers. -/
def Field.text (number : Binary64 → String) : Field → String
  | .count n => toString n
  | .number x => number x

/-- The **record**: one line for each field. -/
def toRecord (r : Report) : String :=
  String.join (r.fields.map fun (name, f) => name ++ ": " ++ f.text recordNumber ++ "\n")

/-- The **object**, indented by two. -/
def toObject (r : Report) : String :=
  "\x7b\n" ++
    String.intercalate ",\n"
      (r.sortedFields.map fun (name, f) => "  \"" ++ name ++ "\": " ++ f.text objectNumber) ++
    "\n\x7d"

/-- The form of a report on the console. -/
inductive Format where
  | record
  | object
  deriving DecidableEq, Repr

/-- The text of a report in a console form. -/
def render (r : Report) : Format → String
  | .record => r.toRecord
  | .object => r.toObject

/-- What the console shows of a report: a report that is kept is shown as its record, whatever the
console form. -/
def echo (r : Report) (format : Format) (kept : Bool) : String :=
  if kept then r.toRecord else r.render format

end Report

end GeoBench
