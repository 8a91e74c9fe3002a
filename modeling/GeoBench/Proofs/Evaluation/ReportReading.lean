import GeoBench.Proofs.Evaluation.AggregateTrace
import GeoBench.Proofs.Evaluation.ReportForms

/-!
# Reading a report that was collected

A report that is kept or shown is a text, and what counts is what a reader of the text finds. Both
forms are read back by readers that know nothing of reports: the record as any data file, the object
as any text in the notation of objects. What they find are the seven names, each with the value of
its field, so a report that is somewhere as a text is there as a report.

## Which reports

A data file has whole numbers up to a bound, and a counter beyond it would not be read back. The
counters of a report that sums up tables never pass that bound (`SumsUp.count_le`), so what is told
here holds of all reports that an aggregation gives, whatever the tables.

A mean that is not finite has a word in the record and nothing in the object, as in
`Report.forms_ofSamples`; `Report.Legible` says for each form what it has.

## Main results

* `Report.legible_of_count_le` — what a reader finds in the two forms.
* `Aggregated.legible` — the same for every report that is collected.
-/

namespace GeoBench

open GeoBench.Machine GeoBench.Number GeoBench.Yaml GeoBench.Table

namespace Report

/-- What a number is to a reader of an object: nothing, if it is not finite. -/
def numberIfFinite (x : Binary64) : Value :=
  if x.isFinite then .number (.float x) else .null

/-- **What a reader finds** in a report: every name with its own value, the means rounded to two
places. -/
structure Legible (r : Report) : Prop where
  /-- The record is a data file with one mapping. -/
  record : Document.read r.toRecord = .ok (.mapping
    [(.string "num_composed_posts", .number (.whole r.composedPosts)),
     (.string "num_received_notifications", .number (.whole r.receivedNotifications)),
     (.string "num_inconsistencies", .number (.whole r.inconsistencies)),
     (.string "per_inconsistencies", .number (.float r.share)),
     (.string "avg_compose_post_duration_ms", .number (.float (roundTwo r.composeMean))),
     (.string "avg_write_post_duration_ms", .number (.float (roundTwo r.writeMean))),
     (.string "avg_queue_duration_ms", .number (.float (roundTwo r.queueMean)))])
  /-- The object has the same names in their order. -/
  object : readObject r.toObject = some
    [("avg_compose_post_duration_ms", numberIfFinite (roundTwo r.composeMean)),
     ("avg_queue_duration_ms", numberIfFinite (roundTwo r.queueMean)),
     ("avg_write_post_duration_ms", numberIfFinite (roundTwo r.writeMean)),
     ("num_composed_posts", .number (.whole r.composedPosts)),
     ("num_inconsistencies", .number (.whole r.inconsistencies)),
     ("num_received_notifications", .number (.whole r.receivedNotifications)),
     ("per_inconsistencies", numberIfFinite r.share)]

/-- A report with counters that a data file can hold is **legible** in both forms. -/
theorem legible_of_count_le {r : Report}
    (h : ∀ field ∈ r.fields, ∀ n, field.2 = .count n → n ≤ Binary64.maxWord) : r.Legible where
  record := read_toRecord h
  object := readObject_toObject r

end Report

namespace Evaluation

variable {r : Report} {texts : Metric → String}

/-- The counters of a report that sums up tables stay within the bound of a word. -/
theorem SumsUp.count_le (h : SumsUp r texts) :
    ∀ field ∈ r.fields, ∀ n, field.2 = .count n → n ≤ Binary64.maxWord := by
  simp [Report.fields, h.composedPosts, h.receivedNotifications, h.inconsistencies, sum_le]

/-- **Every report that is collected** is legible. -/
theorem Aggregated.legible {s : Source} {xs : List Exchange} (h : Aggregated s xs (.ok r)) :
    r.Legible := by
  cases h with
  | whole texts _ _ hreport => exact Report.legible_of_count_le hreport.count_le

end Evaluation

end GeoBench
