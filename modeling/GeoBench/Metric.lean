/-!
# Metrics

The six metrics that the social network application exports, the names it exports them under, and
how the values of one metric combine across processes.

## Main results

* `Metric.ofExportName?_exportName` — a metric is found again by its export name.
-/

namespace GeoBench

/-- A **metric** of the application. -/
inductive Metric where
  | composePostDuration
  | composedPosts
  | writePostDuration
  | queueDuration
  | receivedNotifications
  | inconsistencies
  deriving DecidableEq, Repr

namespace Metric

/-- How the values of a metric combine: counters add up, durations are averaged. -/
inductive Kind where
  | counter
  | duration
  deriving DecidableEq, Repr

/-- Every metric, in the order in which they are fetched. -/
def all : List Metric :=
  [composePostDuration, composedPosts, writePostDuration, queueDuration, receivedNotifications,
    inconsistencies]

/-- The name that the application runtime exports a metric under. -/
def exportName : Metric → String
  | composePostDuration => "sn_compose_post_duration_ms"
  | composedPosts => "sn_composed_posts"
  | writePostDuration => "sn_write_post_duration_ms"
  | queueDuration => "sn_queue_duration_ms"
  | receivedNotifications => "sn_received_notifications"
  | inconsistencies => "sn_inconsistencies"

/-- The kind of a metric. -/
def kind : Metric → Kind
  | composedPosts | receivedNotifications | inconsistencies => .counter
  | composePostDuration | writePostDuration | queueDuration => .duration

/-- The metric with a given export name. -/
def ofExportName? (name : String) : Option Metric :=
  all.find? fun m => m.exportName == name

/-- No metric is missing from the list of all. -/
theorem mem_all (m : Metric) : m ∈ all := by
  cases m <;> decide

/-- A metric is found again by its export name. -/
theorem ofExportName?_exportName (m : Metric) : ofExportName? m.exportName = some m := by
  cases m <;> decide

end Metric

end GeoBench
