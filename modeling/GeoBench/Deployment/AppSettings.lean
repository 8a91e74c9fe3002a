import GeoBench.Toml.Document
import GeoBench.Toml.Printer

/-!
# Settings of the application

The settings file of the application has a section for each of its components, and in a section the
addresses of the datastores that the component uses. The settings for a region are made from a
template by pointing every such address at the datastore host of the region.

## Main results

* `lookup_pointSection` — in a section, exactly the addresses change.
-/

namespace GeoBench.Deployment

open GeoBench.Toml

/-- The keys of a section that hold the **address** of a datastore. -/
def addressKeys : List String :=
  ["mongodb_address", "redis_address", "rabbitmq_address", "memcached_address"]

/-- A section with every address pointed at a host. -/
def pointSection (host : String) (section_ : Entries) : Entries :=
  section_.map fun (k, v) => (k, if addressKeys.contains k then .string host else v)

/-- Settings with the addresses of every section pointed at a host. -/
def pointAt (host : String) (settings : Entries) : Entries :=
  settings.map fun (k, v) =>
    match v with
    | .table section_ => (k, .table (pointSection host section_))
    | other => (k, other)

/-- The text of the settings that a template gives for a host. -/
def renderSettings (template host : String) : Except Toml.Fault String := do
  return Toml.render (pointAt host (← Toml.Document.read template))

/-- In a section, exactly the addresses change. -/
theorem lookup_pointSection (host : String) (section_ : Entries) (key : String) :
    (pointSection host section_).lookup key =
      if addressKeys.contains key then (section_.lookup key).map fun _ => .string host
      else section_.lookup key := by
  induction section_ with
  | nil => simp [pointSection]
  | cons e es ih =>
    obtain ⟨k, v⟩ := e
    simp only [pointSection, List.map_cons, List.lookup_cons] at ih ⊢
    by_cases hk : key = k
    · subst hk
      simp only [beq_self_eq_true]
      split <;> rfl
    · have : (key == k) = false := by simpa using hk
      simp only [this]
      exact ih

end GeoBench.Deployment
