import GeoBench.Proofs.Evaluation.FiniteFields
import GeoBench.Proofs.Evaluation.ObjectReading
import GeoBench.Proofs.Table.Counters
import Mathlib.Data.List.Nodup

/-!
# The two forms of a report

Read back, the record and the object of a report have the same seven names, each once. The counters
and the share are the same in both, and so is a mean that has two places. A mean that has none,
since it is not finite or becomes infinite when it is multiplied by a hundred, is a word in the
record and nothing in the object.

## Where a mean has no places

A mean of finite numbers can be infinite, since the sum may be. And a finite mean can be lost when
it is rounded: it is multiplied by a hundred first, and the product may pass the finite numbers.
Where this begins is told by an exact bound (`GeoBench.Proofs.Number.Bounds`), and the agreement of
the two forms is told by it for every table.

## Main results

* `Report.formsAgree_iff` — the forms agree exactly if every field is a finite number.
* `Report.forms_ofSamples` — what the forms of an aggregation say, and when they agree.
* `Report.large_mean_lost` — a finite mean that is lost in the object.
-/

namespace GeoBench.Report

open GeoBench.Number GeoBench.Table GeoBench.Yaml

/-! ### Agreement -/

/-- Whether the two forms of a report **agree**: read back, they have the same names, each once, and
each name has the same value. -/
def FormsAgree (r : Report) : Prop :=
  ∃ entries members, Document.read r.toRecord = .ok (.mapping entries) ∧
    readObject r.toObject = some members ∧ (members.map Prod.fst).Nodup ∧
    entries.Perm (members.map fun m => (.string m.1, m.2))

/-- The values of a field are the same in both forms exactly if it is finite. -/
theorem Field.objectValue_eq_iff {f : Field} :
    f.objectValue = f.recordValue ↔ ∀ x, f = .number x → x.isFinite := by
  cases f with
  | count n => simp [objectValue, recordValue]
  | number x => cases h : x.isFinite <;> simp [objectValue, recordValue, h]

/-- The names of the object are those of the record, in another order. -/
theorem nodup_map_fst_sortedFields (r : Report) : (r.sortedFields.map Prod.fst).Nodup :=
  ((r.sortedFields_perm.map Prod.fst).nodup_iff).mpr nodup_names

section

variable {r : Report}

/-- **The forms of a report agree** exactly if each field has the same value in both. -/
theorem formsAgree_iff
    (hwords : ∀ field ∈ r.fields, ∀ n, field.2 = .count n → n ≤ Binary64.maxWord) :
    r.FormsAgree ↔ ∀ field ∈ r.fields, ∀ x, field.2 = .number x → x.isFinite := by
  have hrecord := read_toRecord hwords
  have hobject := readObject_toObject r
  simp only [← Field.objectValue_eq_iff]
  constructor
  · rintro ⟨entries, members, hentries, hmembers, -, hperm⟩ field hfield
    rw [hrecord] at hentries
    rw [hobject] at hmembers
    obtain rfl := Value.mapping.inj (Except.ok.inj hentries)
    obtain rfl := Option.some.inj hmembers
    have hmem : (Value.string field.1, field.2.recordValue) ∈ _ :=
      hperm.subset (List.mem_map_of_mem hfield)
    simp only [List.map_map, List.mem_map, Function.comp_apply, Prod.mk.injEq,
      Value.string.injEq] at hmem
    obtain ⟨other, hother, hname, hvalue⟩ := hmem
    -- the names are all different, so it is the same field
    have hnodup : (r.fields.map Prod.fst).Nodup := nodup_names
    have hsame : other = field :=
      List.inj_on_of_nodup_map hnodup (r.sortedFields_perm.mem_iff.mp hother) hfield hname
    rw [← hvalue, hsame]
  · intro hall
    refine ⟨_, _, hrecord, hobject, ?_, ?_⟩
    · rw [List.map_map]
      exact nodup_map_fst_sortedFields r
    · rw [List.map_map]
      have hmap : r.fields.map (fun field => (Value.string field.1, field.2.recordValue)) =
          r.fields.map (fun field => (Value.string field.1, field.2.objectValue)) :=
        List.map_congr_left fun field h => by rw [hall field h]
      rw [hmap]
      exact r.sortedFields_perm.symm.map _

end

/-! ### Aggregations -/

/-- The means of a report as they were computed, each with the name of its field. -/
def meanFields (r : Report) : List (String × Binary64) :=
  [("avg_compose_post_duration_ms", r.composeMean), ("avg_write_post_duration_ms", r.writeMean),
   ("avg_queue_duration_ms", r.queueMean)]

/-- **What the two forms of a report say**, read back. -/
structure TwoForms (r : Report) : Prop where
  /-- The record holds every field with its own value. -/
  record : Document.read r.toRecord =
    .ok (.mapping (r.fields.map fun field => (.string field.1, field.2.recordValue)))
  /-- The object holds every field with a value. -/
  object : readObject r.toObject =
    some (r.sortedFields.map fun field => (field.1, field.2.objectValue))
  /-- The two have the same fields. -/
  order : r.sortedFields.Perm r.fields
  /-- There are seven names, all of them different. -/
  names : r.fields.map Prod.fst = names ∧ names.Nodup
  /-- The counters and the share have the same value in both. -/
  others : ∀ field ∈ r.fields, field.1 ∉ r.meanFields.map Prod.fst →
    field.2.objectValue = field.2.recordValue
  /-- A mean is rounded to two places in both. In the object it is nothing if it has no places, and
  then the record has an infinity or no number for it. -/
  means : ∀ e ∈ r.meanFields, (e.1, Field.number (roundTwo e.2)) ∈ r.fields ∧
    (HasPlaces e.2 → (Field.number (roundTwo e.2)).objectValue =
      .number (.float (roundTwo e.2))) ∧
    (¬ HasPlaces e.2 → (Field.number (roundTwo e.2)).objectValue = .null ∧
      (roundTwo e.2 = .nan ∨ ∃ negative, roundTwo e.2 = .infinite negative))
  /-- The forms agree exactly if every mean has two places. -/
  agree : r.FormsAgree ↔ ∀ e ∈ r.meanFields, HasPlaces e.2

section

variable (samplesOf : Metric → List Sample)

/-- The counters of an aggregation are words. -/
theorem count_ofSamples_le : ∀ field ∈ (ofSamples samplesOf).fields, ∀ n,
    field.2 = .count n → n ≤ Binary64.maxWord := by
  simp [fields, ofSamples, sum_le]

/-- The share of an aggregation is finite. -/
theorem isFinite_share_ofSamples : (ofSamples samplesOf).share.isFinite :=
  isFinite_share (sum_le _) (sum_le _)

/-- The numbers of an aggregation are finite exactly if its means have two places. -/
theorem isFinite_fields_iff :
    (∀ field ∈ (ofSamples samplesOf).fields, ∀ x, field.2 = .number x → x.isFinite) ↔
      ∀ e ∈ (ofSamples samplesOf).meanFields, HasPlaces e.2 := by
  simp [fields, meanFields, isFinite_share_ofSamples, isFinite_roundTwo]

/-- A field that is no mean has the same value in both forms. -/
theorem objectValue_of_notMean {field : String × Field}
    (h : field ∈ (ofSamples samplesOf).fields)
    (hname : field.1 ∉ (ofSamples samplesOf).meanFields.map Prod.fst) :
    field.2.objectValue = field.2.recordValue := by
  rw [Field.objectValue_eq_iff]
  simp only [fields, List.mem_cons, List.not_mem_nil, or_false] at h
  rcases h with rfl | rfl | rfl | rfl | rfl | rfl | rfl
  · rintro x ⟨⟩
  · rintro x ⟨⟩
  · rintro x ⟨⟩
  · rintro x ⟨⟩
    exact isFinite_share_ofSamples samplesOf
  all_goals exact absurd (by simp [meanFields]) hname

/-- **What the two forms of an aggregation say**, and when they agree. -/
theorem forms_ofSamples : TwoForms (ofSamples samplesOf) where
  record := read_toRecord (count_ofSamples_le samplesOf)
  object := readObject_toObject _
  order := sortedFields_perm _
  names := ⟨map_fst_fields _, nodup_names⟩
  others := fun _ => objectValue_of_notMean samplesOf
  means := by
    refine fun e he => ⟨?_, fun hplaces => ?_, fun hplaces => ?_⟩
    · simp only [meanFields, List.mem_cons, List.not_mem_nil, or_false] at he
      rcases he with rfl | rfl | rfl <;> simp [fields]
    · rw [Field.objectValue, if_pos ((isFinite_roundTwo e.2).mpr hplaces)]
    · rw [← isFinite_roundTwo] at hplaces
      refine ⟨if_neg hplaces, ?_⟩
      cases hrounded : roundTwo e.2 with
      | nan => exact .inl rfl
      | infinite negative => exact .inr ⟨negative, rfl⟩
      | finite negative rank => exact absurd (by rw [hrounded]; rfl) hplaces
  agree := (formsAgree_iff (count_ofSamples_le samplesOf)).trans (isFinite_fields_iff samplesOf)

end

/-- **A mean is lost** in the object, although it is a finite number: `1e307` passes the finite
numbers when it is multiplied by a hundred. -/
theorem large_mean_lost :
    let r := ofSamples fun
      | .queueDuration => [.float (.ofDecimal false 1 307)]
      | _ => []
    r.queueMean = .ofDecimal false 1 307 ∧ r.queueMean.isFinite ∧
      r.toRecord = "num_composed_posts: 0\nnum_received_notifications: 0\n" ++
        "num_inconsistencies: 0\nper_inconsistencies: 0.0\navg_compose_post_duration_ms: 0.0\n" ++
        "avg_write_post_duration_ms: 0.0\navg_queue_duration_ms: .inf\n" ∧
      r.toObject = "\x7b\n  \"avg_compose_post_duration_ms\": 0.0,\n" ++
        "  \"avg_queue_duration_ms\": null,\n  \"avg_write_post_duration_ms\": 0.0,\n" ++
        "  \"num_composed_posts\": 0,\n  \"num_inconsistencies\": 0,\n" ++
        "  \"num_received_notifications\": 0,\n  \"per_inconsistencies\": 0.0\n\x7d" ∧
      ¬ r.FormsAgree := by
  intro r
  have hlost : (roundTwo r.queueMean).isFinite = false := by decide +kernel
  refine ⟨by decide +kernel, by decide +kernel, by decide +kernel, by decide +kernel, ?_⟩
  have hfield : ("avg_queue_duration_ms", .number (roundTwo r.queueMean)) ∈ r.fields := by
    simp [fields]
  rw [formsAgree_iff (count_ofSamples_le _)]
  intro hall
  have hfinite := hall _ hfield _ rfl
  rw [hlost] at hfinite
  cases hfinite

end GeoBench.Report
