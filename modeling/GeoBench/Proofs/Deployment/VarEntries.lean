import GeoBench.Deployment.Vars
import GeoBench.Proofs.Yaml.Keys

/-!
# Entries of the variables

The variables of a deployment are a mapping in which three keys are set. Setting one key gives it
its value and leaves every other key alone, so each of the three has the value that it was set to,
wherever it stood in the template.

## Main results

* `entryIn?_setEntry_self`, `entryIn?_setEntry_of_ne` — what is found after a key was set.
* `exists_of_renderVars` — what the variables that were rendered have under the keys that were set.
-/

namespace GeoBench

namespace Deployment

open GeoBench.Yaml GeoBench.Machine

variable {key other : String} {v w : Value} {es : List (Value × Value)}

/-- A key that is set has its value. -/
theorem entryIn?_setEntry_self (key : String) (v : Value) (es : List (Value × Value)) :
    Value.entryIn? key (setEntry key v es) = some v := by
  induction es with
  | nil => exact Value.entryIn?_cons_of_same (Value.same_string_iff.mpr rfl) v []
  | cons e es ih =>
      obtain ⟨k, u⟩ := e
      rw [setEntry]
      split
      next hsame => exact Value.entryIn?_cons_of_same hsame v es
      next hsame => rw [Value.entryIn?_cons_of_not_same hsame, ih]

/-- Every other key is left alone. -/
theorem entryIn?_setEntry_of_ne (hne : other ≠ key) (v : Value) (es : List (Value × Value)) :
    Value.entryIn? other (setEntry key v es) = Value.entryIn? other es := by
  have hnot : ∀ {k : Value}, Value.same k (.string key) → ¬ Value.same k (.string other) := by
    intro k hkey hother
    rw [Value.same_string_iff] at hkey hother
    rw [hkey] at hother
    exact hne (Value.string.inj hother).symm
  induction es with
  | nil => exact Value.entryIn?_cons_of_not_same (hnot (Value.same_string_iff.mpr rfl)) v []
  | cons e es ih =>
      obtain ⟨k, u⟩ := e
      rw [setEntry]
      split
      next hsame =>
        rw [Value.entryIn?_cons_of_not_same (hnot hsame),
          Value.entryIn?_cons_of_not_same (hnot hsame)]
      next hsame =>
        by_cases hother : Value.same k (.string other)
        · rw [Value.entryIn?_cons_of_same hother, Value.entryIn?_cons_of_same hother]
        · rw [Value.entryIn?_cons_of_not_same hother, Value.entryIn?_cons_of_not_same hother, ih]

/-- The three keys have their values, whatever the mapping was. -/
theorem entryIn?_setVars (s : VarSetting) (es : List (Value × Value)) :
    Value.entryIn? "base_dir" (setVars s es) = some (.string s.baseDir) ∧
      Value.entryIn? "workload_timestamp" (setVars s es) = some (optionalText s.timestamp?) ∧
      Value.entryIn? "deployment_type" (setVars s es) =
        some (optionalText (s.site?.map Site.name)) := by
  refine ⟨?_, ?_, entryIn?_setEntry_self _ _ _⟩
  · rw [setVars, entryIn?_setEntry_of_ne (by decide), entryIn?_setEntry_of_ne (by decide),
      entryIn?_setEntry_self]
  · rw [setVars, entryIn?_setEntry_of_ne (by decide), entryIn?_setEntry_self]

/-- What all mappings have in which the three keys are set, a value with the keys set has, whatever
its tag. -/
theorem entry?_setVarsIn {s : VarSetting} {x : Value}
    (hset : ∀ es, Value.entryIn? key (setVars s es) = some x) (h : setVarsIn s v = some w) :
    w.entry? key = some x := by
  fun_induction setVarsIn s v generalizing w with
  | case1 es =>
      obtain rfl := Option.some.inj h
      exact hset es
  | case2 tag v ih =>
      obtain ⟨u, hu, rfl⟩ := Option.map_eq_some_iff.mp h
      show u.entry? key = some x
      exact ih hu
  | case3 => cases h

/-- **Variables that were rendered** have the values that were set. -/
theorem exists_of_renderVars {template text : String} {s : VarSetting}
    (h : renderVars template s = .ok text) :
    ∃ v : Value, text = v.render ∧ v.entry? "base_dir" = some (.string s.baseDir) ∧
      v.entry? "workload_timestamp" = some (optionalText s.timestamp?) ∧
      v.entry? "deployment_type" = some (optionalText (s.site?.map Site.name)) := by
  obtain ⟨u, -, h⟩ := exists_of_bind_eq_ok h
  obtain ⟨v, hv, h⟩ := exists_of_bind_eq_ok h
  rw [varsOf] at hv
  split at hv
  next v' hset =>
    obtain rfl : v' = v := Except.ok.inj hv
    exact ⟨v', (Except.ok.inj h).symm, entry?_setVarsIn (fun es => (entryIn?_setVars s es).1) hset,
      entry?_setVarsIn (fun es => (entryIn?_setVars s es).2.1) hset,
      entry?_setVarsIn (fun es => (entryIn?_setVars s es).2.2) hset⟩
  · cases hv

end Deployment

end GeoBench
