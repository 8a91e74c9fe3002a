import GeoBench.Command
import GeoBench.Yaml.Document
import GeoBench.Yaml.Printer

/-!
# Variables of a deployment

The playbooks of a deployment read their variables from a data file. It is made from a template, a
mapping, by setting three keys: the base directory, the time stamp of a workload and the target. A
key that is there keeps its place; the others are appended.

## Main results

* `length_setEntry` — setting a key adds an entry exactly when the key is not there.
-/

namespace GeoBench.Deployment

open GeoBench.Yaml

/-- The entries of a mapping with a key **set** to a value. -/
def setEntry (key : String) (v : Value) : List (Value × Value) → List (Value × Value)
  | [] => [(.string key, v)]
  | (k, w) :: rest =>
    if Value.same k (.string key) then (k, v) :: rest else (k, w) :: setEntry key v rest

/-- Setting a key adds an entry exactly when the key is not there. -/
theorem length_setEntry (key : String) (v : Value) (es : List (Value × Value)) :
    (setEntry key v es).length =
      es.length + if es.any (fun e => Value.same e.1 (.string key)) then 0 else 1 := by
  induction es with
  | nil => rfl
  | cons e es ih =>
    obtain ⟨k, w⟩ := e
    by_cases h : Value.same k (.string key) = true
    · simp [setEntry, h]
    · simp only [Bool.not_eq_true] at h
      simp only [setEntry, h, List.length_cons, ih, List.any_cons, Bool.false_or,
        Bool.false_eq_true, if_false]
      omega

/-- What the variables are set to. -/
structure VarSetting where
  baseDir : String
  timestamp? : Option String
  site? : Option Site
  deriving DecidableEq, Repr

/-- A text, or no value when there is none. -/
def optionalText (s? : Option String) : Value :=
  match s? with
  | some s => .string s
  | none => .null

/-- The entries of a mapping with the three keys set. -/
def setVars (s : VarSetting) (es : List (Value × Value)) : List (Value × Value) :=
  setEntry "deployment_type" (optionalText (s.site?.map Site.name))
    (setEntry "workload_timestamp" (optionalText s.timestamp?)
      (setEntry "base_dir" (.string s.baseDir) es))

/-- Why there are no variables for a template. -/
inductive VarsFault where
  | malformed (cause : Yaml.Fault)
  | notAMapping
  deriving DecidableEq, Repr

/-- Whether there is no value, whatever its tag. -/
def isNull : Value → Bool
  | .null => true
  | .tagged _ v => isNull v
  | _ => false

/-- A mapping with the three keys set, whatever its tag; another value is none. -/
def setVarsIn (s : VarSetting) : Value → Option Value
  | .mapping es => some (.mapping (setVars s es))
  | .tagged tag v => (setVarsIn s v).map (.tagged tag)
  | _ => none

/-- The variables that the value of a template gives. No value counts as a mapping without
entries. -/
def varsOf (s : VarSetting) (v : Value) : Except VarsFault Value :=
  match setVarsIn s (if isNull v then .mapping [] else v) with
  | some w => .ok w
  | none => .error .notAMapping

/-- The text of the **variables** that a template gives. -/
def renderVars (template : String) (s : VarSetting) : Except VarsFault String := do
  let v ← (Document.read template).mapError .malformed
  return (← varsOf s v).render

end GeoBench.Deployment
