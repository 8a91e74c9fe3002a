import GeoBench.Yaml.Document

/-!
# Project profiles

A profile names the cloud project and the user that the machines are reached as. It is a mapping in
a data file with two fields; both may be written without quotes, so numbers and truth values count
as their text.

## Order of faults

A field is missing if the mapping has none of its name, and this is found when the mapping was read
to its end. What stands behind the mapping is looked at after that, and whether the two values are
of a kind that has a text comes last.

## Main results

* `Profile.fieldText?_string` — a string is its own text.
-/

namespace GeoBench.Cloud

open GeoBench.Yaml

/-- A project **profile**. -/
structure Profile where
  projectId : String
  username : String
  deriving DecidableEq, Repr

/-- Why a text is no profile. -/
inductive ProfileFault where
  | malformed (cause : Yaml.Fault)
  | missing (field : String)
  | notScalar (field : String)
  deriving DecidableEq, Repr

/-- The wording of a fault. -/
def ProfileFault.message : ProfileFault → String
  | malformed cause => cause.message
  | missing field => "missing field \x60" ++ field ++ "\x60"
  | notScalar field => "'" ++ field ++ "' must be a scalar"

namespace Profile

/-- The names of the two fields. -/
abbrev projectField : String := "project_id"

/-- The name of the field for the user. -/
abbrev userField : String := "username"

/-- The text of a field. -/
def fieldText? : Value → Option String
  | .string s => some s
  | .number n => some (Value.numberText n)
  | .bool b => some (if b then "true" else "false")
  | _ => none

/-- A string is its own text. -/
theorem fieldText?_string (s : String) : fieldText? (.string s) = some s := rfl

/-- The place behind the value at a place, whatever it is; `depth` collections are open. -/
def skipFrom (d : Document) : Nat → Nat → Nat → Except Yaml.Fault Nat
  | 0, _, _ => .error .repetition
  | fuel + 1, depth, at_ => do
    match ← d.piece at_ with
    | .sequenceStart _ | .mappingStart _ => skipFrom d fuel (depth + 1) (at_ + 1)
    | .sequenceEnd | .mappingEnd =>
      if depth ≤ 1 then return at_ + 1 else skipFrom d fuel (depth - 1) (at_ + 1)
    | _ => if depth = 0 then return at_ + 1 else skipFrom d fuel depth (at_ + 1)

/-- The name of a field at a place, and how many references were followed so far. -/
def fieldName (d : Document) (at_ jumps : Nat) : Except Yaml.Fault (String × Nat) := do
  match ← d.piece at_ with
  | .scalar _ text _ => return (text, jumps)
  | .reference id =>
    match ← d.piece (← d.follow id jumps) with
    | .scalar _ text _ => return (text, jumps + 1)
    | _ => .error .kind
  | _ => .error .kind

/-- The values of the two fields, as far as they are there. -/
structure Fields where
  project? : Option Value := none
  user? : Option Value := none

/-- The fields of a mapping from a place on. Other fields are passed over. -/
def fieldsFrom (d : Document) : Nat → Nat → Nat → Fields → Except Yaml.Fault Fields
  | 0, _, _, _ => .error .repetition
  | fuel + 1, at_, jumps, found => do
    if (← d.piece at_) = .mappingEnd then return found
    else
      let (name, jumps) ← fieldName d at_ jumps
      let read : Except Yaml.Fault (Document.Reading Value) :=
        d.value d.fuel false (Document.depthLimit - 1) (at_ + 1) jumps
      if name = projectField then
        if found.project?.isSome then .error .duplicateKey
        else
          let r ← read
          fieldsFrom d fuel r.next r.jumps { found with project? := some r.result }
      else if name = userField then
        if found.user?.isSome then .error .duplicateKey
        else
          let r ← read
          fieldsFrom d fuel r.next r.jumps { found with user? := some r.result }
      else
        fieldsFrom d fuel (← skipFrom d (d.pieces.size + 1) 0 (at_ + 1)) jumps found

/-- The fields of a document. No document and an empty one have none. -/
def fieldsOf (d : Document) : Except Yaml.Fault Fields := do
  match ← d.piece 0 with
  | .nothing => return {}
  | .scalar _ "" .plain => return {}
  | .mappingStart _ => fieldsFrom d (d.pieces.size + 1) 1 0 {}
  | _ => .error .kind

/-- The **profile** that a text holds. A field that is missing is named before a fault behind the
mapping, and that before a field of the wrong kind. -/
def parse (content : String) : Except ProfileFault Profile := do
  let d := Document.ofText content
  let fields ← (fieldsOf d).mapError .malformed
  let present (v? : Option Value) (field : String) : Except ProfileFault Value :=
    match v? with
    | some v => .ok v
    | none => .error (.missing field)
  let project ← present fields.project? projectField
  let user ← present fields.user? userField
  d.closing.mapError .malformed
  let scalar (v : Value) (field : String) : Except ProfileFault String :=
    match fieldText? v with
    | some s => .ok s
    | none => .error (.notScalar field)
  return { projectId := ← scalar project projectField, username := ← scalar user userField }

end Profile

end GeoBench.Cloud
