/-!
# Faults of a data file

Why a text is no data file, or holds no value: each cause has a name, and all of them have one
wording.
-/

namespace GeoBench.Yaml

/-- What is **wrong** with a data file. -/
inductive Fault where
  /-- A character that no data file may hold. -/
  | character
  /-- Characters that begin or continue no token. -/
  | token
  /-- A token where the grammar has none. -/
  | grammar
  /-- A reference to something without that name. -/
  | reference
  /-- References are followed too often. -/
  | repetition
  /-- Collections stand too deep inside one another. -/
  | nesting
  /-- A mapping has a key twice. -/
  | duplicateKey
  /-- A value of another kind than what is asked for. -/
  | kind
  /-- A number that no value can hold. -/
  | range
  /-- There is more than one document, or none. -/
  | documents
  deriving DecidableEq, Repr

/-- The wording of every fault. -/
def Fault.message (_ : Fault) : String :=
  "<yaml error>"

end GeoBench.Yaml
