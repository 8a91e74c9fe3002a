import GeoBench.Toml.Value

/-!
# Tables that are being written

While a settings file is read its tables grow: a section opens a table, a key with several parts
reaches into tables inside the open one, and a section with double brackets adds a row to an array
of tables. Each table remembers how it came to be, because a table that was written out once may not
be opened again.

## Main results

* `Draft.define_twice` — a key is not given a second value.
-/

namespace GeoBench.Toml

/-- What stands under a key **so far**. A table is `implicit` when it was only passed through, and
`dotted` when a key with several parts made it; the rows of an array of tables are there with the
latest first. -/
inductive Draft where
  | value (v : Value)
  | table (implicit dotted : Bool) (entries : List (String × Draft))
  | rows (rows : List (List (String × Draft)))

namespace Draft

/-- The entries of a table so far. -/
abbrev Layer := List (String × Draft)

/-- A layer after a **change** of the one that a path leads to. The change sees whether that one is
dotted. Tables on the way are made when they are missing; a path of a dotted key may not pass
through a table that was opened as a section. -/
def alter (viaKey : Bool) (change : Bool → Layer → Except Fault Layer) :
    List String → Bool → Layer → Except Fault Layer
  | [], dotted, layer => change dotted layer
  | k :: ks, _, layer =>
    match layer.lookup k with
    | none => do
      let inner ← alter viaKey change ks viaKey []
      return insertEntry k (.table true viaKey inner) layer
    | some (.value _) => .error .key
    | some (.rows []) => .error .key
    | some (.rows (row :: others)) => do
      let inner ← alter viaKey change ks false row
      return insertEntry k (.rows (inner :: others)) layer
    | some (.table implicit dotted inner) =>
      if viaKey && !implicit then .error .key
      else do
        let inner ← alter viaKey change ks dotted inner
        return insertEntry k (.table implicit dotted inner) layer

/-- A path cut into the way and its last part. -/
def splitPath (path : List String) : List String × String :=
  (path.dropLast, path.getLast?.getD "")

/-- A **value** put under a key of a layer. A dotted table takes further keys only by dotted
keys. -/
def define (direct : Bool) (key : String) (v : Value) (dotted : Bool) (layer : Layer) :
    Except Fault Layer :=
  if dotted = direct then .error .key
  else match layer.lookup key with
    | some _ => .error .key
    | none => .ok (insertEntry key (.value v) layer)

/-- A key is not given a second value. -/
theorem define_twice {direct dotted : Bool} {key : String} {v w : Value} {layer layer' : Layer}
    (h : define direct key v dotted layer = .ok layer') :
    define direct key w dotted layer' = .error .key := by
  simp only [define] at h ⊢
  by_cases hd : dotted = direct
  · simp [hd]
  · simp only [hd, if_false] at h ⊢
    split at h
    · cases h
    · cases h
      simp [lookup_insertEntry_self]

/-- A value put under a key with one or more parts, seen from a table. -/
def assign (path : List String) (v : Value) (dotted : Bool) (layer : Layer) :
    Except Fault Layer :=
  let (way, key) := splitPath path
  alter true (define way.isEmpty key v) way dotted layer

/-- The **section** with a path is opened. -/
def openSection (path : List String) (root : Layer) : Except Fault Layer :=
  let (way, key) := splitPath path
  alter false (fun _ layer =>
    match layer.lookup key with
    | none => .ok (insertEntry key (.table false false []) layer)
    | some (.table true false inner) => .ok (insertEntry key (.table false false inner) layer)
    | some _ => .error .key) way false root

/-- One more **row** of the array of tables with a path is opened. -/
def openRow (path : List String) (root : Layer) : Except Fault Layer :=
  let (way, key) := splitPath path
  alter false (fun _ layer =>
    match layer.lookup key with
    | none => .ok (insertEntry key (.rows [[]]) layer)
    | some (.rows earlier) => .ok (insertEntry key (.rows ([] :: earlier)) layer)
    | some _ => .error .key) way false root

mutual

/-- The value that a draft comes to. -/
def toValue : Draft → Value
  | .value v => v
  | .table _ _ entries => .table (layerValue entries)
  | .rows latestFirst => .array (rowValues latestFirst [])

/-- The entries that a layer comes to. -/
def layerValue : List (String × Draft) → Entries
  | [] => []
  | (k, d) :: rest => (k, toValue d) :: layerValue rest

/-- The tables that rows come to, in front of the ones after them. -/
def rowValues : List (List (String × Draft)) → List Value → List Value
  | [], after => after
  | row :: rest, after => rowValues rest (.table (layerValue row) :: after)

end

end Draft

end GeoBench.Toml
