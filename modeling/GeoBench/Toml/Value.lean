import GeoBench.Number.Decimal

/-!
# Values of a settings file

The values of a settings file with sections: texts, numbers, truth values, dates and times, arrays
and tables. The entries of a table are kept in the order of their keys, and no key is there twice.

## Order of entries

The entries of a table are kept in the order of their keys, so two tables with the same entries are
equal however they were written. A new entry takes the place of an old one under the same key.

## Main results

* `lookup_insertEntry_self`, `lookup_insertEntry_of_ne` — what is found after an entry is put in.
-/

namespace GeoBench.Toml

open GeoBench.Number

/-- What is **wrong** with a settings file. -/
inductive Fault where
  /-- Characters that the grammar has no place for. -/
  | grammar
  /-- A number or a date that no value can hold. -/
  | range
  /-- A key is there already, or belongs to something else than a table. -/
  | key
  /-- Values or keys stand too deep inside one another. -/
  | nesting
  deriving DecidableEq, Repr

/-- The wording of every fault. -/
def Fault.message (_ : Fault) : String :=
  "<toml error>"

/-- A date. -/
structure Date where
  year : Nat
  month : Nat
  day : Nat
  deriving DecidableEq, Repr

/-- A time of day. -/
structure Time where
  hour : Nat
  minute : Nat
  second : Nat
  nanosecond : Nat
  deriving DecidableEq, Repr

/-- How far a time is from universal time: not at all, or by some minutes. -/
inductive Offset where
  | zulu
  | minutes (value : Int)
  deriving DecidableEq, Repr

/-- A point in time, or a part of what fixes one. -/
inductive Moment where
  | date (date : Date)
  | time (time : Time)
  | dateTime (date : Date) (time : Time) (offset? : Option Offset)
  deriving DecidableEq, Repr

/-- A **value**. -/
inductive Value where
  | string (text : String)
  | integer (value : Int)
  | float (value : Binary64)
  | boolean (value : Bool)
  | moment (value : Moment)
  | array (items : List Value)
  | table (entries : List (String × Value))
  deriving Inhabited

/-- The entries of a table, by their keys. -/
abbrev Entries := List (String × Value)

namespace Value

mutual

/-- Whether two values are equal. -/
def beq : Value → Value → Bool
  | .string a, .string b => a == b
  | .integer a, .integer b => a == b
  | .float a, .float b => a == b
  | .boolean a, .boolean b => a == b
  | .moment a, .moment b => a == b
  | .array vs, .array ws => beqItems vs ws
  | .table es, .table fs => beqEntries es fs
  | _, _ => false

/-- Whether two arrays are equal, member by member. -/
def beqItems : List Value → List Value → Bool
  | [], [] => true
  | v :: vs, w :: ws => beq v w && beqItems vs ws
  | _, _ => false

/-- Whether two tables are equal, entry by entry. -/
def beqEntries : List (String × Value) → List (String × Value) → Bool
  | [], [] => true
  | (k, v) :: es, (l, w) :: fs => k == l && beq v w && beqEntries es fs
  | _, _ => false

end

mutual

/-- The comparison of values decides their equality, by recursion on both. -/
theorem beq_iff : (v w : Value) → (beq v w ↔ v = w)
  | .string _, w | .integer _, w | .float _, w | .boolean _, w | .moment _, w => by
    cases w <;> simp [beq]
  | .array vs, w => by cases w <;> simp [beq, beqItems_iff vs]
  | .table es, w => by cases w <;> simp [beq, beqEntries_iff es]

/-- The same for lists of values. -/
theorem beqItems_iff : (vs ws : List Value) → (beqItems vs ws ↔ vs = ws)
  | [], ws => by cases ws <;> simp [beqItems]
  | v :: vs, ws => by cases ws <;> simp [beqItems, beq_iff v, beqItems_iff vs]

/-- The same for entries. -/
theorem beqEntries_iff : (es fs : List (String × Value)) → (beqEntries es fs ↔ es = fs)
  | [], fs => by cases fs <;> simp [beqEntries]
  | (k, v) :: es, fs => by
    cases fs <;> simp [beqEntries, beq_iff v, beqEntries_iff es, Prod.ext_iff]

end

instance : DecidableEq Value := fun v w => decidable_of_iff _ (beq_iff v w)

end Value

/-- Some entries with one more, in the place of an entry with the same key or in the order of
keys. -/
def insertEntry {α : Type} (key : String) (v : α) : List (String × α) → List (String × α)
  | [] => [(key, v)]
  | (k, w) :: rest =>
    if key = k then (key, v) :: rest
    else if key < k then (key, v) :: (k, w) :: rest
    else (k, w) :: insertEntry key v rest

/-- An entry that was put in is found. -/
theorem lookup_insertEntry_self {α : Type} (key : String) (v : α) (es : List (String × α)) :
    (insertEntry key v es).lookup key = some v := by
  induction es with
  | nil => simp [insertEntry]
  | cons e es ih =>
    obtain ⟨k, w⟩ := e
    by_cases hk : key = k
    · simp [insertEntry, hk]
    · by_cases hl : key < k
      · simp [insertEntry, hk, hl]
      · have : (key == k) = false := by simpa using hk
        simp [insertEntry, hk, hl, List.lookup_cons, this, ih]

/-- Putting an entry in changes no other entry. -/
theorem lookup_insertEntry_of_ne {α : Type} {key other : String} (v : α) (es : List (String × α))
    (h : other ≠ key) : (insertEntry key v es).lookup other = es.lookup other := by
  have hb : (other == key) = false := by simpa using h
  induction es with
  | nil => simp [insertEntry, List.lookup_cons, hb]
  | cons e es ih =>
    obtain ⟨k, w⟩ := e
    by_cases hk : key = k
    · subst hk
      simp [insertEntry, List.lookup_cons, hb]
    · by_cases hl : key < k
      · simp [insertEntry, hk, hl, List.lookup_cons, hb]
      · simp only [insertEntry, hk, hl, if_false, List.lookup_cons, ih]

end GeoBench.Toml
