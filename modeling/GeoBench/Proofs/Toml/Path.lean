import GeoBench.Toml.Printer
import GeoBench.Toml.Document

/-!
# Paths into a settings file

What stands where in a document is told by paths: a path is a list of steps from the root, and a
step leads to the entry of a table under a key or to the member of an array at an index. A path that
leads to nothing leads to nothing further on either.

A document **reads back** if the reader finds in its text what was written.

## Main results

* `Value.at?_append` — a path is followed one stretch after the other.
-/

namespace GeoBench.Toml

/-- One **step** into a value. -/
inductive Step where
  /-- To the entry under a key. -/
  | key (name : String)
  /-- To the member at an index. -/
  | member (index : Nat)
  deriving DecidableEq, Repr

namespace Value

/-- What one step leads to. -/
def child? : Value → Step → Option Value
  | .table es, .key name => es.lookup name
  | .array items, .member i => items[i]?
  | _, _ => none

/-- What stands **at a path**. -/
def at? (v : Value) : List Step → Option Value
  | [] => some v
  | s :: rest => (v.child? s).bind (at? · rest)

/-- The empty path stays where it is. -/
@[simp] theorem at?_nil (v : Value) : v.at? [] = some v := rfl

/-- A path goes by its first step, and on from there. -/
@[simp] theorem at?_cons (v : Value) (s : Step) (p : List Step) :
    v.at? (s :: p) = (v.child? s).bind (·.at? p) := rfl

/-- A table is entered by its keys. -/
@[simp] theorem child?_table_key (es : Entries) (name : String) :
    (table es).child? (.key name) = es.lookup name := rfl

/-- A table has no members. -/
@[simp] theorem child?_table_member (es : Entries) (i : Nat) :
    (table es).child? (.member i) = none := rfl

/-- A path is followed one stretch after the other. -/
theorem at?_append (v : Value) (p q : List Step) :
    v.at? (p ++ q) = (v.at? p).bind (·.at? q) := by
  induction p generalizing v with
  | nil => rfl
  | cons s p ih =>
      rw [List.cons_append, at?_cons, at?_cons, Option.bind_assoc]
      exact congrArg _ (funext fun w => ih w)

end Value

/-- A document **reads back**: the reader finds in its text what was written. -/
def ReadsBack (doc : Entries) : Prop :=
  Document.read (render doc) = .ok doc

end GeoBench.Toml
