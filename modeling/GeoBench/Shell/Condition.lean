import GeoBench.Machine.Tree
import GeoBench.Shell.Arithmetic

/-!
# Conditions

The conditions that scripts test: on texts, on whole numbers and on what is in the file tree, with
negation, conjunction and disjunction. With up to two arguments their number alone says what is
meant; with more, the arguments are read as an expression, in which a conjunction binds closer than
a disjunction.
-/

namespace GeoBench.Shell.Condition

open GeoBench.Machine

/-- What a condition comes to: it holds or not, or it is no condition, for which there is a
remark. -/
abbrev Verdict := Except Octets Bool

/-- The path that octets name. -/
def pathOf (cs : Octets) : Path := ⟨Octets.toText cs⟩

/-- Whether a file may be executed, or a directory searched. -/
def isExecutable (t : Tree) (cwd : Place) (p : Path) : Bool :=
  match t.find cwd p with
  | .ok (_, .file _ executable) => executable
  | .ok (_, .directory) => true
  | .error _ => false

/-- Whether a file holds something. -/
def hasContent (t : Tree) (cwd : Place) (p : Path) : Bool :=
  match t.find cwd p with
  | .ok (_, .file content _) => content.size != 0
  | .ok (_, .directory) => true
  | .error _ => false

/-- The operators on one operand. -/
def unary? (t : Tree) (cwd : Place) (operator : String) (a : Octets) : Option Bool :=
  match operator with
  | "-n" => some !a.isEmpty
  | "-z" => some a.isEmpty
  | "-e" | "-r" | "-w" => some (t.existsAt cwd (pathOf a))
  | "-f" => some (t.isFile cwd (pathOf a))
  | "-d" => some (t.isDirectory cwd (pathOf a))
  | "-x" => some (isExecutable t cwd (pathOf a))
  | "-s" => some (hasContent t cwd (pathOf a))
  | "-L" | "-h" | "-p" | "-S" | "-b" | "-c" | "-t" | "-u" | "-g" | "-k" => some false
  | _ => none

/-- A number in a condition. -/
def number (a : Octets) : Except Octets Int :=
  match if a.isEmpty then none else Arithmetic.readValue a with
  | some n => .ok n
  | none => .error (Octets.ofText "Illegal number: " ++ a)

/-- The operators on two operands. -/
def binary? (operator : String) (a b : Octets) : Option Verdict :=
  let compare (p : Int → Int → Bool) : Verdict := do
    let x ← number a
    let y ← number b
    return p x y
  match operator with
  | "=" | "==" => some (.ok (a == b))
  | "!=" => some (.ok (a != b))
  | "<" => some (.ok (Octets.key a < Octets.key b))
  | ">" => some (.ok (Octets.key b < Octets.key a))
  | "-eq" => some (compare fun x y => x == y)
  | "-ne" => some (compare fun x y => x != y)
  | "-lt" => some (compare fun x y => x < y)
  | "-le" => some (compare fun x y => x ≤ y)
  | "-gt" => some (compare fun x y => x > y)
  | "-ge" => some (compare fun x y => x ≥ y)
  | _ => none

/-- A remark on an argument. -/
def remark (a : Octets) (text : String) : Octets :=
  a ++ Octets.ofText text

section

variable (t : Tree) (cwd : Place)

mutual

/-- A disjunction, and the arguments behind it. -/
def disjunction : Nat → List Octets → Except Octets (Bool × List Octets)
  | 0, _ => .error (Octets.ofText "too many arguments")
  | fuel + 1, as => do
    let (a, rest) ← conjunction fuel as
    match rest with
    | ['-', 'o'] :: more =>
      let (b, rest) ← disjunction fuel more
      return (a || b, rest)
    | _ => return (a, rest)

/-- A conjunction, and the arguments behind it. -/
def conjunction : Nat → List Octets → Except Octets (Bool × List Octets)
  | 0, _ => .error (Octets.ofText "too many arguments")
  | fuel + 1, as => do
    let (a, rest) ← primary fuel as
    match rest with
    | ['-', 'a'] :: more =>
      let (b, rest) ← conjunction fuel more
      return (a && b, rest)
    | _ => return (a, rest)

/-- A single condition, and the arguments behind it. -/
def primary : Nat → List Octets → Except Octets (Bool × List Octets)
  | 0, _ => .error (Octets.ofText "too many arguments")
  | _ + 1, [] => .error (Octets.ofText "argument expected")
  | fuel + 1, a :: rest =>
    match rest with
    | o :: b :: more =>
      match binary? (Octets.key o) a b with
      | some verdict => verdict.map fun v => (v, more)
      | none => prefixed fuel a rest
    | _ => prefixed fuel a rest

/-- A single condition that does not start with an operand of two. -/
def prefixed : Nat → Octets → List Octets → Except Octets (Bool × List Octets)
  | 0, _, _ => .error (Octets.ofText "too many arguments")
  | fuel + 1, a, rest =>
    match a, rest with
    | _, [] => .ok (!a.isEmpty, [])
    | ['!'], rest => do
      let (v, rest) ← primary fuel rest
      return (!v, rest)
    | ['('], rest => do
      let (v, rest) ← disjunction fuel rest
      match rest with
      | [')'] :: more => return (v, more)
      | _ => .error (Octets.ofText "closing paren expected")
    | _, b :: more =>
      match unary? t cwd (Octets.key a) b with
      | some v => .ok (v, more)
      | none => .ok (!a.isEmpty, rest)

end

/-- The **verdict** on the arguments of a test. -/
def verdict (arguments : List Octets) : Verdict :=
  match arguments with
  | [] => .ok false
  | [a] => .ok !a.isEmpty
  | [a, b] =>
    if a == ['!'] then .ok b.isEmpty
    else match unary? t cwd (Octets.key a) b with
      | some v => .ok v
      | none => .error (remark a ": unexpected operator")
  | as => do
    let (v, rest) ← disjunction t cwd (4 * as.length + 4) as
    match rest with
    | [] => return v
    | _ => .error (remark (as.head?.getD []) ": unexpected operator")

end

end GeoBench.Shell.Condition
