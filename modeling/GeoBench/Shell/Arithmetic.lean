import GeoBench.Number.Integer
import GeoBench.Shell.Octets

/-!
# Arithmetic

Expressions of the shell on whole numbers of 64 bits. An expression reads and may set variables; an
unset variable counts as zero.

## Values and truth

Every operation is carried out on integers and brought back into 64 bits, so that a sum that
overflows goes on from the other end. A division by zero is a fault of the expression. Comparisons
give one or zero, and everything but zero counts as true.

## Operators

The binary operators have a strength each, and those of one strength are grouped from the left; one
function reads them all (`binary`). An assignment sets its variable for the rest of the expression
at once, and the shell is told of all variables that were set when the expression has a value.

## Main results

* `wrap_bounds` — every value is in range.
-/

namespace GeoBench.Shell.Arithmetic

open GeoBench.Number

/-- How many values 64 bits have. -/
abbrev valueCount : Nat := 0x10000000000000000

/-- The largest number. -/
abbrev largest : Int := 0x7FFFFFFFFFFFFFFF

/-- A number brought into 64 bits. -/
def wrap (n : Int) : Int :=
  n.bmod valueCount

/-- Every value is in range. -/
theorem wrap_bounds (n : Int) : -largest - 1 ≤ wrap n ∧ wrap n ≤ largest := by
  have h₁ := Int.le_bmod (x := n) (m := valueCount) (by decide)
  have h₂ := Int.bmod_lt (x := n) (m := valueCount) (by decide)
  simp only [wrap, largest, valueCount] at *
  omega

/-- Why an expression has no value. -/
inductive ArithmeticFault where
  | divisionByZero
  | malformed
  | badNumber (text : Octets)
  deriving DecidableEq, Repr

/-- A **token** of an expression. -/
inductive Token where
  | number (n : Int)
  | name (text : Octets)
  | operator (text : String)
  deriving DecidableEq, Repr

/-- The operators, the longer ones first. -/
def operators : List String :=
  ["<<=", ">>=", "<<", ">>", "<=", ">=", "==", "!=", "&&", "||", "+=", "-=", "*=", "/=", "%=", "&=",
   "|=", "^=", "+", "-", "*", "/", "%", "<", ">", "=", "!", "~", "&", "|", "^", "?", ":", "(", ")"]

/-- A whole number in the way of the shell: octal behind a zero, hexadecimal behind a zero and
an x. -/
def readNumber (cs : Octets) : Option Int :=
  let n? : Option Nat := match cs with
    | '0' :: 'x' :: ds | '0' :: 'X' :: ds => readDigits 16 ds
    | '0' :: d :: ds => readDigits 8 (d :: ds)
    | _ => readDigits 10 cs
  n?.map fun n => min (n : Int) largest

/-- A whole number that may have a sign and blanks around it. -/
def readValue (cs : Octets) : Option Int :=
  let blank (c : Char) : Bool := c == ' ' || c == '\t' || c == '\n'
  let cs := ((cs.dropWhile blank).reverse.dropWhile blank).reverse
  match cs with
  | [] => some 0
  | '-' :: ds => (readNumber ds).map fun n => wrap (-n)
  | '+' :: ds => readNumber ds
  | ds => readNumber ds

/-- The tokens of an expression. -/
def tokens : Nat → Octets → Except ArithmeticFault (List Token)
  | 0, _ => .error .malformed
  | _, [] => .ok []
  | fuel + 1, c :: cs =>
    if c == ' ' || c == '\t' || c == '\n' then tokens fuel cs
    else if c.isDigit then
      let digits := c :: cs.takeWhile Char.isAlphanum
      match readNumber digits with
      | some n => do return .number n :: (← tokens fuel ((c :: cs).drop digits.length))
      | none => .error .malformed
    else if c.isAlpha || c == '_' then
      let name := c :: cs.takeWhile fun d => d.isAlphanum || d == '_'
      do return .name name :: (← tokens fuel ((c :: cs).drop name.length))
    else
      match operators.find? fun o => o.toList.isPrefixOf (c :: cs) with
      | some o => do return .operator o :: (← tokens fuel ((c :: cs).drop o.length))
      | none => .error .malformed

/-- The variables that an expression sees. -/
abbrev Variables := Octets → Option Octets

/-- What is left of an expression, and the variables that it set, the latest first. -/
structure Progress where
  rest : List Token
  set : List (Octets × Int) := []

/-- How strongly a binary operator binds. -/
def strength? : String → Option Nat
  | "||" => some 1
  | "&&" => some 2
  | "|" => some 3
  | "^" => some 4
  | "&" => some 5
  | "==" | "!=" => some 6
  | "<" | ">" | "<=" | ">=" => some 7
  | "<<" | ">>" => some 8
  | "+" | "-" => some 9
  | "*" | "/" | "%" => some 10
  | _ => none

/-- The operators that update a variable, each with what it applies. -/
def updates : List (String × String) :=
  [("+=", "+"), ("-=", "-"), ("*=", "*"), ("/=", "/"), ("%=", "%"), ("&=", "&"), ("|=", "|"),
   ("^=", "^"), ("<<=", "<<"), (">>=", ">>")]

/-- The 64 bits of a number. -/
def bits (n : Int) : Nat := (n % (valueCount : Int)).toNat

/-- The value of a truth. -/
def truth (b : Bool) : Int := if b then 1 else 0

/-- The value of a binary operator. -/
def apply (operator : String) (a b : Int) : Except ArithmeticFault Int :=
  match operator with
  | "+" => .ok (wrap (a + b))
  | "-" => .ok (wrap (a - b))
  | "*" => .ok (wrap (a * b))
  | "/" => if b = 0 then .error .divisionByZero else .ok (wrap (a.tdiv b))
  | "%" => if b = 0 then .error .divisionByZero else .ok (wrap (a.tmod b))
  | "<<" => .ok (wrap (a * (twoTo (bits b % 64) : Nat)))
  | ">>" => .ok (wrap (a.fdiv (twoTo (bits b % 64) : Nat)))
  | "<" => .ok (truth (a < b))
  | ">" => .ok (truth (a > b))
  | "<=" => .ok (truth (a ≤ b))
  | ">=" => .ok (truth (a ≥ b))
  | "==" => .ok (truth (a = b))
  | "!=" => .ok (truth (a ≠ b))
  | "&" => .ok (wrap (bits a &&& bits b))
  | "|" => .ok (wrap (bits a ||| bits b))
  | "^" => .ok (wrap (bits a ^^^ bits b))
  | "&&" => .ok (truth (a ≠ 0 && b ≠ 0))
  | "||" => .ok (truth (a ≠ 0 || b ≠ 0))
  | _ => .error .malformed

section

variable (vars : Variables)

/-- The value of a variable. -/
def lookup (name : Octets) (p : Progress) : Except ArithmeticFault Int :=
  match p.set.lookup name with
  | some n => .ok n
  | none =>
    match vars name with
    | none => .ok 0
    | some text =>
      match readValue text with
      | some n => .ok n
      | none => .error (.badNumber text)

mutual

/-- The value of an expression with its assignments and choices. -/
def expression : Nat → Progress → Except ArithmeticFault (Int × Progress)
  | 0, _ => .error .malformed
  | fuel + 1, p => do
    match p.rest with
    | .name x :: .operator o :: rest =>
      if o = "=" then
        let (n, p) ← expression fuel { p with rest }
        return (n, { p with set := (x, n) :: p.set })
      else
        match updates.lookup o with
        | some operator =>
          let old ← lookup vars x p
          let (n, p) ← expression fuel { p with rest }
          let v ← apply operator old n
          return (v, { p with set := (x, v) :: p.set })
        | none => chosen fuel p
    | _ => chosen fuel p

/-- A value with the choice that may follow it. -/
def chosen : Nat → Progress → Except ArithmeticFault (Int × Progress)
  | 0, _ => .error .malformed
  | fuel + 1, p => do
    let (a, p) ← binary fuel 1 p
    match p.rest with
    | .operator "?" :: rest =>
      let (yes, q) ← expression fuel { p with rest }
      match q.rest with
      | .operator ":" :: rest =>
        let (no, r) ← expression fuel { q with rest, set := if a ≠ 0 then q.set else p.set }
        if a ≠ 0 then return (yes, { r with set := q.set }) else return (no, r)
      | _ => .error .malformed
    | _ => return (a, p)

/-- A value of operators that bind at least with a strength. -/
def binary : Nat → Nat → Progress → Except ArithmeticFault (Int × Progress)
  | 0, _, _ => .error .malformed
  | fuel + 1, least, p => do
    let (a, p) ← unary fuel p
    binaryFrom fuel least a p

/-- What follows the left side of operators that bind at least with a strength. -/
def binaryFrom : Nat → Nat → Int → Progress → Except ArithmeticFault (Int × Progress)
  | 0, _, _, _ => .error .malformed
  | fuel + 1, least, a, p => do
    match p.rest with
    | .operator o :: rest =>
      match strength? o with
      | some s =>
        if least ≤ s then
          let (b, q) ← binary fuel (s + 1) { p with rest }
          let v ← apply o a b
          binaryFrom fuel least v q
        else return (a, p)
      | none => return (a, p)
    | _ => return (a, p)

/-- A value with the signs before it. -/
def unary : Nat → Progress → Except ArithmeticFault (Int × Progress)
  | 0, _ => .error .malformed
  | fuel + 1, p => do
    match p.rest with
    | .operator "-" :: rest =>
      let (a, p) ← unary fuel { p with rest }
      return (wrap (-a), p)
    | .operator "+" :: rest => unary fuel { p with rest }
    | .operator "!" :: rest =>
      let (a, p) ← unary fuel { p with rest }
      return (truth (a = 0), p)
    | .operator "~" :: rest =>
      let (a, p) ← unary fuel { p with rest }
      return (wrap (-a - 1), p)
    | .operator "(" :: rest =>
      let (a, p) ← expression fuel { p with rest }
      match p.rest with
      | .operator ")" :: rest => return (a, { p with rest })
      | _ => .error .malformed
    | .number n :: rest => return (n, { p with rest })
    | .name x :: rest => return (← lookup vars x p, { p with rest })
    | _ => .error .malformed

end

/-- The **value** of an expression, and the variables that it sets. -/
def evaluate (text : Octets) : Except ArithmeticFault (Int × List (Octets × Int)) := do
  match ← tokens (text.length + 1) text with
  | [] => return (0, [])
  | ts =>
    let (n, p) ← expression vars (8 * ts.length + 8) { rest := ts }
    if p.rest.isEmpty then return (n, p.set) else .error .malformed

end

end GeoBench.Shell.Arithmetic
