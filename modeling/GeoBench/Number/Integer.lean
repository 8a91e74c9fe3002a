import GeoBench.Number.Power

/-!
# Whole numbers as text

Reading unsigned and signed whole numbers in a given base, within given bounds. A reader accepts a
non-empty run of digits after an optional sign and nothing else; a number outside the bounds has no
reading.
-/

namespace GeoBench.Number

/-- The value of a digit character in bases up to sixteen. -/
def digitValue? (base : Nat) (c : Char) : Option Nat :=
  let n := c.toNat
  let v? : Option Nat :=
    if 0x30 ≤ n && n ≤ 0x39 then some (n - 0x30)
    else if 0x61 ≤ n && n ≤ 0x66 then some (n - 0x61 + 10)
    else if 0x41 ≤ n && n ≤ 0x46 then some (n - 0x41 + 10)
    else none
  v?.filter (· < base)

/-- The number that a run of digits continues, when the digits before it make `value`. -/
def digitsFrom (base value : Nat) : List Char → Option Nat
  | [] => some value
  | c :: cs =>
    match digitValue? base c with
    | some d => digitsFrom base (value * base + d) cs
    | none => none

/-- The number that a non-empty run of digits makes. -/
def readDigits (base : Nat) : List Char → Option Nat
  | [] => none
  | cs => digitsFrom base 0 cs

/-- An **unsigned** number below `2 ^ bits`; a plus sign before it is allowed. -/
def readUnsigned (bits base : Nat) (cs : List Char) : Option Nat :=
  let digits := match cs with
    | '+' :: rest => rest
    | other => other
  (readDigits base digits).filter (· < twoTo bits)

/-- A **signed** number in the two's complement range of `bits` bits. -/
def readSigned (bits base : Nat) : List Char → Option Int
  | '-' :: rest => ((readDigits base rest).filter (· ≤ twoTo (bits - 1))).map fun n => -(n : Int)
  | '+' :: rest => ((readDigits base rest).filter (· < twoTo (bits - 1))).map fun n => (n : Int)
  | rest => ((readDigits base rest).filter (· < twoTo (bits - 1))).map fun n => (n : Int)

/-- The decimal digits of a number, most significant first. -/
def decimalDigits (n : Nat) : List Char :=
  Nat.toDigits 10 n

/-- The hexadecimal digits of a number in upper case, at least `width` of them. -/
def hexDigits (width n : Nat) : List Char :=
  let ds := (Nat.toDigits 16 n).map fun c =>
    if 'a' ≤ c && c ≤ 'f' then Char.ofNat (c.toNat - 32) else c
  List.replicate (width - ds.length) '0' ++ ds

end GeoBench.Number
