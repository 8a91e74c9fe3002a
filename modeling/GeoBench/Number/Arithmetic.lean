import GeoBench.Number.Binary64

/-!
# Arithmetic of binary64 numbers

Sums, products and quotients, each the exact result rounded once, and the two conversions to whole
numbers: rounding to the nearest whole number with ties to even, and cutting off the fraction within
the range of 64 bits.

## Main results

* `toWord_le` — a number cut to 64 bits stays in their range.
-/

namespace GeoBench.Number.Binary64

/-- The signed number of units of a finite number. -/
def signedUnits (negative : Bool) (rank : Nat) : Int :=
  if negative then -(magnitude rank : Int) else magnitude rank

/-- The **sum**. An exact zero is negative only when both summands are. -/
def add : Binary64 → Binary64 → Binary64
  | .nan, _ => .nan
  | _, .nan => .nan
  | .infinite s, .infinite t => if s = t then .infinite s else .nan
  | .infinite s, .finite _ _ => .infinite s
  | .finite _ _, .infinite t => .infinite t
  | .finite s a, .finite t b =>
    let total := signedUnits s a + signedUnits t b
    if total = 0 then zero (s && t) else ofUnits (total < 0) total.natAbs 1

/-- The **product**. -/
def mul : Binary64 → Binary64 → Binary64
  | .nan, _ => .nan
  | _, .nan => .nan
  | .infinite s, .infinite t => .infinite (s != t)
  | .infinite s, .finite t b => if b.val = 0 then .nan else .infinite (s != t)
  | .finite s a, .infinite t => if a.val = 0 then .nan else .infinite (s != t)
  | .finite s a, .finite t b => ofUnits (s != t) (magnitude a * magnitude b) unitsPerOne

/-- The **quotient**. -/
def div : Binary64 → Binary64 → Binary64
  | .nan, _ => .nan
  | _, .nan => .nan
  | .infinite _, .infinite _ => .nan
  | .infinite s, .finite t _ => .infinite (s != t)
  | .finite s _, .infinite t => zero (s != t)
  | .finite s a, .finite t b =>
    if b.val = 0 then (if a.val = 0 then .nan else .infinite (s != t))
    else ofUnits (s != t) (magnitude a * unitsPerOne) (magnitude b)

/-- The nearest **whole** number, ties to even, with the sign kept. -/
def roundEven : Binary64 → Binary64
  | .finite s a => ofUnits s (nearestEven (magnitude a) unitsPerOne * unitsPerOne) 1
  | other => other

/-- The largest value of a 64-bit word. -/
abbrev maxWord : Nat := 0xFFFFFFFFFFFFFFFF

/-- The whole part as a 64-bit word: zero for no number and below zero, and the largest word above
its range. -/
def toWord : Binary64 → Nat
  | .nan => 0
  | .infinite negative => if negative then 0 else maxWord
  | .finite negative rank =>
    if negative then 0 else min (magnitude rank / unitsPerOne) maxWord

/-- A conversion to a word never leaves the range of words. -/
theorem toWord_le (x : Binary64) : toWord x ≤ maxWord := by
  cases x with
  | nan => exact Nat.zero_le _
  | infinite negative => cases negative <;> simp [toWord]
  | finite negative rank =>
    cases negative
    · exact Nat.min_le_right _ _
    · exact Nat.zero_le _

end GeoBench.Number.Binary64
