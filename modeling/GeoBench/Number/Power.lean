/-!
# Powers of two and of ten

The weights of binary and of decimal digits.

## Main results

* `twoTo_succ`, `tenTo_succ` — one digit more is two or ten times the weight.
* `twoTo_pos`, `tenTo_pos` — weights are positive.
-/

namespace GeoBench.Number

/-- A **power of two**. -/
def twoTo (exponent : Nat) : Nat := Nat.pow 2 exponent

/-- A **power of ten**. -/
def tenTo (exponent : Nat) : Nat := Nat.pow 10 exponent

/-- One binary digit more is two times the weight. -/
theorem twoTo_succ (n : Nat) : twoTo (n + 1) = twoTo n * 2 := rfl

/-- One decimal digit more is ten times the weight. -/
theorem tenTo_succ (n : Nat) : tenTo (n + 1) = tenTo n * 10 := rfl

/-- The first decimal digit has the weight one. -/
theorem tenTo_zero : tenTo 0 = 1 := rfl

/-- Powers of two are positive. -/
theorem twoTo_pos (n : Nat) : 0 < twoTo n := Nat.pow_pos (by decide)

/-- Powers of ten are positive. -/
theorem tenTo_pos (n : Nat) : 0 < tenTo n := Nat.pow_pos (by decide)

end GeoBench.Number
