import GeoBench.Number.Power

/-!
# Binary64 numbers

The numbers of the binary interchange format with 64 bits, as exact mathematics. The finite
magnitudes are counted from zero in increasing order, and a finite number is a sign and the **rank**
of its magnitude in that order; so two finite numbers with one sign are equal exactly when their
ranks are, and the order of ranks is the order of magnitudes. Every magnitude is a whole number of
**units** of `2 ^ -1074`, and every operation computes its exact result as a ratio of two whole
numbers of units and rounds it once, to the nearest number, ties to the even rank.

## Why ranks

The magnitudes of neighbouring ranks are neighbours, so the nearest number to a value is the nearest
of two ranks, and a tie is settled by whether a rank is even. Beyond the last finite rank the ranks
go on as if the format had no end, and every rank there stands for the infinity: so rounding knows
no special case at the upper end.

## Main results

* `nearestEven_exact` — a whole quotient rounds to itself.
* `Binary64.ofBits_toBits` — the bits of a number read back as that number.
-/

namespace GeoBench.Number

/-- The whole number nearest to `n / d`, the even one when two are equally near. -/
def nearestEven (n d : Nat) : Nat :=
  let q := n / d
  let twice := 2 * (n % d)
  if twice < d then q
  else if d < twice then q + 1
  else q + q % 2

/-- A whole quotient is its own nearest number. -/
theorem nearestEven_exact (q : Nat) {d : Nat} (h : 0 < d) : nearestEven (q * d) d = q := by
  simp [nearestEven, Nat.mul_div_cancel _ h, h]

/-- How many magnitudes share an exponent: the 52nd power of two. -/
abbrev fractionCount : Nat := 0x10000000000000

/-- How many finite magnitudes there are: as many as there are codes below the exponent of ones. -/
abbrev finiteCount : Nat := 0x7FF0000000000000

/-- The weight of the sign among the 64 bits. -/
abbrev signWeight : Nat := 0x8000000000000000

/-- A number of the format: no number, an infinity, or a finite number by sign and rank. -/
inductive Binary64 where
  | nan
  | infinite (negative : Bool)
  | finite (negative : Bool) (rank : Fin finiteCount)
  deriving DecidableEq

/-- How many units there are in one; a unit is the least positive number. -/
abbrev unitsPerOne : Nat := twoTo 1074

/-- The magnitude with a given rank, in units. The first block of `fractionCount` magnitudes are the
units themselves; from there on each further block has steps twice as long as the one before. -/
def magnitude (rank : Nat) : Nat :=
  if rank < fractionCount then rank
  else (rank % fractionCount + fractionCount) * twoTo (rank / fractionCount - 1)

/-- The rank of the magnitude nearest to `n / d` units; it may lie beyond the finite ones. -/
def nearestRank (n d : Nat) : Nat :=
  let shift := Nat.log2 (n / d) - 52
  shift * fractionCount + nearestEven n (d * twoTo shift)

namespace Binary64

/-- The number with a given sign and rank; beyond the finite ranks it is infinite. -/
def ofRank (negative : Bool) (rank : Nat) : Binary64 :=
  if h : rank < finiteCount then .finite negative ⟨rank, h⟩ else .infinite negative

/-- The number **nearest** to `n / d` units with a given sign. -/
def ofUnits (negative : Bool) (n d : Nat) : Binary64 :=
  ofRank negative (nearestRank n d)

/-- Zero with a given sign. -/
def zero (negative : Bool) : Binary64 :=
  .finite negative ⟨0, by decide⟩

instance : Inhabited Binary64 := ⟨zero false⟩

/-- The number nearest to a whole number. -/
def ofNat (n : Nat) : Binary64 :=
  ofUnits false (n * unitsPerOne) 1

/-- The number nearest to the decimal number `digits * 10 ^ exponent`. Exponents for which the
outcome is sure (beyond the largest number, or below half the smallest) are decided without
computing the power. -/
def ofDecimal (negative : Bool) (digits : Nat) (exponent : Int) : Binary64 :=
  if digits = 0 then zero negative
  else if 400 < exponent then .infinite negative
  else if exponent + (Nat.log2 digits : Int) < -400 then zero negative
  else match exponent with
    | .ofNat e => ofUnits negative (digits * tenTo e * unitsPerOne) 1
    | .negSucc e => ofUnits negative (digits * unitsPerOne) (tenTo (e + 1))

/-- The 64 bits of a number: the sign, then the rank; no number is the quiet pattern without
payload. -/
def toBits : Binary64 → Nat
  | .nan => 0x7FF8000000000000
  | .infinite negative => (if negative then signWeight else 0) + finiteCount
  | .finite negative rank => (if negative then signWeight else 0) + rank

/-- The number that 64 bits stand for. -/
def ofBits (bits : Nat) : Binary64 :=
  let negative := signWeight ≤ bits
  let code := bits % signWeight
  if h : code < finiteCount then .finite negative ⟨code, h⟩
  else if code = finiteCount then .infinite negative
  else .nan

/-- The bits of a number read back as that number. -/
theorem ofBits_toBits (x : Binary64) : ofBits (toBits x) = x := by
  have hc : finiteCount < signWeight := by decide
  cases x with
  | nan => rfl
  | infinite negative => cases negative <;> rfl
  | finite negative rank =>
    have hr := rank.isLt
    have hlt : (rank : Nat) < signWeight := by omega
    cases negative
    · have h₁ : ¬ (signWeight ≤ (rank : Nat)) := by omega
      have h₂ : (rank : Nat) % signWeight = rank := Nat.mod_eq_of_lt hlt
      simp only [toBits, ofBits, Bool.false_eq_true, if_false, Nat.zero_add, h₁, h₂, hr, dif_pos,
        decide_false]
    · have h₁ : signWeight ≤ signWeight + (rank : Nat) := by omega
      have h₂ : (signWeight + (rank : Nat)) % signWeight = rank := by
        rw [Nat.add_mod_left, Nat.mod_eq_of_lt hlt]
      simp only [toBits, ofBits, if_true, h₁, h₂, hr, dif_pos, decide_true]

/-- Whether a number is finite. -/
def isFinite : Binary64 → Bool
  | .finite _ _ => true
  | _ => false

end Binary64

end GeoBench.Number
