import GeoBench.Number.Binary64
import GeoBench.Number.Integer

/-!
# Decimal text of binary64 numbers

The reading of plain decimal numerals as binary64 numbers, the fewest digits that name a number, and
the layouts that turn those digits into text.

The **shortest** digits are found by trying grids of one, two, … seventeen significant digits: on
each grid only the two neighbours of the number are candidates, a candidate counts when it reads
back as the number, and of two candidates the nearer wins. Everything is computed in whole numbers
of half units, so nothing is approximated.

## Layouts

A layout is a function of the digits and of the place of the point. Data files use an exponent where
the point would stand far from the digits, console lines never do. Of two decimals that are equally
near, the two kinds of text do not take the same one (`Tie`), so which decimal is the shortest is
asked with the choice as a parameter.

## Main results

* `Decimal.normalize_value` — dropping the zeros at the end of the digits keeps the value.
-/

namespace GeoBench.Number

/-- A decimal number `digits * 10 ^ exponent`. -/
structure Decimal where
  digits : Nat
  exponent : Int
  deriving DecidableEq

namespace Decimal

/-- The length of a number in decimal digits. -/
def length (n : Nat) : Nat :=
  (decimalDigits n).length

/-- The same decimal number without the zeros at the end of its digits; `fuel` bounds how many are
dropped. -/
def normalizeWith : Nat → Decimal → Decimal
  | 0, d => d
  | fuel + 1, d =>
    if d.digits ≠ 0 ∧ d.digits % 10 = 0 then normalizeWith fuel ⟨d.digits / 10, d.exponent + 1⟩
    else d

/-- The same decimal number without the zeros at the end of its digits. -/
def normalize (d : Decimal) : Decimal :=
  normalizeWith (length d.digits) d

/-- The value of a decimal number, as a ratio. -/
def num (d : Decimal) : Nat := d.digits * tenTo d.exponent.toNat

/-- The divisor that goes with `num`. -/
def den (d : Decimal) : Nat := tenTo (-d.exponent).toNat

/-- Taking off trailing zeros keeps the value, told without fractions. -/
theorem normalizeWith_value (fuel : Nat) (d : Decimal) :
    (normalizeWith fuel d).num * d.den = d.num * (normalizeWith fuel d).den := by
  induction fuel generalizing d with
  | zero => rfl
  | succ fuel ih =>
    rw [normalizeWith]
    split
    next h =>
      obtain ⟨digits, exponent⟩ := d
      simp only at h
      have step : (⟨digits / 10, exponent + 1⟩ : Decimal).num * (⟨digits, exponent⟩ : Decimal).den
          = (⟨digits, exponent⟩ : Decimal).num * (⟨digits / 10, exponent + 1⟩ : Decimal).den := by
        have h10 : digits / 10 * 10 = digits := by omega
        simp only [num, den]
        rcases Int.lt_or_le exponent 0 with hneg | hpos
        · obtain ⟨k, rfl⟩ : ∃ k : Nat, exponent = -((k : Int) + 1) :=
            ⟨(-exponent - 1).toNat, by omega⟩
          have e₁ : (-((k : Int) + 1) + 1).toNat = 0 := by omega
          have e₂ : (- -((k : Int) + 1)).toNat = k + 1 := by omega
          have e₃ : (-((k : Int) + 1)).toNat = 0 := by omega
          have e₄ : (-(-((k : Int) + 1) + 1)).toNat = k := by omega
          rw [e₁, e₂, e₃, e₄, tenTo_zero, Nat.mul_one, Nat.mul_one, tenTo_succ,
            Nat.mul_comm (tenTo k), ← Nat.mul_assoc, h10]
        · obtain ⟨k, rfl⟩ : ∃ k : Nat, exponent = (k : Int) := ⟨exponent.toNat, by omega⟩
          have e₁ : ((k : Int) + 1).toNat = k + 1 := by omega
          have e₂ : (-(k : Int)).toNat = 0 := by omega
          have e₃ : ((k : Int)).toNat = k := by omega
          have e₄ : (-((k : Int) + 1)).toNat = 0 := by omega
          rw [e₁, e₂, e₃, e₄, tenTo_zero, Nat.mul_one, Nat.mul_one, tenTo_succ,
            Nat.mul_comm (tenTo k), ← Nat.mul_assoc, h10]
      have next := ih ⟨digits / 10, exponent + 1⟩
      have hd : 0 < (⟨digits / 10, exponent + 1⟩ : Decimal).den := tenTo_pos _
      apply Nat.eq_of_mul_eq_mul_right hd
      calc _ = (normalizeWith fuel ⟨digits / 10, exponent + 1⟩).num
                * (⟨digits / 10, exponent + 1⟩ : Decimal).den
                * (⟨digits, exponent⟩ : Decimal).den := by
              rw [Nat.mul_assoc, Nat.mul_assoc, Nat.mul_comm (den _) (den _)]
        _ = (⟨digits / 10, exponent + 1⟩ : Decimal).num * (⟨digits, exponent⟩ : Decimal).den
                * (normalizeWith fuel ⟨digits / 10, exponent + 1⟩).den := by
              rw [next, Nat.mul_assoc, Nat.mul_assoc, Nat.mul_comm (den _) (den _)]
        _ = _ := by rw [step, Nat.mul_assoc, Nat.mul_assoc, Nat.mul_comm (den _) (den _)]
    next => rfl

/-- Dropping the zeros at the end of the digits keeps the value. -/
theorem normalize_value (d : Decimal) : d.normalize.num * d.den = d.num * d.normalize.den :=
  normalizeWith_value _ _

end Decimal

/-- The values that read back as one magnitude: an interval in half units around it, with or without
its ends. -/
structure Basin where
  lowest : Nat
  middle : Nat
  highest : Nat
  closed : Bool

/-- The **basin** of the magnitude with a given rank. Its ends belong to it exactly when the rank is
even, because a tie goes to the even rank. -/
def Basin.ofRank (rank : Nat) : Basin where
  lowest := magnitude (rank - 1) + magnitude rank
  middle := 2 * magnitude rank
  highest := magnitude rank + magnitude (rank + 1)
  closed := rank % 2 == 0

/-- Whether the value of `n / d` half units lies in a basin. -/
def Basin.contains (b : Basin) (n d : Nat) : Bool :=
  if b.closed then b.lowest * d ≤ n && n ≤ b.highest * d
  else b.lowest * d < n && n < b.highest * d

/-- How the choice falls between two candidates that are equally near. -/
inductive Tie where
  | toEven
  | up

/-- How many half units there are in one. -/
abbrev halfUnitsPerOne : Nat := twoTo 1075

/-- The exponent of the leading decimal digit of a positive number of half units. -/
def leadingExponent (halfUnits : Nat) : Int :=
  (Decimal.length (halfUnits * tenTo 400 / halfUnitsPerOne) : Int) - 401

/-- The candidate on the grid of `count` significant digits, if one of the two neighbours of the
basin's middle reads back. -/
def gridCandidate (tie : Tie) (b : Basin) (leading : Int) (count : Nat) : Option Decimal :=
  let step : Int := leading - (count - 1 : Int)
  -- the grid step is `unit / scale` half units
  let scale := tenTo (-step).toNat
  let unit := halfUnitsPerOne * tenTo step.toNat
  let target := b.middle * scale
  let below := target / unit
  let above := below + 1
  let below? := b.contains (below * unit) scale && below != 0
  let above? := b.contains (above * unit) scale
  let nearerAbove : Bool :=
    let left := target - below * unit
    let right := above * unit - target
    if left = right then (match tie with | .toEven => below % 2 == 1 | .up => true)
    else decide (right < left)
  if below? && above? then some ⟨if nearerAbove then above else below, step⟩
  else if below? then some ⟨below, step⟩
  else if above? then some ⟨above, step⟩
  else none

/-- The first grid, from `count` digits on, that has a candidate. -/
def firstCandidate (tie : Tie) (b : Basin) (leading : Int) (count : Nat) : Nat → Decimal
  | 0 => ⟨0, 0⟩
  | more + 1 =>
    match gridCandidate tie b leading count with
    | some d => d
    | none => firstCandidate tie b leading (count + 1) more

/-- The **shortest decimal** that reads back as the magnitude with a given rank. -/
def shortest (tie : Tie) (rank : Nat) : Decimal :=
  if rank = 0 then ⟨0, 0⟩
  else
    let b := Basin.ofRank rank
    (firstCandidate tie b (leadingExponent b.middle) 1 17).normalize

/-! ### Layouts -/

/-- The minus sign of a negative number. -/
def signText (negative : Bool) : String :=
  if negative then "-" else ""

/-- Digits with a point after the first `point` of them, filled up with zeros on either side;
`whole` is written after the digits of a number that needs no point. -/
def positional (digits : List Char) (point : Int) (whole : String) : String :=
  let n : Int := digits.length
  if point ≤ 0 then
    "0." ++ String.ofList (List.replicate (-point).toNat '0' ++ digits)
  else if n ≤ point then
    String.ofList (digits ++ List.replicate (point - n).toNat '0') ++ whole
  else
    String.ofList (digits.take point.toNat ++ '.' :: digits.drop point.toNat)

/-- Digits in exponent notation; `plus` comes before an exponent that is not negative. -/
def scientific (plus : String) (digits : List Char) (point : Int) : String :=
  let exponent := point - 1
  let exponentText :=
    (if exponent < 0 then "-" else plus) ++ String.ofList (decimalDigits exponent.natAbs)
  match digits with
  | [d] => String.ofList [d] ++ "e" ++ exponentText
  | d :: ds => String.ofList (d :: '.' :: ds) ++ "e" ++ exponentText
  | [] => "0"

/-- The text of a finite number in a **data file**: positional notation with at least one place when
the point stands from four places before the digits to sixteen places into them, and exponent
notation otherwise, with `plus` before an exponent that is not negative. -/
def dataText (plus : String) (negative : Bool) (rank : Nat) : String :=
  signText negative ++
    if rank = 0 then "0.0"
    else
      let d := shortest .toEven rank
      let digits := decimalDigits d.digits
      let point := (digits.length : Int) + d.exponent
      if -5 < point && point ≤ 16 then positional digits point ".0"
      else scientific plus digits point

/-- The text of a finite number in **positional** notation whatever its size; `whole` follows a
number without a fraction. -/
def plainText (whole : String) (negative : Bool) (rank : Nat) : String :=
  signText negative ++
    if rank = 0 then "0" ++ whole
    else
      let d := shortest .up rank
      let digits := decimalDigits d.digits
      positional digits ((digits.length : Int) + d.exponent) whole

/-- The text of a number on a **console line**: positional, with words for what is not finite. -/
def Binary64.display : Binary64 → String
  | .nan => "NaN"
  | .infinite negative => signText negative ++ "inf"
  | .finite negative rank => plainText "" negative rank

/-- The text of a number on a console line, rounded to **two places**, ties to even. -/
def Binary64.displayTwoPlaces : Binary64 → String
  | .nan => "NaN"
  | .infinite negative => signText negative ++ "inf"
  | .finite negative rank =>
    let hundredths := nearestEven (magnitude rank * 100) unitsPerOne
    let places := decimalDigits (hundredths % 100)
    signText negative ++ String.ofList (decimalDigits (hundredths / 100)) ++ "." ++
      String.ofList (List.replicate (2 - places.length) '0' ++ places)

/-! ### Reading -/

/-- An optional exponent part, with the letter in either case. -/
def readExponent : List Char → Option Int
  | [] => some 0
  | e :: rest =>
    if e = 'e' ∨ e = 'E' then
      match rest with
      | '-' :: ds => (readDigits 10 ds).map fun n => -(n : Int)
      | '+' :: ds => (readDigits 10 ds).map fun n => (n : Int)
      | ds => (readDigits 10 ds).map fun n => (n : Int)
    else none

/-- A **numeral**: ASCII digits with at most one point and at least one digit, then an optional
exponent. -/
def readNumeral (cs : List Char) : Option Decimal :=
  let whole := cs.takeWhile Char.isDigit
  let rest := cs.dropWhile Char.isDigit
  let (fraction, tail) := match rest with
    | '.' :: more => (more.takeWhile Char.isDigit, more.dropWhile Char.isDigit)
    | other => ([], other)
  match readDigits 10 (whole ++ fraction), readExponent tail with
  | some n, some e => some ⟨n, e - (fraction.length : Int)⟩
  | _, _ => none

/-- The number that a numeral with an optional sign names. -/
def readSignedNumeral : List Char → Option Binary64
  | '-' :: cs => (readNumeral cs).map fun d => .ofDecimal true d.digits d.exponent
  | '+' :: cs => (readNumeral cs).map fun d => .ofDecimal false d.digits d.exponent
  | cs => (readNumeral cs).map fun d => .ofDecimal false d.digits d.exponent

end GeoBench.Number
