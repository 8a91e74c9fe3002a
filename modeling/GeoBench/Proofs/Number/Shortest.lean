import GeoBench.Proofs.Number.Rounding
import Mathlib.Algebra.Order.Field.Power
import Mathlib.Data.Rat.Floor
import Mathlib.Tactic.FieldSimp

/-!
# The shortest decimal of a number

The decimal that is written for a number lies in the basin of the number. It is a point of a grid,
and a grid with seventeen digits is finer than any basin is wide, so one of the two points around
the number lies inside. What lies in the basin of a number is rounded to it, so the decimal names
the number again.

## Exact arithmetic

Basins are told in halves of the smallest unit, so that their ends are whole numbers and every
comparison is one of integers. The decimals are moved to the rationals once, where the powers of two
and ten are kept as they are and never evaluated. What is rounded and what is read back are related
by basins alone (`GeoBench.Proofs.Number.Rounding`).

## Digits

The search for the shortest decimal goes from few digits to many and takes the first grid with a
point in the basin. That it ends by seventeen digits is a matter of widths: a basin is at least as
wide as one part in two to the fifty-third of its number, and a grid of seventeen digits is finer.

## Main results

* `gridCandidate_isSome` — a grid that is fine enough has a point in a basin.
* `holds_shortest` — the shortest decimal of a number lies in its basin.
* `ofDecimal_of_holds` — a decimal names the number whose basin it lies in.
-/

namespace GeoBench.Number

/-- The powers of ten of the decimals are the usual ones. -/
theorem tenTo_eq (n : Nat) : tenTo n = 10 ^ n := rfl

/-! ### Values -/

namespace Decimal

/-- The **value** of a decimal number. -/
def value (d : Decimal) : ℚ := d.digits * (10 : ℚ) ^ d.exponent

/-- The two powers of ten that stand for a power with a sign. -/
theorem tenTo_div_tenTo (e : Int) : (tenTo e.toNat / tenTo (-e).toNat : ℚ) = 10 ^ e := by
  rw [tenTo_eq, tenTo_eq]
  push_cast
  rcases Int.le_total 0 e with hpos | hneg
  · obtain ⟨k, rfl⟩ := Int.eq_ofNat_of_zero_le hpos
    simp
  · obtain ⟨k, hk⟩ := Int.eq_ofNat_of_zero_le (Int.neg_nonneg_of_nonpos hneg)
    obtain rfl : e = -(k : Int) := by omega
    simp

/-- No decimal divides by zero. -/
theorem den_pos (d : Decimal) : 0 < d.den := tenTo_pos _

/-- The value of a decimal is the quotient of its parts. -/
theorem num_div_den (d : Decimal) : (d.num / d.den : ℚ) = d.value := by
  rw [value, ← tenTo_div_tenTo, num, den]
  push_cast
  exact mul_div_assoc _ _ _

/-- Taking off trailing zeros keeps the value. -/
theorem value_normalize (d : Decimal) : d.normalize.value = d.value := by
  have hden : ∀ d : Decimal, (d.den : ℚ) ≠ 0 := fun d => by exact_mod_cast d.den_pos.ne'
  rw [← num_div_den, ← num_div_den, div_eq_div_iff (hden _) (hden _)]
  exact_mod_cast d.normalize_value

/-- A decimal is zero if its digits are. -/
theorem value_ne_zero {d : Decimal} : d.value ≠ 0 ↔ d.digits ≠ 0 := by
  have hpow : (10 : ℚ) ^ d.exponent ≠ 0 := zpow_ne_zero _ (by norm_num)
  rw [value, mul_ne_zero_iff, and_iff_left hpow]
  exact_mod_cast Iff.rfl

end Decimal

/-! ### Grids

A grid has the points with a given number of digits around a value. Two of its points are looked at,
the last one before the middle of the basin and the first one behind it. -/

/-- There is a smallest unit. -/
theorem halfUnits_pos : (0 : ℚ) < halfUnitsPerOne := by
  exact_mod_cast twoTo_pos 1075

/-- Half units are halves of units. Both numbers are so large that only the kernel may compute with
them. -/
theorem halfUnits_eq : (halfUnitsPerOne : ℚ) = 2 * unitsPerOne := by
  have htwo : halfUnitsPerOne = 2 * unitsPerOne := by decide +kernel
  rw [htwo, Nat.cast_mul, Nat.cast_ofNat]

/-- The distance of the points of a grid whose last digit has a given exponent, in half units. -/
def gridUnit (step : Int) : ℚ := halfUnitsPerOne * 10 ^ step

/-- The steps of a grid are positive. -/
theorem gridUnit_pos (step : Int) : 0 < gridUnit step :=
  mul_pos halfUnits_pos (zpow_pos (by norm_num) _)

/-- A grid with more digits is finer by as many powers of ten. -/
theorem gridUnit_sub (step : Int) (more : Nat) :
    gridUnit (step - more) * 10 ^ more = gridUnit step := by
  rw [gridUnit, gridUnit, mul_assoc, ← zpow_natCast, ← zpow_add₀ (by norm_num), sub_add_cancel]

/-- A point of a grid as the ratio that is computed for it. -/
theorem gridPoint_eq (digits : Nat) (step : Int) :
    ((digits * (halfUnitsPerOne * tenTo step.toNat) : Nat) / (tenTo (-step).toNat : Nat) : ℚ) =
      digits * gridUnit step := by
  rw [gridUnit, ← Decimal.tenTo_div_tenTo]
  push_cast
  ring

/-- A point of a grid is a decimal number. -/
theorem gridPoint_value (digits : Nat) (step : Int) :
    (⟨digits, step⟩ : Decimal).value * halfUnitsPerOne = digits * gridUnit step := by
  rw [Decimal.value, gridUnit]
  ring

/-- The test of a point tells whether the basin holds it. -/
theorem contains_gridPoint (b : Basin) (digits : Nat) (step : Int) :
    b.contains (digits * (halfUnitsPerOne * tenTo step.toNat)) (tenTo (-step).toNat) ↔
      b.Holds (digits * gridUnit step) := by
  rw [b.contains_iff _ (tenTo_pos _), gridPoint_eq]

section

variable {tie : Tie} {b : Basin} {leading : Int} {count : Nat} {d : Decimal}

/-- A candidate lies in the basin, and it is not zero. -/
theorem gridCandidate_holds (h : gridCandidate tie b leading count = some d) :
    b.Holds (d.value * halfUnitsPerOne) ∧ d.digits ≠ 0 := by
  unfold gridCandidate at h
  extract_lets step scale unit target below above below? above? nearerAbove at h
  have hbelow : below? = true →
      b.Holds ((⟨below, step⟩ : Decimal).value * halfUnitsPerOne) ∧ below ≠ 0 := by
    intro hb
    obtain ⟨hcontains, hne⟩ := Bool.and_eq_true_iff.mp hb
    rw [gridPoint_value]
    exact ⟨(contains_gridPoint b below step).mp hcontains, by simpa using hne⟩
  have habove : above? = true →
      b.Holds ((⟨above, step⟩ : Decimal).value * halfUnitsPerOne) ∧ above ≠ 0 := by
    intro ha
    rw [gridPoint_value]
    exact ⟨(contains_gridPoint b above step).mp ha, Nat.succ_ne_zero _⟩
  split at h
  next hboth =>
    obtain ⟨hb, ha⟩ := Bool.and_eq_true_iff.mp hboth
    obtain rfl := Option.some.inj h
    dsimp only
    split
    · exact habove ha
    · exact hbelow hb
  next =>
    split at h
    next hb =>
      obtain rfl := Option.some.inj h
      exact hbelow hb
    next =>
      split at h
      next ha =>
        obtain rfl := Option.some.inj h
        exact habove ha
      next => cases h

/-- **A grid that is fine enough has a candidate**: the last point before the middle or the first
one behind it lies in the basin, since the two are less than its width apart. -/
theorem gridCandidate_isSome (hlow : b.lowest < b.middle) (hhigh : b.middle < b.highest)
    (hfine : gridUnit (leading - (count - 1 : Int)) < b.highest - b.lowest)
    (hlead : gridUnit (leading - (count - 1 : Int)) ≤ b.middle) :
    (gridCandidate tie b leading count).isSome := by
  unfold gridCandidate
  extract_lets step scale unit target below above below? above? nearerAbove
  have hscale : (0 : ℚ) < scale := by exact_mod_cast tenTo_pos _
  have hunit : 0 < unit := Nat.mul_pos (twoTo_pos 1075) (tenTo_pos _)
  have hbelow : below * gridUnit step ≤ b.middle := by
    rw [← gridPoint_eq, div_le_iff₀ hscale]
    exact_mod_cast Nat.div_mul_le_self target unit
  have habove : (b.middle : ℚ) < above * gridUnit step := by
    rw [← gridPoint_eq, lt_div_iff₀ hscale]
    exact_mod_cast Nat.lt_mul_of_div_lt (Nat.lt_succ_self below) hunit
  have hstep : (above : ℚ) * gridUnit step = below * gridUnit step + gridUnit step := by
    rw [show above = below + 1 from rfl]
    push_cast
    ring
  have hlow : (b.lowest : ℚ) < b.middle := by exact_mod_cast hlow
  have hhigh : (b.middle : ℚ) < b.highest := by exact_mod_cast hhigh
  have hsome : below? = true ∨ above? = true := by
    by_cases hinside : b.lowest < below * gridUnit step
    · refine .inl (Bool.and_eq_true_iff.mpr ⟨(contains_gridPoint b below step).mpr ?_, ?_⟩)
      · refine ⟨hinside.le, by linarith, ?_⟩
        rintro (heq | heq) <;> linarith
      · have hne : below ≠ 0 := by
          intro hzero
          rw [hstep, hzero, Nat.cast_zero, zero_mul, zero_add] at habove
          exact absurd hlead (not_le.mpr habove)
        simpa using hne
    · refine .inr ((contains_gridPoint b above step).mpr ?_)
      refine ⟨by linarith, by linarith, ?_⟩
      rintro (heq | heq) <;> linarith
  rcases hsome with hb | ha
  · cases ha : above? <;> simp [hb]
  · cases hb : below? <;> simp [ha]

/-- The first candidate lies in the basin if there is one at all. The induction is on the grids that
are left. -/
theorem firstCandidate_holds {more : Nat}
    (h : ∃ c, count ≤ c ∧ c < count + more ∧ (gridCandidate tie b leading c).isSome) :
    b.Holds ((firstCandidate tie b leading count more).value * halfUnitsPerOne) ∧
      (firstCandidate tie b leading count more).digits ≠ 0 := by
  induction more generalizing count with
  | zero =>
      obtain ⟨c, hle, hlt, -⟩ := h
      omega
  | succ more ih =>
      rw [firstCandidate]
      cases hfirst : gridCandidate tie b leading count with
      | some d => exact gridCandidate_holds hfirst
      | none =>
          obtain ⟨c, hle, hlt, hsome⟩ := h
          refine ih ⟨c, ?_, by omega, hsome⟩
          refine Nat.lt_of_le_of_ne hle ?_
          rintro rfl
          rw [hfirst] at hsome
          cases hsome

end

/-! ### Seventeen digits -/

/-- A number has as many digits as its weight says. -/
theorem tenTo_length_le {n : Nat} (h : n ≠ 0) : tenTo (Decimal.length n - 1) ≤ n := by
  rcases Nat.eq_zero_or_pos (Decimal.length n - 1) with hzero | hpos
  · rw [hzero]
    exact Nat.one_le_iff_ne_zero.mpr h
  · have hlong : ¬ Decimal.length n ≤ Decimal.length n - 1 := by omega
    rw [tenTo_eq]
    exact not_lt.mp (mt (Nat.length_toDigits_le_iff (by decide) hpos).mpr hlong)

/-- The leading digit stands where its exponent says. -/
theorem gridUnit_leadingExponent_le {halfUnits : Nat} (h : 0 < halfUnits) :
    gridUnit (leadingExponent halfUnits) ≤ halfUnits := by
  have hlarge : halfUnitsPerOne ≤ tenTo 400 := by decide +kernel
  have hne : halfUnits * tenTo 400 / halfUnitsPerOne ≠ 0 :=
    (Nat.div_pos (hlarge.trans (Nat.le_mul_of_pos_left _ h)) (twoTo_pos 1075)).ne'
  have hlength : tenTo (Decimal.length (halfUnits * tenTo 400 / halfUnitsPerOne) - 1) *
      halfUnitsPerOne ≤ halfUnits * tenTo 400 :=
    (Nat.le_div_iff_mul_le (twoTo_pos 1075)).mp (tenTo_length_le hne)
  have hpos : 0 < Decimal.length (halfUnits * tenTo 400 / halfUnitsPerOne) :=
    Nat.length_toDigits_pos
  rw [gridUnit, leadingExponent]
  generalize Decimal.length (halfUnits * tenTo 400 / halfUnitsPerOne) = length at hlength hpos
  have hweight : (0 : ℚ) < tenTo 400 := by exact_mod_cast tenTo_pos 400
  have hexponent : (10 : ℚ) ^ ((length : Int) - 401) = tenTo (length - 1) / tenTo 400 := by
    have hsum : (length : Int) - 401 + (400 : Nat) = (length - 1 : Nat) := by omega
    rw [eq_div_iff hweight.ne', tenTo_eq, tenTo_eq, Nat.cast_pow, Nat.cast_pow, Nat.cast_ofNat,
      ← zpow_natCast, ← zpow_natCast, ← zpow_add₀ (by norm_num), hsum]
  rw [hexponent, mul_div_assoc', div_le_iff₀ hweight, mul_comm]
  exact_mod_cast hlength

/-- A basin is wider than the grid with seventeen digits. -/
theorem middle_lt_width {rank : Nat} (h : 0 < rank) :
    (Basin.ofRank rank).middle + 10 ^ 16 * (Basin.ofRank rank).lowest <
      10 ^ 16 * (Basin.ofRank rank).highest := by
  obtain ⟨s, m, rfl, hm, hlow⟩ := exists_step rank
  have hmiddle : (Basin.ofRank (s * fractionCount + m)).middle = 2 * (m * twoTo s) := by
    rw [Basin.ofRank, magnitude_of_step hm.le hlow]
  have hsteps : m * twoTo s ≤ 2 * fractionCount * twoTo s := Nat.mul_le_mul_right _ hm.le
  have hend : (2 * m + 1) * twoTo s = 2 * (m * twoTo s) + twoTo s := by ring
  have hpos : 0 < twoTo s := twoTo_pos s
  rw [hmiddle, Basin.highest_of_step hm hlow, hend]
  simp only [fractionCount] at hsteps hlow
  by_cases hinner : s = 0 ∨ fractionCount < m
  · -- both neighbours are one step away
    obtain ⟨m, rfl⟩ : ∃ k, m = k + 1 := by
      refine Nat.exists_eq_add_one_of_ne_zero ?_
      simp only [fractionCount] at hinner h
      omega
    have hbefore : s = 0 ∨ fractionCount ≤ m := hinner.imp_right Nat.le_of_lt_succ
    have hstart : (2 * m + 1) * twoTo s + twoTo s = 2 * ((m + 1) * twoTo s) := by ring
    rw [← Nat.add_assoc, Basin.lowest_succ, Basin.highest_of_step (by omega) hbefore]
    omega
  · -- the first magnitude of a block has steps of half the length before it
    have hstart := Basin.lowest_lt h
    rw [magnitude_of_step hm.le hlow] at hstart
    have hfirst : m * twoTo s = fractionCount * twoTo s := by
      congr 1
      simp only [fractionCount] at hinner ⊢
      omega
    simp only [fractionCount] at hfirst
    omega

/-- **The shortest decimal** of a magnitude that is not zero lies in its basin. -/
theorem holds_shortest (tie : Tie) {rank : Nat} (h : 0 < rank) :
    (Basin.ofRank rank).Holds ((shortest tie rank).value * halfUnitsPerOne) ∧
      (shortest tie rank).digits ≠ 0 := by
  have hmiddle : (Basin.ofRank rank).middle = 2 * magnitude rank := rfl
  have hpos : 0 < (Basin.ofRank rank).middle := (Nat.zero_le _).trans_lt (Basin.lowest_lt h)
  have hlead := gridUnit_leadingExponent_le hpos
  have hgrid := gridUnit_sub (leadingExponent (Basin.ofRank rank).middle) 16
  have hunit := gridUnit_pos (leadingExponent (Basin.ofRank rank).middle - (16 : Nat))
  have hwidth : ((Basin.ofRank rank).middle + 10 ^ 16 * (Basin.ofRank rank).lowest : ℚ) <
      10 ^ 16 * (Basin.ofRank rank).highest := by exact_mod_cast middle_lt_width h
  have hsome : (gridCandidate tie (Basin.ofRank rank)
      (leadingExponent (Basin.ofRank rank).middle) 17).isSome := by
    refine gridCandidate_isSome (Basin.lowest_lt h) (Basin.lt_highest rank) ?_ ?_
    · change gridUnit (leadingExponent (Basin.ofRank rank).middle - (16 : Nat)) < _
      linarith
    · change gridUnit (leadingExponent (Basin.ofRank rank).middle - (16 : Nat)) ≤ _
      linarith
  obtain ⟨hholds, hdigits⟩ := @firstCandidate_holds tie _ _ 1 17 ⟨17, by decide, by decide, hsome⟩
  rw [shortest, if_neg h.ne']
  dsimp only
  rw [Decimal.value_normalize, ← Decimal.value_ne_zero, Decimal.value_normalize,
    Decimal.value_ne_zero]
  exact ⟨hholds, hdigits⟩

/-! ### Reading back

Decimals with exponents far out of range are decided without computing a power. That these decisions
are right is part of what has to be shown of a decimal that lies in a basin. -/

/-- Where the finite magnitudes end. -/
theorem magnitude_finiteCount : magnitude finiteCount = twoTo 2098 := by
  have hblock := magnitude_block 2046 (Nat.zero_le fractionCount)
  have hpower : (fractionCount + 0) * twoTo 2046 = twoTo 2098 := by decide +kernel
  exact hblock.trans hpower

/-- The basins of the finite numbers end there. -/
theorem highest_le_of_finite {rank : Nat} (h : rank < finiteCount) :
    (Basin.ofRank rank).highest ≤ 2 * twoTo 2098 := by
  rw [← magnitude_finiteCount]
  exact (Basin.highest_le_lowest h).trans (Basin.lowest_lt (by decide)).le

section

variable {d : Decimal}

/-- A decimal with an exponent beyond all finite numbers lies in no basin of theirs. -/
theorem not_holds_of_large (hne : d.digits ≠ 0) (hlarge : 400 < d.exponent) {rank : Nat}
    (hrank : rank < finiteCount) :
    ¬ (Basin.ofRank rank).Holds (d.value * halfUnitsPerOne) := by
  intro h
  have hhigh : ((Basin.ofRank rank).highest : ℚ) ≤ (2 * twoTo 2098 : Nat) := by
    exact_mod_cast highest_le_of_finite hrank
  have hbound : (2 * twoTo 2098 : Nat) < tenTo 401 * halfUnitsPerOne := by decide +kernel
  have hbound : ((2 * twoTo 2098 : Nat) : ℚ) < tenTo 401 * halfUnitsPerOne := by
    exact_mod_cast hbound
  have hdigits : (1 : ℚ) ≤ d.digits := by exact_mod_cast Nat.one_le_iff_ne_zero.mpr hne
  have hpower : (tenTo 401 : ℚ) ≤ 10 ^ d.exponent := by
    rw [tenTo_eq, Nat.cast_pow, Nat.cast_ofNat, ← zpow_natCast]
    exact zpow_le_zpow_right₀ (by norm_num) (by omega)
  have hvalue : (tenTo 401 : ℚ) ≤ d.value := by
    rw [Decimal.value]
    exact hpower.trans (le_mul_of_one_le_left (by positivity) hdigits)
  have hscaled : (tenTo 401 : ℚ) * halfUnitsPerOne ≤ d.value * halfUnitsPerOne :=
    mul_le_mul_of_nonneg_right hvalue halfUnits_pos.le
  linarith [h.2.1]

/-- A decimal with an exponent below all numbers is less than half a unit. -/
theorem value_lt_of_small (hsmall : d.exponent + (Nat.log2 d.digits : Int) < -400) :
    d.value * halfUnitsPerOne < 1 := by
  have hdigits : d.digits * halfUnitsPerOne < 10 ^ (401 + Nat.log2 d.digits) := by
    have hweight : 2 * halfUnitsPerOne ≤ tenTo 401 := by decide +kernel
    calc d.digits * halfUnitsPerOne < 2 ^ (Nat.log2 d.digits + 1) * halfUnitsPerOne :=
          Nat.mul_lt_mul_of_pos_right Nat.lt_log2_self (twoTo_pos 1075)
      _ = 2 ^ Nat.log2 d.digits * (2 * halfUnitsPerOne) := by rw [Nat.pow_succ, Nat.mul_assoc]
      _ ≤ 10 ^ Nat.log2 d.digits * tenTo 401 :=
          Nat.mul_le_mul (Nat.pow_le_pow_left (by decide) _) hweight
      _ = 10 ^ (401 + Nat.log2 d.digits) := by rw [tenTo_eq, ← Nat.pow_add, Nat.add_comm]
  have hdigits : (d.digits * halfUnitsPerOne : ℚ) < 10 ^ (401 + Nat.log2 d.digits) := by
    exact_mod_cast hdigits
  have hpower : (10 : ℚ) ^ d.exponent ≤ 10 ^ (-((401 + Nat.log2 d.digits : Nat) : Int)) :=
    zpow_le_zpow_right₀ (by norm_num) (by omega)
  rw [zpow_neg, zpow_natCast] at hpower
  have hpos : (0 : ℚ) < 10 ^ (401 + Nat.log2 d.digits) := by positivity
  calc d.value * halfUnitsPerOne = d.digits * halfUnitsPerOne * 10 ^ d.exponent := by
        rw [Decimal.value]
        ring
    _ ≤ d.digits * halfUnitsPerOne * (10 ^ (401 + Nat.log2 d.digits))⁻¹ :=
        mul_le_mul_of_nonneg_left hpower (mul_nonneg (Nat.cast_nonneg _) halfUnits_pos.le)
    _ < 1 := by rwa [← div_eq_mul_inv, div_lt_one hpos]

/-- Only zero is less than half a unit. -/
theorem rank_eq_zero_of_holds {rank : Nat} {x : ℚ} (h : (Basin.ofRank rank).Holds x) (hx : x < 1) :
    rank = 0 := by
  by_contra hne
  have hlow : (Basin.ofRank 0).highest ≤ (Basin.ofRank rank).lowest :=
    Basin.highest_le_lowest (Nat.pos_of_ne_zero hne)
  have hone : (Basin.ofRank 0).highest = 1 := rfl
  have hle : (1 : ℚ) ≤ (Basin.ofRank rank).lowest := by exact_mod_cast hone ▸ hlow
  linarith [h.1]

/-- A finite number is the nearest one to what lies in its basin. -/
theorem ofUnits_of_holds (negative : Bool) {n d : Nat} (hd : 0 < d) {rank : Fin finiteCount}
    (h : (Basin.ofRank rank).Holds ((2 * n : Nat) / d)) :
    Binary64.ofUnits negative n d = .finite negative rank := by
  rw [Binary64.ofUnits, (nearestRank_eq_iff hd).mpr h, Binary64.ofRank, dif_pos rank.isLt]

/-- The ratio of units that a whole decimal names, in half units. -/
theorem ratio_of_whole (digits e units : Nat) :
    ((2 * (digits * tenTo e * units) : Nat) / (1 : Nat) : ℚ) =
      digits * 10 ^ e * (2 * units) := by
  rw [tenTo_eq]
  push_cast
  ring

/-- The ratio of units that a decimal with places names, in half units. -/
theorem ratio_of_places (digits e units : Nat) :
    ((2 * (digits * units) : Nat) / (tenTo (e + 1) : Nat) : ℚ) =
      digits * ((10 : ℚ) ^ (e + 1))⁻¹ * (2 * units) := by
  rw [tenTo_eq]
  push_cast
  ring

/-- **What a decimal names** is the number whose basin it lies in. -/
theorem ofDecimal_of_holds (negative : Bool) (hne : d.digits ≠ 0) {rank : Fin finiteCount}
    (h : (Basin.ofRank rank).Holds (d.value * halfUnitsPerOne)) :
    Binary64.ofDecimal negative d.digits d.exponent = .finite negative rank := by
  unfold Binary64.ofDecimal
  rw [if_neg hne]
  split
  next hlarge => exact absurd h (not_holds_of_large hne hlarge rank.isLt)
  next =>
    split
    next hsmall =>
      have hzero : rank = ⟨0, by decide⟩ :=
        Fin.ext (rank_eq_zero_of_holds h (value_lt_of_small hsmall))
      rw [hzero, Binary64.zero]
    next =>
      rw [Decimal.value, halfUnits_eq] at h
      cases hexponent : d.exponent with
      | ofNat e =>
        refine ofUnits_of_holds negative Nat.one_pos ?_
        rw [hexponent, Int.ofNat_eq_natCast, zpow_natCast] at h
        rwa [ratio_of_whole]
      | negSucc e =>
        refine ofUnits_of_holds negative (tenTo_pos _) ?_
        rw [hexponent, zpow_negSucc] at h
        rwa [ratio_of_places]

end

end GeoBench.Number
