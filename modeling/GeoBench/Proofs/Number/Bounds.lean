import GeoBench.Number.Arithmetic
import GeoBench.Proofs.Number.Rounding

/-!
# Bounds of results

Rounding never passes a magnitude, so an operation whose exact result is no greater than a finite
number gives a finite number that is no greater either. It gives an infinity from the middle between
the last finite magnitude and the next one on, and only then.

## Why magnitudes

Rounding keeps the order of numbers and leaves every magnitude where it is. So a result that lies on
one side of a magnitude stays on that side, and bounds for rounded results need nothing but bounds
for exact ones. This is used for the sum and the quotient of a mean, and for the product with a
hundred when a number is cut to two places.

## Main results

* `ofUnits_of_le` — a result up to a finite magnitude.
* `ofUnits_of_lt`, `ofUnits_of_ge` — where the infinite results begin.
* `roundEven_finite`, `div_finite` — operations that stay within the finite numbers.
* `mul_finite` — a product with a whole number may pass them.
-/

namespace GeoBench.Number

variable {n d : Nat}

/-! ### Bounds of results -/

/-- Powers of two multiply as their exponents add. -/
theorem twoTo_add (j k : Nat) : twoTo (j + k) = twoTo j * twoTo k := by
  rw [twoTo_eq, twoTo_eq, twoTo_eq, Nat.pow_add]

/-- The rank of a power of two. -/
def powerRank (k : Nat) : Nat := (k + 1023) * fractionCount

/-- The rank of a power of two has that power for its magnitude. -/
theorem magnitude_powerRank (k : Nat) : magnitude (powerRank k) = twoTo k * unitsPerOne := by
  have hblock := magnitude_block (k + 1022) (Nat.zero_le fractionCount)
  have hfirst : (fractionCount + 0) * twoTo 1022 = unitsPerOne := by decide +kernel
  have hrank : (k + 1022 + 1) * fractionCount + 0 = powerRank k := by
    simp only [powerRank, fractionCount]
    omega
  rw [← hrank, ← hfirst, Nat.mul_left_comm, ← twoTo_add]
  exact hblock

/-- **A result up to a finite magnitude** is finite, and rounding does not lift it above. -/
theorem ofUnits_of_le (negative : Bool) {rank : Nat} (hrank : rank < finiteCount) (hd : 0 < d)
    (h : n ≤ magnitude rank * d) :
    ∃ a, Binary64.ofUnits negative n d = .finite negative a ∧ magnitude a ≤ magnitude rank := by
  have hle := nearestRank_le_of_le hd h
  refine ⟨⟨nearestRank n d, by omega⟩, ?_, magnitude_strictMono.monotone hle⟩
  rw [Binary64.ofUnits, Binary64.ofRank, dif_pos (by omega)]

/-- A result is infinite from the middle between the last finite magnitude and the next one on. -/
theorem ofUnits_of_ge (negative : Bool) (hd : 0 < d)
    (h : (Basin.ofRank finiteCount).lowest * d ≤ 2 * n) :
    Binary64.ofUnits negative n d = .infinite negative := by
  have hge := (le_nearestRank_iff hd (by decide)).mpr h
  rw [Binary64.ofUnits, Binary64.ofRank, dif_neg (by omega)]

/-- Below that middle it is finite. -/
theorem ofUnits_of_lt (negative : Bool) (hd : 0 < d)
    (h : 2 * n < (Basin.ofRank finiteCount).lowest * d) :
    ∃ a, Binary64.ofUnits negative n d = .finite negative a := by
  have hlt : nearestRank n d < finiteCount := by
    rw [← not_le, le_nearestRank_iff hd (by decide)]
    omega
  exact ⟨⟨_, hlt⟩, by rw [Binary64.ofUnits, Binary64.ofRank, dif_pos hlt]⟩

/-- A whole number up to a power of two is not rounded beyond it. -/
theorem ofNat_of_le {k : Nat} (hk : k < 1024) (h : n ≤ twoTo k) :
    ∃ a, Binary64.ofNat n = .finite false a ∧ magnitude a ≤ twoTo k * unitsPerOne := by
  have hrank : powerRank k < finiteCount := by
    simp only [powerRank, fractionCount, finiteCount]
    omega
  rw [← magnitude_powerRank, Binary64.ofNat]
  refine ofUnits_of_le false hrank Nat.one_pos ?_
  rw [magnitude_powerRank, Nat.mul_one]
  exact Nat.mul_le_mul_right _ h

/-- A positive whole number is not rounded below one. -/
theorem one_le_ofNat (h : 0 < n) {a : Fin finiteCount} (hn : Binary64.ofNat n = .finite false a) :
    unitsPerOne ≤ magnitude a := by
  have hone : magnitude (powerRank 0) = unitsPerOne := by
    rw [magnitude_powerRank, twoTo_eq, Nat.pow_zero, Nat.one_mul]
  have hrank : powerRank 0 ≤ nearestRank (n * unitsPerOne) 1 := by
    refine le_nearestRank_of_le Nat.one_pos ?_
    rw [hone, Nat.mul_one]
    exact Nat.le_mul_of_pos_left _ h
  rw [Binary64.ofNat, Binary64.ofUnits, Binary64.ofRank] at hn
  split at hn
  next hfinite =>
    obtain rfl := (Binary64.finite.inj hn).2
    exact hone.symm.le.trans (magnitude_strictMono.monotone hrank)
  next => cases hn

/-- The number a hundred. -/
theorem ofNat_hundred :
    ∃ a, Binary64.ofNat 100 = .finite false a ∧ magnitude a = 100 * unitsPerOne :=
  ⟨⟨4636737291354636288, by decide⟩, by decide +kernel, by decide +kernel⟩

/-- The greatest finite magnitude is a whole number. -/
theorem exists_magnitude_last : ∃ k, magnitude (finiteCount - 1) = k * unitsPerOne := by
  have hstep : magnitude (finiteCount - 1) = (2 * fractionCount - 1) * twoTo 2045 :=
    @magnitude_of_step 2045 (2 * fractionCount - 1) (by omega) (.inr (by omega))
  have hpower : (2 * fractionCount - 1) * twoTo 2045 =
      (2 * fractionCount - 1) * twoTo 971 * unitsPerOne := by
    decide +kernel
  rw [hstep, hpower]
  exact ⟨_, rfl⟩

/-- The nearest whole number to one up to a whole number is no greater than that. -/
theorem nearestEven_le {k : Nat} (hd : 0 < d) (h : n ≤ k * d) : nearestEven n d ≤ k := by
  obtain ⟨hle, -, -⟩ := nearestEven_spec n hd
  by_contra hlt
  have hmul := Nat.mul_le_mul_right d (not_le.mp hlt)
  rw [Nat.succ_mul] at hmul
  omega

/-! ### Operations within bounds -/

section

variable (negative : Bool) (a : Fin finiteCount)

/-- Cutting a finite number to a whole one keeps it finite. -/
theorem roundEven_finite :
    ∃ b, (Binary64.finite negative a).roundEven = .finite negative b := by
  obtain ⟨k, hlast⟩ := exists_magnitude_last
  have hle : magnitude a ≤ k * unitsPerOne := by
    rw [← hlast]
    exact magnitude_strictMono.monotone (by omega)
  have hwhole : nearestEven (magnitude a) unitsPerOne * unitsPerOne ≤
      magnitude (finiteCount - 1) * 1 := by
    rw [hlast, Nat.mul_one]
    exact Nat.mul_le_mul_right _ (nearestEven_le (twoTo_pos 1074) hle)
  obtain ⟨b, hb, -⟩ := ofUnits_of_le negative (by decide) Nat.one_pos hwhole
  exact ⟨b, hb⟩

variable {c : Fin finiteCount}

/-- So does a division by a number that is at least one. -/
theorem div_finite (hc : unitsPerOne ≤ magnitude c) :
    ∃ b, (Binary64.finite negative a).div (.finite false c) = .finite negative b ∧
      magnitude b ≤ magnitude a := by
  have hpos : 0 < magnitude c := (twoTo_pos 1074).trans_le hc
  have hne : c.val ≠ 0 := by
    intro hzero
    rw [hzero] at hpos
    exact Nat.lt_irrefl 0 hpos
  rw [Binary64.div, if_neg hne, Bool.bne_false]
  exact ofUnits_of_le negative a.isLt hpos (Nat.mul_le_mul_left _ hc)

/-- The product with a whole number is infinite exactly if it passes the finite numbers. -/
theorem mul_finite {k : Nat} (hc : magnitude c = k * unitsPerOne) :
    (2 * k * magnitude a < (Basin.ofRank finiteCount).lowest →
      ∃ b, (Binary64.finite negative a).mul (.finite false c) = .finite negative b) ∧
    ((Basin.ofRank finiteCount).lowest ≤ 2 * k * magnitude a →
      (Binary64.finite negative a).mul (.finite false c) = .infinite negative) := by
  have hscaled : 2 * (magnitude a * (k * unitsPerOne)) = 2 * k * magnitude a * unitsPerOne := by
    generalize unitsPerOne = units
    ring
  rw [Binary64.mul, Bool.bne_false, hc]
  constructor
  · intro hlt
    refine ofUnits_of_lt negative (twoTo_pos 1074) ?_
    rw [hscaled]
    exact Nat.mul_lt_mul_of_pos_right hlt (twoTo_pos 1074)
  · intro hle
    refine ofUnits_of_ge negative (twoTo_pos 1074) ?_
    rw [hscaled]
    exact Nat.mul_le_mul_right _ hle

/-- A product with a whole number up to a finite magnitude is finite, and no greater than that. -/
theorem mul_finite_of_le {k rank : Nat} (hc : magnitude c = k * unitsPerOne)
    (hrank : rank < finiteCount) (h : k * magnitude a ≤ magnitude rank) :
    ∃ b, (Binary64.finite negative a).mul (.finite false c) = .finite negative b ∧
      magnitude b ≤ magnitude rank := by
  rw [Binary64.mul, Bool.bne_false, hc]
  refine ofUnits_of_le negative hrank (twoTo_pos 1074) ?_
  rw [Nat.mul_left_comm, ← Nat.mul_assoc]
  exact Nat.mul_le_mul_right _ h

end

end GeoBench.Number
