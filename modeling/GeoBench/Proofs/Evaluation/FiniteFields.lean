import GeoBench.Proofs.Number.Bounds
import GeoBench.Report

/-!
# Fields that are finite

Rounding to two places multiplies by a hundred before it divides again, so a number is rounded to an
infinity as soon as a hundred times its magnitude passes the finite ones; what comes after the
product stays within them. A share is far below that limit, whatever the counters are. A mean of
durations may be beyond it.

## Main results

* `roundTwo_finite` — from where on a number is rounded to an infinity.
* `isFinite_roundTwo` — the numbers that are rounded to a finite number.
* `isFinite_share` — a share is always finite.
-/

namespace GeoBench

open GeoBench.Number

/-- Whether a number **has two places**: it is finite, and a hundred times its magnitude is below
the middle between the last finite magnitude and the next one. -/
def HasPlaces : Binary64 → Prop
  | .finite _ a => 200 * magnitude a < magnitude (finiteCount - 1) + magnitude finiteCount
  | _ => False

/-- **A number is rounded to an infinity** with its sign from where on a hundred times its magnitude
is. -/
theorem roundTwo_finite (negative : Bool) (a : Fin finiteCount) :
    (HasPlaces (.finite negative a) → ∃ b, roundTwo (.finite negative a) = .finite negative b) ∧
      (¬ HasPlaces (.finite negative a) → roundTwo (.finite negative a) = .infinite negative) := by
  obtain ⟨c, hhundred, hc⟩ := ofNat_hundred
  obtain ⟨hfinite, hinfinite⟩ := mul_finite negative a hc
  have hone : unitsPerOne ≤ magnitude c := hc ▸ Nat.le_mul_of_pos_left _ (by decide)
  rw [roundTwo, hhundred]
  constructor
  · intro hlt
    obtain ⟨product, hproduct⟩ := hfinite hlt
    obtain ⟨whole, hwhole⟩ := roundEven_finite negative product
    obtain ⟨b, hb, -⟩ := div_finite negative whole hone
    exact ⟨b, by rw [hproduct, hwhole, hb]⟩
  · intro hlt
    rw [hinfinite (not_lt.mp hlt)]
    exact congrArg Binary64.infinite (Bool.bne_false negative)

/-- An infinity stays one. -/
theorem roundTwo_infinite (negative : Bool) :
    roundTwo (.infinite negative) = .infinite negative := by
  obtain ⟨c, hhundred, hc⟩ := ofNat_hundred
  have hne : c.val ≠ 0 := by
    intro hzero
    rw [hzero] at hc
    exact absurd hc (Nat.ne_of_lt (Nat.mul_pos (by decide) (twoTo_pos 1074)))
  have hwhole : (Binary64.infinite negative).roundEven = .infinite negative := rfl
  rw [roundTwo, hhundred, Binary64.mul, if_neg hne, Bool.bne_false, hwhole, Binary64.div,
    Bool.bne_false]

/-- **The numbers that are rounded to a finite number.** -/
theorem isFinite_roundTwo (x : Binary64) : (roundTwo x).isFinite ↔ HasPlaces x := by
  cases x with
  | nan => simp [roundTwo, Binary64.mul, Binary64.roundEven, Binary64.div, Binary64.isFinite,
      HasPlaces]
  | infinite negative => simp [roundTwo_infinite, Binary64.isFinite, HasPlaces]
  | finite negative a =>
      obtain ⟨hfinite, hinfinite⟩ := roundTwo_finite negative a
      constructor
      · intro h
        by_contra hlimit
        rw [hinfinite hlimit] at h
        cases h
      · intro h
        obtain ⟨b, hb⟩ := hfinite h
        rw [hb]
        rfl

/-- **A share is always finite**: it is a hundred times a word at most. -/
theorem isFinite_share {inconsistencies received : Nat} (h : inconsistencies ≤ Binary64.maxWord)
    (hreceived : received ≤ Binary64.maxWord) :
    (inconsistencyShare inconsistencies received).isFinite := by
  rw [inconsistencyShare]
  split
  next => rfl
  next hne =>
    have hword : ∀ {n : Nat}, n ≤ Binary64.maxWord → n ≤ twoTo 64 :=
      fun hn => hn.trans (by decide +kernel)
    obtain ⟨a, ha, hale⟩ := ofNat_of_le (by decide) (hword h)
    obtain ⟨b, hb, -⟩ := ofNat_of_le (by decide) (hword hreceived)
    obtain ⟨q, hq, hqle⟩ := div_finite false a (one_le_ofNat (Nat.pos_of_ne_zero hne) hb)
    obtain ⟨c, hhundred, hc⟩ := ofNat_hundred
    have hproduct : 100 * magnitude q ≤ magnitude (powerRank 71) := by
      rw [magnitude_powerRank]
      calc 100 * magnitude q ≤ 100 * (twoTo 64 * unitsPerOne) :=
            Nat.mul_le_mul_left _ (hqle.trans hale)
        _ ≤ twoTo 71 * unitsPerOne := by decide +kernel
    obtain ⟨p, hp, hple⟩ := mul_finite_of_le false q hc (by decide) hproduct
    rw [ha, hb, hq, hhundred, hp, isFinite_roundTwo]
    have hlimit : 200 * magnitude (powerRank 71) <
        magnitude (finiteCount - 1) + magnitude finiteCount := by
      decide +kernel
    exact (Nat.mul_le_mul_left 200 hple).trans_lt hlimit

end GeoBench
