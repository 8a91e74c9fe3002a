import GeoBench.Number.Decimal
import Mathlib.Algebra.Order.Field.Basic
import Mathlib.Data.Rat.Cast.Order
import Mathlib.Order.Monotone.Basic
import Mathlib.Tactic.Linarith
import Mathlib.Tactic.Ring

/-!
# Rounding to the nearest number

The magnitudes of binary64 numbers grow strictly with their ranks, and the numbers that are nearest
to one of them make its basin. The basins cover everything and share nothing, so the nearest rank of
a number is the one whose basin it lies in. From this everything else about rounding follows: it
depends on the value alone, it keeps the order, it leaves the magnitudes as they are, and what lies
at a middle goes to the even rank.

## Conventions

Basins are counted in half units, so the ratio `n / d` of units is the number `2 * n / d` of a
basin. A magnitude is told by its **step**: `m` steps of the length `twoTo s`, where `m` is below
`2 * fractionCount`, and at least `fractionCount` unless the steps are the units themselves.

## Main results

* `magnitude_strictMono` — the order of ranks is the order of magnitudes.
* `nearestRank_eq_iff` — the nearest rank is the one whose basin holds the number.
* `nearestRank_le_nearestRank` — rounding keeps the order.
* `nearestRank_le_of_le`, `le_nearestRank_of_le` — rounding never passes a magnitude.
* `le_nearestRank_iff` — from where on a number is rounded to an even rank or beyond.
-/

namespace GeoBench.Number

/-- The powers of two of the format are the usual ones. -/
theorem twoTo_eq (n : Nat) : twoTo n = 2 ^ n := rfl

/-! ### Magnitudes

Magnitudes come in blocks with steps of one length each. At the end of a block the next magnitude is
the first one of the next block, so neighbours are one step apart throughout. -/

/-- In the first block a magnitude is its own rank. -/
theorem magnitude_of_lt {rank : Nat} (h : rank < fractionCount) : magnitude rank = rank :=
  if_pos h

/-- The magnitudes of a block, up to the first one of the next block. -/
theorem magnitude_block (s : Nat) {m : Nat} (h : m ≤ fractionCount) :
    magnitude ((s + 1) * fractionCount + m) = (fractionCount + m) * twoTo s := by
  rw [magnitude, if_neg (by simp only [fractionCount]; omega)]
  rcases Nat.lt_or_eq_of_le h with hlt | rfl
  · have hmod : ((s + 1) * fractionCount + m) % fractionCount = m := by
      simp only [fractionCount] at hlt ⊢
      omega
    have hdiv : ((s + 1) * fractionCount + m) / fractionCount = s + 1 := by
      simp only [fractionCount] at hlt ⊢
      omega
    rw [hmod, hdiv, Nat.add_sub_cancel, Nat.add_comm]
  · have hmod : ((s + 1) * fractionCount + fractionCount) % fractionCount = 0 := by
      simp only [fractionCount]
      omega
    have hdiv : ((s + 1) * fractionCount + fractionCount) / fractionCount = s + 2 := by
      simp only [fractionCount]
      omega
    have hdouble : twoTo (s + 2 - 1) = twoTo s * 2 := twoTo_succ s
    rw [hmod, hdiv, Nat.zero_add, hdouble]
    ring

/-- A magnitude is a number of steps. -/
theorem magnitude_of_step {s m : Nat} (h : m ≤ 2 * fractionCount)
    (hlow : s = 0 ∨ fractionCount ≤ m) : magnitude (s * fractionCount + m) = m * twoTo s := by
  by_cases hm : fractionCount ≤ m
  · obtain ⟨r, rfl⟩ := Nat.exists_eq_add_of_le hm
    have hr : r ≤ fractionCount := by omega
    rw [← Nat.add_assoc, ← Nat.succ_mul, magnitude_block s hr]
  · obtain rfl := hlow.resolve_right hm
    rw [Nat.zero_mul, Nat.zero_add, magnitude_of_lt (Nat.lt_of_not_le hm)]
    exact (Nat.mul_one m).symm

/-- Every rank has its step. -/
theorem exists_step (rank : Nat) :
    ∃ s m, rank = s * fractionCount + m ∧ m < 2 * fractionCount ∧ (s = 0 ∨ fractionCount ≤ m) := by
  by_cases h : rank < fractionCount
  · exact ⟨0, rank, by omega, by omega, .inl rfl⟩
  · refine ⟨rank / fractionCount - 1, rank % fractionCount + fractionCount, ?_, ?_, ?_⟩
    all_goals
      simp only [fractionCount] at h ⊢
      omega

/-- Magnitudes grow with their ranks. -/
theorem magnitude_lt_succ (rank : Nat) : magnitude rank < magnitude (rank + 1) := by
  obtain ⟨s, m, rfl, hm, hlow⟩ := exists_step rank
  have hnext : s = 0 ∨ fractionCount ≤ m + 1 := hlow.imp_right Nat.le_succ_of_le
  rw [Nat.add_assoc, magnitude_of_step hm.le hlow, magnitude_of_step hm hnext]
  exact Nat.mul_lt_mul_of_pos_right (Nat.lt_succ_self m) (twoTo_pos s)

/-- **The order of ranks** is the order of magnitudes. -/
theorem magnitude_strictMono : StrictMono magnitude :=
  strictMono_nat_of_lt_succ magnitude_lt_succ

/-! ### Basins

A basin reaches half a step to either side; at the first magnitude of a block the step below is half
as long as the step above. Its ends belong to it if its rank is even, and so to one basin only. -/

namespace Basin

/-- Whether a number of half units **lies** in a basin. -/
def Holds (b : Basin) (x : ℚ) : Prop :=
  b.lowest ≤ x ∧ x ≤ b.highest ∧ (x = b.lowest ∨ x = b.highest → b.closed)

/-- Whether a quotient is in a basin is told without dividing. -/
theorem holds_div_iff (b : Basin) (n : Nat) {d : Nat} (h : 0 < d) :
    b.Holds (n / d) ↔ b.lowest * d ≤ n ∧ n ≤ b.highest * d ∧
      (n = b.lowest * d ∨ n = b.highest * d → b.closed) := by
  have hd : (0 : ℚ) < d := by exact_mod_cast h
  rw [Holds, le_div_iff₀ hd, div_le_iff₀ hd, div_eq_iff hd.ne', div_eq_iff hd.ne']
  exact_mod_cast Iff.rfl

/-- The test on ratios accepts those that lie in the basin. -/
theorem contains_iff (b : Basin) (n : Nat) {d : Nat} (h : 0 < d) :
    b.contains n d ↔ b.Holds (n / d) := by
  rw [holds_div_iff b n h, contains]
  cases b.closed <;> simp; omega

/-- A basin has its ends if its rank is even. -/
theorem closed_ofRank {rank : Nat} : (ofRank rank).closed ↔ rank % 2 = 0 := by
  simp [ofRank]

/-- A basin begins where the one before it ends. -/
theorem lowest_succ (rank : Nat) : (ofRank (rank + 1)).lowest = (ofRank rank).highest := rfl

/-- A basin begins below its own magnitude. -/
theorem lowest_lt {rank : Nat} (h : 0 < rank) : (ofRank rank).lowest < 2 * magnitude rank := by
  have hlt : magnitude (rank - 1) < magnitude rank := magnitude_strictMono (by omega)
  simp only [ofRank]
  omega

/-- A basin ends above its own magnitude. -/
theorem lt_highest (rank : Nat) : 2 * magnitude rank < (ofRank rank).highest := by
  have hlt := magnitude_lt_succ rank
  simp only [ofRank]
  omega

/-- The end of a basin lies half a step behind its middle. -/
theorem highest_of_step {s m : Nat} (h : m < 2 * fractionCount)
    (hlow : s = 0 ∨ fractionCount ≤ m) :
    (ofRank (s * fractionCount + m)).highest = (2 * m + 1) * twoTo s := by
  have hnext : s = 0 ∨ fractionCount ≤ m + 1 := hlow.imp_right Nat.le_succ_of_le
  have hm : m + 1 ≤ 2 * fractionCount := h
  rw [ofRank, Nat.add_assoc, magnitude_of_step h.le hlow, magnitude_of_step hm hnext]
  ring

variable {j k : Nat} {x y : ℚ}

/-- A basin ends where a later one begins, or before it. -/
theorem highest_le_lowest (h : j < k) : (ofRank j).highest ≤ (ofRank k).lowest := by
  have hbefore : magnitude j ≤ magnitude (k - 1) := magnitude_strictMono.monotone (by omega)
  have hbehind : magnitude (j + 1) ≤ magnitude k := magnitude_strictMono.monotone h
  exact Nat.add_le_add hbefore hbehind

/-- Two basins share no number. -/
theorem not_holds_of_lt (hlt : j < k) (hj : (ofRank j).Holds x) : ¬ (ofRank k).Holds x := by
  intro hk
  obtain ⟨-, hhigh, hjclosed⟩ := hj
  obtain ⟨hlow, -, hkclosed⟩ := hk
  have hends : ((ofRank j).highest : ℚ) ≤ (ofRank k).lowest := by
    exact_mod_cast highest_le_lowest hlt
  have hxj : x = (ofRank j).highest := le_antisymm hhigh (hends.trans hlow)
  have hxk : x = (ofRank k).lowest := le_antisymm (hhigh.trans hends) hlow
  have hend : (ofRank j).highest = (ofRank k).lowest := by exact_mod_cast hxj.symm.trans hxk
  have hjeven : j % 2 = 0 := closed_ofRank.mp (hjclosed (.inr hxj))
  have hkeven : k % 2 = 0 := closed_ofRank.mp (hkclosed (.inl hxk))
  -- the next rank is odd, so there is another magnitude between the two basins
  have hbetween : magnitude (j + 1) < magnitude k := magnitude_strictMono (by omega)
  have hbefore : magnitude j ≤ magnitude (k - 1) := magnitude_strictMono.monotone (by omega)
  exact absurd hend (Nat.ne_of_lt (Nat.add_lt_add_of_le_of_lt hbefore hbetween))

/-- The order of numbers is the order of their basins. -/
theorem le_of_holds (hj : (ofRank j).Holds x) (hk : (ofRank k).Holds y) (h : x ≤ y) : j ≤ k := by
  by_contra hlt
  rw [not_le] at hlt
  have hends : ((ofRank k).highest : ℚ) ≤ (ofRank j).lowest := by
    exact_mod_cast highest_le_lowest hlt
  have hxy : x = y := le_antisymm h (hk.2.1.trans (hends.trans hj.1))
  exact not_holds_of_lt hlt hk (hxy ▸ hj)

/-- No number is in two basins. -/
theorem holds_unique (hj : (ofRank j).Holds x) (hk : (ofRank k).Holds x) : j = k :=
  Nat.le_antisymm (le_of_holds hj hk le_rfl) (le_of_holds hk hj le_rfl)

/-- A magnitude lies in its own basin. -/
theorem holds_middle (rank : Nat) : (ofRank rank).Holds (2 * magnitude rank : Nat) := by
  have hhigh : 2 * magnitude rank < (ofRank rank).highest := lt_highest rank
  refine ⟨?low, by exact_mod_cast hhigh.le, fun hends => ?closed⟩
  case low =>
    have hle : magnitude (rank - 1) ≤ magnitude rank := magnitude_strictMono.monotone (by omega)
    have hlow : (ofRank rank).lowest ≤ 2 * magnitude rank := by
      simp only [ofRank]
      omega
    exact_mod_cast hlow
  case closed =>
    rw [closed_ofRank]
    rcases hends with heq | heq
    · have hlow : 2 * magnitude rank = (ofRank rank).lowest := by exact_mod_cast heq
      rcases Nat.eq_zero_or_pos rank with rfl | hpos
      · rfl
      · exact absurd hlow (Nat.ne_of_gt (lowest_lt hpos))
    · have heq : 2 * magnitude rank = (ofRank rank).highest := by exact_mod_cast heq
      exact absurd heq (Nat.ne_of_lt hhigh)

/-- A basin is not empty. -/
theorem lowest_le_highest (rank : Nat) : (ofRank rank).lowest ≤ (ofRank rank).highest := by
  exact_mod_cast (holds_middle rank).1.trans (holds_middle rank).2.1

end Basin

/-! ### The nearest rank -/

/-- What nearest means for whole numbers. -/
theorem nearestEven_spec (n : Nat) {d : Nat} (h : 0 < d) :
    2 * (nearestEven n d * d) ≤ 2 * n + d ∧ 2 * n ≤ 2 * (nearestEven n d * d) + d ∧
      (2 * (nearestEven n d * d) = 2 * n + d ∨ 2 * n = 2 * (nearestEven n d * d) + d →
        nearestEven n d % 2 = 0) := by
  have hsplit : n / d * d + n % d = n := Nat.div_add_mod' n d
  have hrest : n % d < d := Nat.mod_lt n h
  rw [nearestEven]
  generalize n / d = q at hsplit
  generalize n % d = r at hsplit hrest
  have hnext : (q + 1) * d = q * d + d := Nat.succ_mul q d
  split
  next hlow => exact ⟨by omega, by omega, by omega⟩
  next hlow =>
    split
    next hhigh => exact ⟨by omega, by omega, by omega⟩
    next hhigh =>
      rcases Nat.mod_two_eq_zero_or_one q with heven | hodd
      · rw [heven, Nat.add_zero]
        exact ⟨by omega, by omega, fun _ => heven⟩
      · rw [hodd, hnext]
        exact ⟨by omega, by omega, fun _ => by omega⟩

section

variable {n d s m : Nat}

/-- The step that a ratio is rounded on, and the bounds that the ratio is within. -/
theorem nearestRank_step (n : Nat) (h : 0 < d) :
    ∃ s, nearestRank n d = s * fractionCount + nearestEven n (d * twoTo s) ∧
      n < d * twoTo s * (2 * fractionCount) ∧ (s = 0 ∨ d * twoTo s * fractionCount ≤ n) := by
  refine ⟨Nat.log2 (n / d) - 52, rfl, ?_, ?_⟩
  · have hlog : n / d < 2 ^ (Nat.log2 (n / d) - 52) * 2 ^ 53 := by
      rw [← Nat.pow_add]
      exact Nat.lt_log2_self.trans_le (Nat.pow_le_pow_right (by decide) (by omega))
    calc n < 2 ^ (Nat.log2 (n / d) - 52) * 2 ^ 53 * d := (Nat.div_lt_iff_lt_mul h).mp hlog
      _ = d * twoTo (Nat.log2 (n / d) - 52) * (2 * fractionCount) := by
        rw [twoTo_eq, Nat.mul_comm, ← Nat.mul_assoc]
        rfl
  · rw [or_iff_not_imp_left]
    intro hs
    have hne : n / d ≠ 0 := by
      intro hzero
      rw [hzero] at hs
      exact hs (by decide)
    have hlog : 2 ^ (Nat.log2 (n / d) - 52) * 2 ^ 52 ≤ n / d := by
      rw [← Nat.pow_add]
      exact (Nat.pow_le_pow_right (by decide) (by omega)).trans (Nat.log2_self_le hne)
    calc d * twoTo (Nat.log2 (n / d) - 52) * fractionCount
        = 2 ^ (Nat.log2 (n / d) - 52) * 2 ^ 52 * d := by
          rw [twoTo_eq, Nat.mul_assoc, Nat.mul_comm]
          rfl
      _ ≤ n := (Nat.le_div_iff_mul_le h).mp hlog

/-- The number of steps stays within the bounds for steps. -/
theorem nearestEven_of_step {length : Nat} (h : 0 < length)
    (hhigh : n < length * (2 * fractionCount)) (hlow : s = 0 ∨ length * fractionCount ≤ n) :
    nearestEven n length ≤ 2 * fractionCount ∧ (s = 0 ∨ fractionCount ≤ nearestEven n length) := by
  obtain ⟨hle, hge, -⟩ := nearestEven_spec n h
  generalize nearestEven n length = m at hle hge
  constructor
  · by_contra hlt
    have hmul : length * (2 * fractionCount + 1) ≤ m * length := by
      rw [Nat.mul_comm m]
      exact Nat.mul_le_mul_left _ (by omega)
    rw [Nat.mul_succ] at hmul
    omega
  · refine hlow.imp_right fun hlow => ?_
    by_contra hlt
    have hmul : m * length + length ≤ length * fractionCount := by
      rw [← Nat.succ_mul, Nat.mul_comm length]
      exact Nat.mul_le_mul_right _ (by omega)
    omega

/-- A ratio that is nearest to a number of steps does not lie below the basin of that number, and at
its lower end only if the number is even. The first number of a block is no exception: the ratio
does not lie below it, although the steps before it are shorter. -/
theorem lowest_le_of_step (hd : 0 < d) (hm : m ≤ 2 * fractionCount)
    (hblock : s = 0 ∨ fractionCount ≤ m) (hlow : s = 0 ∨ d * twoTo s * fractionCount ≤ n)
    (hle : 2 * (m * (d * twoTo s)) ≤ 2 * n + d * twoTo s)
    (htie : 2 * (m * (d * twoTo s)) = 2 * n + d * twoTo s → m % 2 = 0) :
    (Basin.ofRank (s * fractionCount + m)).lowest * d ≤ 2 * n ∧
      (2 * n = (Basin.ofRank (s * fractionCount + m)).lowest * d → m % 2 = 0) := by
  by_cases hinner : s = 0 ∨ fractionCount < m
  · cases m with
    | zero =>
        obtain rfl : s = 0 := hinner.resolve_right (Nat.not_lt_zero _)
        have hzero : (Basin.ofRank (0 * fractionCount + 0)).lowest = 0 := rfl
        rw [hzero, Nat.zero_mul]
        exact ⟨Nat.zero_le _, fun _ => rfl⟩
    | succ m =>
        have hbefore : s = 0 ∨ fractionCount ≤ m := hinner.imp_right Nat.le_of_lt_succ
        have hend : (2 * m + 1) * twoTo s * d + d * twoTo s =
            2 * ((m + 1) * (d * twoTo s)) := by ring
        rw [← Nat.add_assoc, Basin.lowest_succ, Basin.highest_of_step hm hbefore]
        exact ⟨by omega, fun heq => htie (by omega)⟩
  · obtain ⟨hs, hfirst⟩ := not_or.mp hinner
    have hfirst : m = fractionCount := Nat.le_antisymm (not_lt.mp hfirst) (hblock.resolve_left hs)
    have hpos : 0 < s * fractionCount + m := by
      simp only [fractionCount] at hfirst
      omega
    have hend := Nat.mul_lt_mul_of_pos_right (Basin.lowest_lt hpos) hd
    have heq : 2 * (m * twoTo s) * d = 2 * (d * twoTo s * m) := by ring
    have hlow := hlow.resolve_left hs
    rw [magnitude_of_step hm hblock, heq] at hend
    rw [← hfirst] at hlow
    omega

/-- Nor does it lie above that basin, or at its upper end unless the number is even. -/
theorem le_highest_of_step (hd : 0 < d) (hm : m ≤ 2 * fractionCount)
    (hblock : s = 0 ∨ fractionCount ≤ m) (hhigh : n < d * twoTo s * (2 * fractionCount))
    (hge : 2 * n ≤ 2 * (m * (d * twoTo s)) + d * twoTo s)
    (htie : 2 * n = 2 * (m * (d * twoTo s)) + d * twoTo s → m % 2 = 0) :
    2 * n ≤ (Basin.ofRank (s * fractionCount + m)).highest * d ∧
      (2 * n = (Basin.ofRank (s * fractionCount + m)).highest * d → m % 2 = 0) := by
  rcases Nat.lt_or_eq_of_le hm with hlt | heq
  · have hend : (2 * m + 1) * twoTo s * d = 2 * (m * (d * twoTo s)) + d * twoTo s := by ring
    rw [Basin.highest_of_step hlt hblock, hend]
    exact ⟨hge, htie⟩
  · have hend := Nat.mul_lt_mul_of_pos_right (Basin.lt_highest (s * fractionCount + m)) hd
    have hdouble : 2 * (m * twoTo s) * d = 2 * (d * twoTo s * m) := by ring
    rw [magnitude_of_step hm hblock, hdouble] at hend
    rw [← heq] at hhigh
    omega

/-- A ratio lies in the basin of its nearest rank. -/
theorem holds_nearestRank (n : Nat) (h : 0 < d) :
    (Basin.ofRank (nearestRank n d)).Holds ((2 * n : Nat) / d) := by
  obtain ⟨s, hrank, hhigh, hlow⟩ := nearestRank_step n h
  have hlength : 0 < d * twoTo s := Nat.mul_pos h (twoTo_pos s)
  obtain ⟨hle, hge, htie⟩ := nearestEven_spec n hlength
  obtain ⟨hm, hblock⟩ := nearestEven_of_step hlength hhigh hlow
  rw [hrank, Basin.holds_div_iff _ _ h, Basin.closed_ofRank]
  generalize nearestEven n (d * twoTo s) = m at hle hge htie hm hblock
  obtain ⟨hlower, hlowerTie⟩ :=
    lowest_le_of_step h hm hblock hlow hle fun heq => htie (.inl heq)
  obtain ⟨hupper, hupperTie⟩ :=
    le_highest_of_step h hm hblock hhigh hge fun heq => htie (.inr heq)
  refine ⟨hlower, hupper, fun hends => ?_⟩
  have heven : m % 2 = 0 := hends.elim hlowerTie hupperTie
  simp only [fractionCount]
  omega

/-- **The nearest rank** is the one whose basin holds the number. -/
theorem nearestRank_eq_iff (h : 0 < d) {rank : Nat} :
    nearestRank n d = rank ↔ (Basin.ofRank rank).Holds ((2 * n : Nat) / d) := by
  refine ⟨?_, fun hrank => Basin.holds_unique (holds_nearestRank n h) hrank⟩
  rintro rfl
  exact holds_nearestRank n h

/-- **Rounding keeps the order.** -/
theorem nearestRank_le_nearestRank {n' d' : Nat} (h : 0 < d) (h' : 0 < d')
    (hle : n * d' ≤ n' * d) : nearestRank n d ≤ nearestRank n' d' := by
  refine Basin.le_of_holds (holds_nearestRank n h) (holds_nearestRank n' h') ?_
  rw [div_le_div_iff₀ (by exact_mod_cast h) (by exact_mod_cast h')]
  have hdouble : 2 * n * d' ≤ 2 * n' * d := by
    rw [Nat.mul_assoc, Nat.mul_assoc]
    exact Nat.mul_le_mul_left 2 hle
  exact_mod_cast hdouble

/-- A magnitude is rounded to itself. -/
theorem nearestRank_magnitude (rank : Nat) (h : 0 < d) :
    nearestRank (magnitude rank * d) d = rank := by
  have hd : (d : ℚ) ≠ 0 := by exact_mod_cast h.ne'
  have hvalue : ((2 * (magnitude rank * d) : Nat) / d : ℚ) = (2 * magnitude rank : Nat) := by
    rw [← Nat.mul_assoc, Nat.cast_mul, mul_div_cancel_right₀ _ hd]
  rw [nearestRank_eq_iff h, hvalue]
  exact Basin.holds_middle rank

/-- **Rounding never passes a magnitude** from below. -/
theorem nearestRank_le_of_le {rank : Nat} (h : 0 < d) (hle : n ≤ magnitude rank * d) :
    nearestRank n d ≤ rank := by
  rw [← nearestRank_magnitude rank h]
  exact nearestRank_le_nearestRank h h (Nat.mul_le_mul_right d hle)

/-- Nor does it from above. -/
theorem le_nearestRank_of_le {rank : Nat} (h : 0 < d) (hle : magnitude rank * d ≤ n) :
    rank ≤ nearestRank n d := by
  rw [← nearestRank_magnitude rank h]
  exact nearestRank_le_nearestRank h h (Nat.mul_le_mul_right d hle)

/-- **What is rounded to an even rank or beyond** are the numbers from the lower end of its basin
on. -/
theorem le_nearestRank_iff {rank : Nat} (h : 0 < d) (heven : rank % 2 = 0) :
    rank ≤ nearestRank n d ↔ (Basin.ofRank rank).lowest * d ≤ 2 * n := by
  obtain ⟨hlow, hhigh, -⟩ := (Basin.holds_div_iff _ _ h).mp (holds_nearestRank n h)
  constructor
  · intro hle
    refine le_trans (Nat.mul_le_mul_right d ?_) hlow
    rcases Nat.lt_or_eq_of_le hle with hlt | rfl
    · exact (Basin.lowest_le_highest rank).trans (Basin.highest_le_lowest hlt)
    · exact le_rfl
  · intro hle
    by_contra hlt
    rw [not_le] at hlt
    have hends := Nat.mul_le_mul_right d (Basin.highest_le_lowest hlt)
    -- then the number is the lower end itself, which belongs to the even rank
    have heq : 2 * n = (Basin.ofRank rank).lowest * d := by omega
    have hholds : (Basin.ofRank rank).Holds ((2 * n : Nat) / d) := by
      rw [Basin.holds_div_iff _ _ h]
      refine ⟨hle, ?_, fun _ => Basin.closed_ofRank.mpr heven⟩
      rw [heq]
      exact Nat.mul_le_mul_right d (Basin.lowest_le_highest rank)
    exact absurd ((nearestRank_eq_iff h).mpr hholds) (Nat.ne_of_lt hlt)

end

end GeoBench.Number
