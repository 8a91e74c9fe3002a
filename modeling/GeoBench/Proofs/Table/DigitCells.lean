import GeoBench.Proofs.Number.Reading
import GeoBench.Proofs.Number.Rounding
import GeoBench.Proofs.Text.Pieces
import GeoBench.Table.Sample

/-!
# Cells of digits

A cell of ASCII digits is a whole number of any length. As long as the number is a word it is read
exactly, whatever zeros stand in front of it; a larger one is read as the binary64 number nearest to
it. Rounding never passes a magnitude, and the first number that is no word is one, so what is read
of a larger number lies beyond the words as well and counts for the largest of them.

## Beyond the words

The first number beyond the words is a power of two, so it is a magnitude and rounding leaves it
where it is. A number that is greater can be rounded down to it, but not below it. So what is read
as a float counts for the largest word when it is turned into a count, and the counter cannot tell
one such cell from another.

## Main results

* `wordFrom_of_digits` — the whole numbers that are words.
* `toWord_ofNat` — a number beyond the words stays beyond them when it is rounded.
* `readCell_of_digits` — the reading of a cell of digits.
* `digit_cell` — such a cell is read exactly or saturates.
-/

namespace GeoBench.Table

open GeoBench.Number
open scoped GeoBench.Text.Characters

/-! ### Words -/

/-- Digits behind a number make it no smaller. -/
theorem le_ofDigitChars (cs : List Char) (value : Nat) : value ≤ Nat.ofDigitChars 10 cs value := by
  induction cs generalizing value with
  | nil => exact le_rfl
  | cons c cs ih =>
      rw [Nat.ofDigitChars_cons]
      exact le_trans (by omega) (ih _)

/-- **A run of digits is a word** if its number is, wherever the reading passes the largest word.
The induction is on the digits that are left. -/
theorem wordFrom_of_digits {cs : List Char} (h : ∀ c ∈ cs, c.isDigit) {value : Nat}
    (hvalue : value ≤ Binary64.maxWord) :
    wordFrom value cs =
      if Nat.ofDigitChars 10 cs value ≤ Binary64.maxWord then .ok (Nat.ofDigitChars 10 cs value)
      else .error .tooLarge := by
  induction cs generalizing value with
  | nil => rw [wordFrom, Nat.ofDigitChars_nil, if_pos hvalue]
  | cons c cs ih =>
      obtain ⟨hc, hcs⟩ := List.forall_mem_cons.mp h
      have hnext : value * 10 + (c.toNat - 0x30) = 10 * value + (c.toNat - '0'.toNat) := by
        rw [Nat.mul_comm]
        rfl
      rw [wordFrom, digitValue?_of_isDigit hc, Nat.ofDigitChars_cons]
      dsimp only
      rw [hnext]
      split
      next hle => exact ih hcs hle
      next hgt =>
        have hle := le_ofDigitChars cs (10 * value + (c.toNat - '0'.toNat))
        rw [if_neg (by omega)]

/-! ### Numbers beyond the words -/

/-- A number of units beyond a bound counts for the bound. -/
theorem min_div_eq_right {units perOne bound : Nat} (hone : 0 < perOne)
    (h : (bound + 1) * perOne ≤ units) : min (units / perOne) bound = bound := by
  have hbeyond : bound + 1 ≤ units / perOne := (Nat.le_div_iff_mul_le hone).mpr h
  exact Nat.min_eq_right (by omega)

/-- The first number that is no word is a magnitude. -/
theorem magnitude_firstBeyond :
    magnitude (1087 * fractionCount) = (Binary64.maxWord + 1) * unitsPerOne := by
  have hblock := magnitude_block 1086 (Nat.zero_le fractionCount)
  have hwords : (fractionCount + 0) * twoTo 1086 = (Binary64.maxWord + 1) * unitsPerOne := by
    decide +kernel
  exact hblock.trans hwords

/-- **A number beyond the words** stays beyond them when it is rounded. -/
theorem toWord_ofNat {n : Nat} (h : Binary64.maxWord < n) :
    (Binary64.ofNat n).toWord = Binary64.maxWord := by
  have hrank : 1087 * fractionCount ≤ nearestRank (n * unitsPerOne) 1 := by
    refine le_nearestRank_of_le Nat.one_pos ?_
    rw [Nat.mul_one, magnitude_firstBeyond]
    exact Nat.mul_le_mul_right _ h
  rw [Binary64.ofNat, Binary64.ofUnits, Binary64.ofRank]
  split
  next hfinite =>
    have hmagnitude := magnitude_strictMono.monotone hrank
    rw [magnitude_firstBeyond] at hmagnitude
    rw [Binary64.toWord, if_neg Bool.false_ne_true]
    exact min_div_eq_right (twoTo_pos 1074) hmagnitude
  next => rfl

/-- A whole number that is written in digits is rounded like the number itself. -/
theorem ofDecimal_whole {n : Nat} (h : 0 < n) :
    Binary64.ofDecimal false n 0 = Binary64.ofNat n := by
  unfold Binary64.ofDecimal
  rw [if_neg (Nat.ne_of_gt h), if_neg (by decide), if_neg (by omega)]
  change Binary64.ofUnits false (n * tenTo 0 * unitsPerOne) 1 = Binary64.ofNat n
  rw [tenTo_zero, Nat.mul_one, Binary64.ofNat]

/-! ### Cells -/

section

variable {cell : List Char}

/-- Digits are read as a float like the whole number that they make. -/
theorem readSignedNumeral_of_digits (hne : cell ≠ []) (hdigits : ∀ c ∈ cell, c.isDigit)
    (hpos : 0 < Nat.ofDigitChars 10 cell 0) :
    readSignedNumeral cell = some (Binary64.ofNat (Nat.ofDigitChars 10 cell 0)) := by
  have hread := readNumeral_of_whole hne hdigits (show readExponent [] = some 0 from rfl)
  rw [List.append_nil] at hread
  rw [readSignedNumeral.eq_def]
  split
  next rest => exact absurd rfl (ne_sign_of_digits hdigits rfl rest)
  next rest => exact absurd rfl (ne_sign_of_digits hdigits rfl rest)
  next =>
    rw [hread, Option.map_some, ofDecimal_whole hpos]

/-- **The reading of a cell of digits.** -/
theorem readCell_of_digits (hne : cell ≠ []) (hdigits : ∀ c ∈ cell, c.isDigit) :
    readCell cell =
      if Nat.ofDigitChars 10 cell 0 ≤ Binary64.maxWord then
        ⟨some (.integer (Nat.ofDigitChars 10 cell 0)), none⟩
      else ⟨some (.float (.ofNat (Nat.ofDigitChars 10 cell 0))), some .tooLarge⟩ := by
  have hpoint : cell.contains '.' = false := by
    rw [← Bool.not_eq_true, List.contains_iff_mem]
    exact fun hmem => absurd (hdigits '.' hmem) (by decide)
  rw [readCell, hpoint, if_neg Bool.false_ne_true, wordFrom_of_digits hdigits (Nat.zero_le _)]
  split_ifs with hle
  · rfl
  · rw [readSignedNumeral_of_digits hne hdigits (by omega)]
    rfl

/-- **Cells of digits are exact or saturate.** A cell of ASCII digits, as many as there are and
whatever zeros stand in front, always has a sample. It is the whole number that the digits make
exactly if this number is below `2 ^ 64`, and otherwise the binary64 number nearest to it; and it
counts for that number or the largest word, whichever is smaller. -/
theorem digit_cell (hne : cell ≠ []) (hdigits : ∀ c ∈ cell, c.isDigit) :
    ∃ s, (readCell cell).sample? = some s ∧
      (s = .integer (Nat.ofDigitChars 10 cell 0) ↔ Nat.ofDigitChars 10 cell 0 ≤ 2 ^ 64 - 1) ∧
      (s = .float (.ofNat (Nat.ofDigitChars 10 cell 0)) ↔
        2 ^ 64 - 1 < Nat.ofDigitChars 10 cell 0) ∧
      s.toCount = min (Nat.ofDigitChars 10 cell 0) (2 ^ 64 - 1) := by
  have hword : Binary64.maxWord = 2 ^ 64 - 1 := rfl
  rw [readCell_of_digits hne hdigits, ← hword]
  split_ifs with hle
  · exact ⟨_, rfl, by simp [hle], by simp [hle], (Nat.min_eq_left hle).symm⟩
  · have hlt := Nat.lt_of_not_le hle
    refine ⟨_, rfl, by simp [hle], by simp [hlt], ?_⟩
    rw [Sample.toCount, toWord_ofNat hlt, Nat.min_eq_right hlt.le]

/-- The first number beyond the words, with zeros in front. -/
theorem digit_cell_padded :
    let cell := "00018446744073709551616".toList
    cell ≠ [] ∧ (∀ c ∈ cell, c.isDigit) ∧
      ∃ s, (readCell cell).sample? = some s ∧ s = .float (.ofNat (2 ^ 64)) ∧
        s.toCount = 2 ^ 64 - 1 := by
  intro cell
  have hne : cell ≠ [] := by decide
  have hdigits : ∀ c ∈ cell, c.isDigit := by decide
  have hvalue : Nat.ofDigitChars 10 cell 0 = 2 ^ 64 := by decide
  obtain ⟨s, hs, -, hfloat, hcount⟩ := digit_cell hne hdigits
  rw [hvalue] at hfloat hcount
  exact ⟨hne, hdigits, s, hs, hfloat.mpr (by decide), hcount⟩

end

end GeoBench.Table
