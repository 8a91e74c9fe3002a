import GeoBench.Table.Row
import Mathlib.Tactic.Common

/-!
# Numeric cells

A cell of a metric table is tested by trimming it and then reading it digit by digit. Here the same
cells are described by their shape, a numeral between blanks, and what trimming leaves of such a
cell is shown to be its numeral.

## Blanks and digits

Trimming a cell takes its blanks off, and stops at the first character that is none. That it does
not stop too late needs that no digit is a blank, for the digits of every script: two tables of
ranges that do not meet.

## Main results

* `not_isBlank_of_isDecimalDigit` — no decimal digit of any script is a blank.
* `isNumeric_iff` — the test on cells accepts exactly the numeric ones.
* `Holds.trimChars_eq` — trimming a numeric cell leaves its numeral.
-/

namespace GeoBench.Table

open GeoBench.Text

/-- A **numeral**: digits, at most one point, digits; at least one digit comes first. -/
def Numeral (num : List Char) : Prop :=
  ∃ whole point fraction, num = whole ++ (point ++ fraction) ∧ whole ≠ [] ∧
    (∀ c ∈ whole, isDecimalDigit c) ∧ (point = [] ∨ point = ['.']) ∧
    ∀ c ∈ fraction, isDecimalDigit c

/-- A cell **holds** a numeral if there are only blanks around it. -/
def Holds (cell num : List Char) : Prop :=
  ∃ before after, cell = before ++ (num ++ after) ∧ (∀ c ∈ before, isBlank c) ∧ Numeral num ∧
    ∀ c ∈ after, isBlank c

/-- A **numeric cell**: a numeral between blanks. -/
def NumericCell (cell : List Char) : Prop :=
  ∃ num, Holds cell num

/-! ### Digits and blanks -/

/-- The stretches of blanks, first and last code point of each. -/
def blankRanges : List (Nat × Nat) :=
  [(0x9, 0xD), (0x20, 0x20), (0x85, 0x85), (0xA0, 0xA0), (0x1680, 0x1680), (0x2000, 0x200A),
   (0x2028, 0x2028), (0x2029, 0x2029), (0x202F, 0x202F), (0x205F, 0x205F), (0x3000, 0x3000)]

/-- Blanks are told by ranges of code points. -/
theorem isBlank_iff_mem_blankRanges {c : Char} :
    isBlank c ↔ ∃ r ∈ blankRanges, r.1 ≤ c.toNat ∧ c.toNat ≤ r.2 := by
  simp only [isBlank, blankRanges, List.mem_cons, List.not_mem_nil, or_false, exists_eq_or_imp,
    exists_eq_left, Bool.or_eq_true, Bool.and_eq_true, decide_eq_true_eq, beq_iff_eq]
  omega

/-- No stretch of digits meets a stretch of blanks. -/
theorem decimalDigitRanges_disjoint :
    ∀ d ∈ decimalDigitRanges, ∀ b ∈ blankRanges, d.2 < b.1 ∨ b.2 < d.1 := by
  decide

/-- No decimal digit of any script is a blank. -/
theorem not_isBlank_of_isDecimalDigit {c : Char} (h : isDecimalDigit c) : ¬ isBlank c := by
  intro hblank
  obtain ⟨⟨first, last⟩, hd, hrange⟩ := List.any_eq_true.mp h
  obtain ⟨b, hb, hle, hge⟩ := isBlank_iff_mem_blankRanges.mp hblank
  simp only [Bool.and_eq_true, decide_eq_true_eq] at hrange
  rcases decimalDigitRanges_disjoint _ hd b hb with hlt | hlt
  · exact absurd hlt (by simp only; omega)
  · exact absurd hlt (by simp only; omega)

/-! ### Numerals -/

/-- The test on numerals accepts exactly the numerals. -/
theorem isNumeral_iff {num : List Char} : isNumeral num ↔ Numeral num := by
  have hpoint : isDecimalDigit '.' = false := by decide
  constructor
  · intro h
    cases num with
    | nil => cases h
    | cons c rest =>
        simp only [isNumeral, Bool.and_eq_true] at h
        obtain ⟨hc, hrest⟩ := h
        have hwhole : ∀ d ∈ c :: rest.takeWhile isDecimalDigit, isDecimalDigit d := by
          intro d hd
          rcases List.mem_cons.mp hd with rfl | hd
          · exact hc
          · exact List.all_eq_true.mp List.all_takeWhile d hd
        have hsplit : c :: rest =
            (c :: rest.takeWhile isDecimalDigit) ++ rest.dropWhile isDecimalDigit := by
          rw [List.cons_append, List.takeWhile_append_dropWhile]
        cases hdrop : rest.dropWhile isDecimalDigit with
        | nil =>
            refine ⟨c :: rest.takeWhile isDecimalDigit, [], [], ?_, List.cons_ne_nil _ _, hwhole,
              .inl rfl, by simp⟩
            rw [hsplit, hdrop, List.nil_append]
        | cons d more =>
            rw [hdrop] at hrest
            simp only [Bool.and_eq_true, beq_iff_eq, List.all_eq_true] at hrest
            obtain ⟨rfl, hmore⟩ := hrest
            refine ⟨c :: rest.takeWhile isDecimalDigit, ['.'], more, ?_, List.cons_ne_nil _ _,
              hwhole, .inr rfl, hmore⟩
            rw [hsplit, hdrop, List.singleton_append]
  · rintro ⟨whole, point, fraction, rfl, hne, hwhole, hpt, hfraction⟩
    obtain ⟨c, w, rfl⟩ := List.exists_cons_of_ne_nil hne
    have hc : isDecimalDigit c := hwhole c List.mem_cons_self
    have hw : ∀ d ∈ w, isDecimalDigit d := fun d hd => hwhole d (List.mem_cons_of_mem c hd)
    rw [List.cons_append, isNumeral, hc, Bool.true_and, List.dropWhile_append_of_pos hw]
    rcases hpt with rfl | rfl
    · rw [List.nil_append, dropWhile_nil_iff.mpr hfraction]
    · rw [List.singleton_append, List.dropWhile_cons, hpoint]
      simpa using hfraction

/-- No character of a numeral is a blank. -/
theorem Numeral.not_isBlank {num : List Char} (h : Numeral num) : ∀ c ∈ num, ¬ isBlank c := by
  obtain ⟨whole, point, fraction, rfl, -, hwhole, hpt, hfraction⟩ := h
  intro c hc
  rcases List.mem_append.mp hc with hc | hc
  · exact not_isBlank_of_isDecimalDigit (hwhole c hc)
  · rcases List.mem_append.mp hc with hc | hc
    · rcases hpt with rfl | rfl
      · cases hc
      · rw [List.mem_singleton.mp hc]
        decide
    · exact not_isBlank_of_isDecimalDigit (hfraction c hc)

/-- A numeral is not empty. -/
theorem Numeral.ne_nil {num : List Char} (h : Numeral num) : num ≠ [] := by
  obtain ⟨whole, point, fraction, rfl, hne, -⟩ := h
  exact List.append_ne_nil_of_left_ne_nil hne _

/-! ### Trimming -/

/-- Trimming takes off blanks at both ends and nothing else. -/
theorem exists_blanks_trimChars (cs : List Char) :
    ∃ before after, cs = before ++ (trimChars cs ++ after) ∧ (∀ c ∈ before, isBlank c) ∧
      ∀ c ∈ after, isBlank c := by
  refine ⟨cs.takeWhile isBlank, ((cs.dropWhile isBlank).reverse.takeWhile isBlank).reverse,
    ?_, ?_, ?_⟩
  · rw [trimChars, ← List.reverse_append, List.takeWhile_append_dropWhile, List.reverse_reverse,
      List.takeWhile_append_dropWhile]
  · exact fun c hc => List.all_eq_true.mp List.all_takeWhile c hc
  · exact fun c hc => List.all_eq_true.mp List.all_takeWhile c (List.mem_reverse.mp hc)

/-- What is dropped from the front of a list stops at the first member that does not pass. -/
theorem dropWhile_append_of_not {α : Type} {p : α → Bool} {x y : List α} (hne : x ≠ [])
    (h : ∀ a ∈ x, ¬ p a) : (x ++ y).dropWhile p = x ++ y := by
  obtain ⟨a, x, rfl⟩ := List.exists_cons_of_ne_nil hne
  rw [List.cons_append, List.dropWhile_cons, if_neg (h a List.mem_cons_self)]

/-- Trimming a numeric cell leaves its numeral. -/
theorem Holds.trimChars_eq {cell num : List Char} (h : Holds cell num) : trimChars cell = num := by
  obtain ⟨before, after, rfl, hbefore, hnum, hafter⟩ := h
  have hrev : num.reverse ≠ [] := fun h => hnum.ne_nil (List.reverse_eq_nil_iff.mp h)
  rw [trimChars, List.dropWhile_append_of_pos hbefore,
    dropWhile_append_of_not hnum.ne_nil hnum.not_isBlank, List.reverse_append,
    List.dropWhile_append_of_pos (fun c hc => hafter c (List.mem_reverse.mp hc)),
    ← List.append_nil num.reverse,
    dropWhile_append_of_not hrev (fun c hc => hnum.not_isBlank c (List.mem_reverse.mp hc)),
    List.append_nil, List.reverse_reverse]

/-- The test on cells accepts exactly the numeric ones. -/
theorem isNumeric_iff {cell : List Char} : isNumeric cell ↔ NumericCell cell := by
  rw [isNumeric, isNumeral_iff]
  constructor
  · intro h
    obtain ⟨before, after, hcell, hbefore, hafter⟩ := exists_blanks_trimChars cell
    exact ⟨trimChars cell, before, after, hcell, hbefore, h, hafter⟩
  · rintro ⟨num, h⟩
    obtain ⟨-, -, -, -, hnum, -⟩ := id h
    rw [h.trimChars_eq]
    exact hnum

instance : DecidablePred NumericCell := fun _ => decidable_of_iff _ isNumeric_iff

end GeoBench.Table
