import GeoBench.Proofs.Number.Reading
import GeoBench.Proofs.Table.Counters

/-!
# Data rows and their samples

A line is a data row if the row pattern matches it. The pattern knows the decimal digits of every
script, but a cell is read by the ten ASCII digits alone, so a line can be a data row and have no
sample. A data row has a sample exactly if the digits of its value cell are ASCII digits, whatever
their number and with or without a point.

## Rows without samples

A cell is lost when it has a digit that is not one of the ten, whatever else is in it. No other cell
is: one without a point is a whole number of any length, one with a point is read as the number
nearest to it, and both always have a reading. So the samples are as many as the rows whose cells
are plain, and they are equal in number to the rows exactly if all cells are.

## Main results

* `isMatch_rowPattern` — the row pattern matches the lines that have a value cell.
* `readCell_isSome_iff` — the numerals that can be read.
* `length_samples` — how many data rows have a sample, and which ones do not.
-/

namespace GeoBench.Table

open GeoBench.Text GeoBench.Number

/-! ### Data rows -/

/-- Whether a pattern **matches** a line, from any position in it. -/
def Pattern.isMatch (p : Pattern) (line : List Char) : Bool :=
  !((positions line).flatMap p.outcomes).isEmpty

/-- The **data rows** of a table, in their order. -/
def dataRows (text : String) : List (List Char) :=
  (charLines text.toList).filter rowPattern.isMatch

/-- The row pattern captures something from every line that it matches. -/
theorem isMatch_rowPattern_iff_capture? (line : List Char) :
    rowPattern.isMatch line = (rowPattern.capture? line).isSome := by
  have hall : ∀ t ∈ (Pattern.positions line).flatMap rowPattern.outcomes, t.captured? ≠ none := by
    intro t ht
    obtain ⟨s, -, ht⟩ := List.mem_flatMap.mp ht
    obtain ⟨u, -, ht⟩ := Pattern.mem_outcomes_append.mp ht
    exact captured?_ne_none ht
  rw [Pattern.isMatch, Pattern.capture?]
  cases hmatches : (Pattern.positions line).flatMap rowPattern.outcomes with
  | nil => rfl
  | cons t others =>
      have hcaptured := hall t (hmatches ▸ List.mem_cons_self)
      exact (Option.isSome_iff_ne_none.mpr hcaptured).symm

/-- **The row pattern matches** the lines that have a value cell. -/
theorem isMatch_rowPattern {line : List Char} (hline : '\n' ∉ line) :
    rowPattern.isMatch line = (valueCell? line).isSome := by
  rw [isMatch_rowPattern_iff_capture?, rowPattern_capture? hline]

/-- A value cell is a numeral. -/
theorem numeral_of_valueCell? {line cell : List Char} (h : valueCell? line = some cell) :
    Numeral cell := by
  obtain ⟨full, rfl, hnumeric, -⟩ := valueCell?_eq_some_iff.mp h
  exact isNumeral_iff.mp hnumeric

/-! ### Plain numerals -/

/-- A cell is **plain** if there is nothing in it but ASCII digits and points. -/
def isPlain (cell : List Char) : Bool :=
  cell.all fun c => c.isDigit || c == '.'

/-- A plain cell is made of digits and points. -/
theorem isPlain_iff {cell : List Char} : isPlain cell ↔ ∀ c ∈ cell, c.isDigit ∨ c = '.' := by
  simp only [isPlain, List.all_eq_true, Bool.or_eq_true, beq_iff_eq]

/-- A whole number is read from digits only. -/
theorem isDigit_of_wordFrom {value n : Nat} {cs : List Char} (h : wordFrom value cs = .ok n) :
    ∀ c ∈ cs, c.isDigit := by
  induction cs generalizing value with
  | nil => exact nofun
  | cons c cs ih =>
      rw [wordFrom] at h
      split at h
      next => cases h
      next d hd =>
        split at h
        next =>
          refine List.forall_mem_cons.mpr ⟨?_, ih h⟩
          exact digitValue?_isSome_iff.mp (Option.isSome_of_eq_some hd)
        next => cases h

namespace Numeral

variable {num : List Char}

/-- A numeral is made of decimal digits of any script, and points. -/
theorem isDecimalDigit_or_point (h : Numeral num) : ∀ c ∈ num, isDecimalDigit c ∨ c = '.' := by
  obtain ⟨whole, point, fraction, rfl, -, hwhole, hpoint, hfraction⟩ := h
  intro c hc
  rcases List.mem_append.mp hc with hc | hc
  · exact .inl (hwhole c hc)
  · rcases List.mem_append.mp hc with hc | hc
    · rcases hpoint with rfl | rfl
      · cases hc
      · exact .inr (List.mem_singleton.mp hc)
    · exact .inl (hfraction c hc)

/-- A numeral has no sign, so it is read as one without. -/
theorem readSignedNumeral_isSome (h : Numeral num) :
    (readSignedNumeral num).isSome = (readNumeral num).isSome := by
  have hsign : ∀ c ∈ num, c ≠ '-' ∧ c ≠ '+' := by
    intro c hc
    constructor <;> rintro rfl <;> exact absurd (h.isDecimalDigit_or_point _ hc) (by decide)
  rw [readSignedNumeral.eq_def]
  split
  next => exact absurd rfl (hsign '-' List.mem_cons_self).1
  next => exact absurd rfl (hsign '+' List.mem_cons_self).2
  next => exact Option.isSome_map

/-- A numeral can be read as a float exactly if it is plain. -/
theorem readNumeral_isSome_iff (h : Numeral num) : (readNumeral num).isSome ↔ isPlain num := by
  rw [isPlain_iff]
  constructor
  · intro hsome
    refine isDigit_or_point_of_readNumeral hsome fun c hc => ?_
    constructor <;> rintro rfl <;> exact absurd (h.isDecimalDigit_or_point _ hc) (by decide)
  · intro hplain
    obtain ⟨whole, point, fraction, rfl, hne, hwhole, hpoint, hfraction⟩ := h
    have hdigit : ∀ c ∈ whole ++ (point ++ fraction), isDecimalDigit c → c.isDigit := by
      intro c hc hdecimal
      refine (hplain c hc).resolve_right ?_
      rintro rfl
      exact absurd hdecimal (by decide)
    refine readNumeral_isSome hne (fun c hc => ?_) hpoint fun c hc => ?_
    · exact hdigit c (List.mem_append_left _ hc) (hwhole c hc)
    · exact hdigit c (List.mem_append_right _ (List.mem_append_right _ hc)) (hfraction c hc)

/-- **The numerals that can be read** are the plain ones: one that is no whole number of 64 bits is
read as a float. -/
theorem readCell_isSome_iff (h : Numeral num) :
    (readCell num).sample?.isSome ↔ isPlain num := by
  have hfloat : ((readSignedNumeral num).map Sample.float).isSome ↔ isPlain num := by
    rw [Option.isSome_map, h.readSignedNumeral_isSome, h.readNumeral_isSome_iff]
  rw [readCell]
  split
  next => exact hfloat
  next =>
    split
    next n hn =>
      exact ⟨fun _ => isPlain_iff.mpr fun c hc => .inl (isDigit_of_wordFrom hn c hc), fun _ => rfl⟩
    next => exact hfloat

end Numeral

/-! ### Rows without a sample -/

/-- A line has a sample exactly if its value cell is plain. -/
theorem rowSample?_isSome (line : List Char) :
    (rowSample? line).isSome = (valueCell? line).any isPlain := by
  rw [rowSample?]
  cases hcell : valueCell? line with
  | none => rfl
  | some cell =>
      exact Bool.eq_iff_iff.mpr (numeral_of_valueCell? hcell).readCell_isSome_iff

/-- **The data rows that have a sample.** From every data row a cell is captured, and it has a
reading exactly if it is plain, whatever its length and with or without a point. So there are as
many samples as data rows with plain cells, and as many as data rows exactly if all of their cells
are plain. -/
theorem length_samples (text : String) :
    (∀ line ∈ dataRows text, ∃ cell, rowPattern.capture? line = some cell ∧
      ((readCell cell).sample?.isSome ↔ isPlain cell)) ∧
    (samples text).length =
      (dataRows text).countP (fun line => (rowPattern.capture? line).any isPlain) ∧
    ((samples text).length = (dataRows text).length ↔
      ∀ line ∈ dataRows text, ∀ cell ∈ rowPattern.capture? line, isPlain cell) := by
  have hcapture : ∀ line ∈ charLines text.toList, rowPattern.capture? line = valueCell? line :=
    fun line hline => rowPattern_capture? (newline_notMem_of_mem_charLines hline)
  have hlength : (samples text).length =
      (dataRows text).countP (fun line => (rowPattern.capture? line).any isPlain) := by
    rw [samples_eq_filterMap_charLines, List.length_filterMap_eq_countP, dataRows,
      List.countP_filter]
    refine List.countP_congr fun line hline => ?_
    rw [rowSample?_isSome, hcapture line hline,
      isMatch_rowPattern (newline_notMem_of_mem_charLines hline)]
    cases valueCell? line <;> simp
  refine ⟨fun line hline => ?_, hlength, ?_⟩
  · obtain ⟨hmem, hmatch⟩ := List.mem_filter.mp hline
    rw [isMatch_rowPattern_iff_capture?] at hmatch
    obtain ⟨cell, hcell⟩ := Option.isSome_iff_exists.mp hmatch
    have hvalue := hcell
    rw [hcapture line hmem] at hvalue
    exact ⟨cell, hcell, (numeral_of_valueCell? hvalue).readCell_isSome_iff⟩
  · rw [hlength, List.countP_eq_length]
    refine forall₂_congr fun line hline => ?_
    obtain ⟨-, hmatch⟩ := List.mem_filter.mp hline
    rw [isMatch_rowPattern_iff_capture?] at hmatch
    obtain ⟨cell, hcell⟩ := Option.isSome_iff_exists.mp hmatch
    simp [hcell]

/-- A data row whose digit is no ASCII digit is lost. -/
theorem foreign_digit_lost :
    let text := "│ a │ b │ c │ ٣ │"
    (dataRows text).length = 1 ∧ (samples text).length = 0 := by
  decide +kernel

end GeoBench.Table
