import GeoBench.Text.Blank
import GeoBench.Text.Digit
import GeoBench.Text.Lines

/-!
# Rows of a metric table

A metric table is drawn with vertical bars, one data row per process. A line is cut into **cells**
at its bars. A cell is **closed** when a bar follows it and at least four bars come before it, and
it is **numeric** when, apart from blanks around it, it holds decimal digits with at most one point
behind the first of them. The value cell of a line is its last closed numeric cell; a header, a
border or any other line has none.

## Main results

* `valueCell?_eq_some_iff` — the value cell is numeric, and every closed cell behind it is not.
-/

namespace GeoBench.Table

open GeoBench.Text

/-- The bar between two columns. -/
abbrev bar : Char := '│'

/-- The **cells** of a line. -/
def cells (line : List Char) : List (List Char) :=
  splitAtSep bar line

/-- The cells of a line that a bar closes and that at least four bars precede. -/
def closedCells (line : List Char) : List (List Char) :=
  ((cells line).drop 4).dropLast

/-- Digits, then at most one point, then digits; at least one digit comes first. -/
def isNumeral (cs : List Char) : Bool :=
  match cs with
  | [] => false
  | c :: rest =>
    isDecimalDigit c &&
      match rest.dropWhile isDecimalDigit with
      | [] => true
      | d :: more => d == '.' && more.all isDecimalDigit

/-- Whether a cell is **numeric**: a numeral between blanks. -/
def isNumeric (cell : List Char) : Bool :=
  isNumeral (trimChars cell)

/-- The last member of a list that passes a test. -/
def findLast? {α : Type} (p : α → Bool) (l : List α) : Option α :=
  l.reverse.find? p

/-- The **value cell** of a line, without the blanks around it. -/
def valueCell? (line : List Char) : Option (List Char) :=
  (findLast? isNumeric (closedCells line)).map trimChars

/-- The last member that passes is followed by members that do not. -/
theorem findLast?_eq_some_iff {α : Type} {p : α → Bool} {l : List α} {a : α} :
    findLast? p l = some a ↔
      p a ∧ ∃ before after, l = before ++ a :: after ∧ ∀ b ∈ after, ¬ p b := by
  rw [findLast?, List.find?_eq_some_iff_append]
  constructor
  · rintro ⟨ha, as, bs, h, hbs⟩
    refine ⟨ha, bs.reverse, as.reverse, ?_, ?_⟩
    · rw [← List.reverse_reverse l, h]
      simp
    · intro b hb
      have := hbs b (List.mem_reverse.1 hb)
      simpa using this
  · rintro ⟨ha, before, after, rfl, h⟩
    refine ⟨ha, after.reverse, before.reverse, by simp, ?_⟩
    intro b hb
    have := h b (List.mem_reverse.1 hb)
    simpa using this

/-- The value cell is numeric, and every closed cell behind it is not. -/
theorem valueCell?_eq_some_iff {line cell : List Char} :
    valueCell? line = some cell ↔
      ∃ full, trimChars full = cell ∧ isNumeric full ∧
        ∃ before after,
          closedCells line = before ++ full :: after ∧ ∀ b ∈ after, ¬ isNumeric b := by
  rw [valueCell?, Option.map_eq_some_iff]
  constructor
  · rintro ⟨full, h, rfl⟩
    obtain ⟨hn, split⟩ := findLast?_eq_some_iff.1 h
    exact ⟨full, rfl, hn, split⟩
  · rintro ⟨full, rfl, hn, split⟩
    exact ⟨full, findLast?_eq_some_iff.2 ⟨hn, split⟩, rfl⟩

end GeoBench.Table
