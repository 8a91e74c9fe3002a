import GeoBench.Proofs.Table.ValueCell
import Mathlib.Algebra.BigOperators.Group.List.Basic
import Mathlib.Algebra.GroupWithZero.Nat

/-!
# Counters over whole tables

A counter is read line by line and added up with a sum that stays at the largest word. Tables are
read in the same way whatever metric they are of. A carriage return at the end of a line never makes
or spoils a value cell, and an empty line has none, so a table may be cut at any line feed and each
part be read on its own. The sum is the exact sum, cut once at the end, so it does not depend on the
order of the lines, whichever of them takes it past the largest word.

## Cutting tables

A table may be cut at a line feed in the middle of its text, or two tables may be joined by one.
What stands in front of the cut then ends with a piece that was no last piece before, or the other
way round, and a last piece is treated in another way than the others: it keeps its carriage return,
and is no line if it is empty. That neither makes a difference to the samples is what the lemmas
about carriage returns and empty lines are for, and then a table is as good as the list of its
pieces.

## Main results

* `sum_eq_min` — the sum of samples is their exact sum or the largest word.
* `samples_eq_pieces` — the samples are those of the pieces between the line feeds.
* `samples_append_line`, `samples_intercalate` — a table that is put together from others.
* `counter_laws` — concatenation, saturation, lines without values, and the order of lines.
-/

namespace GeoBench.Table

open GeoBench.Text GeoBench.Number

/-! ### Sums -/

/-- A sum that is continued from a word: the exact sum or the largest word. The induction is on the
samples that are left. -/
theorem foldl_saturatingAdd (ss : List Sample) {total : Nat} (h : total ≤ Binary64.maxWord) :
    ss.foldl (fun total s => saturatingAdd total s.toCount) total =
      min (total + (ss.map Sample.toCount).sum) Binary64.maxWord := by
  induction ss generalizing total with
  | nil => rw [List.foldl_nil, List.map_nil, List.sum_nil, Nat.add_zero, Nat.min_eq_left h]
  | cons s ss ih =>
      have hword : saturatingAdd total s.toCount ≤ Binary64.maxWord := Nat.min_le_right _ _
      rw [List.foldl_cons, ih hword, saturatingAdd, List.map_cons, List.sum_cons]
      omega

/-- **The sum of samples** is their exact sum, cut once at the largest word. -/
theorem sum_eq_min (ss : List Sample) :
    sum ss = min (ss.map Sample.toCount).sum Binary64.maxWord := by
  rw [sum, foldl_saturatingAdd ss (Nat.zero_le _), Nat.zero_add]

/-- The sum is a word. -/
theorem sum_le (ss : List Sample) : sum ss ≤ Binary64.maxWord := by
  rw [sum_eq_min]
  exact Nat.min_le_right _ _

/-- The sum of two lists is the saturating sum of their sums. -/
theorem sum_append (ss ss' : List Sample) : sum (ss ++ ss') = saturatingAdd (sum ss) (sum ss') := by
  rw [sum_eq_min, sum_eq_min, sum_eq_min, saturatingAdd, List.map_append, List.sum_append]
  omega

/-- The sum does not depend on the order of the samples. -/
theorem sum_eq_of_perm {ss ss' : List Sample} (h : ss.Perm ss') : sum ss = sum ss' := by
  rw [sum_eq_min, sum_eq_min, (h.map Sample.toCount).sum_eq]

/-! ### Lines -/

/-- One more character behind a line that is no bar belongs to its last cell. -/
theorem cells_concat {c : Char} (hc : c ≠ bar) (line : List Char) :
    ∃ init last, cells line = init ++ [last] ∧ cells (line ++ [c]) = init ++ [last ++ [c]] := by
  induction line with
  | nil => exact ⟨[], [], rfl, splitAtSep_of_notMem (by simpa using hc.symm)⟩
  | cons d line ih =>
      obtain ⟨init, last, hline, hlonger⟩ := ih
      by_cases hd : d = bar
      · subst hd
        refine ⟨[] :: init, last, ?_, ?_⟩
        · rw [cells, splitAtSep_cons_self, ← cells, hline, List.cons_append]
        · rw [List.cons_append, cells, splitAtSep_cons_self, ← cells, hlonger, List.cons_append]
      · obtain ⟨first, others, hcells, hcons⟩ := splitAtSep_cons_of_ne line hd
        obtain ⟨first', others', hcells', hcons'⟩ := splitAtSep_cons_of_ne (line ++ [c]) hd
        rw [← cells] at hcells hcons hcells' hcons'
        rw [List.cons_append, hcons, hcons']
        rw [hline] at hcells
        rw [hlonger] at hcells'
        -- the first cell, to which `d` goes, is the last one only if there is no other
        cases init with
        | nil =>
            obtain ⟨rfl, rfl⟩ := List.cons.inj hcells
            obtain ⟨rfl, rfl⟩ := List.cons.inj hcells'
            exact ⟨[], d :: last, rfl, rfl⟩
        | cons cell init =>
            obtain ⟨rfl, rfl⟩ := List.cons.inj hcells
            obtain ⟨rfl, rfl⟩ := List.cons.inj hcells'
            exact ⟨(d :: cell) :: init, last, rfl, rfl⟩

/-- The value cell of a line does not depend on what follows its last bar. -/
theorem valueCell?_concat {c : Char} (hc : c ≠ bar) (line : List Char) :
    valueCell? (line ++ [c]) = valueCell? line := by
  obtain ⟨init, last, hline, hlonger⟩ := cells_concat hc line
  have hclosed : closedCells (line ++ [c]) = closedCells line := by
    rw [closedCells, closedCells, hline, hlonger, List.dropLast_drop_eq_drop_dropLast,
      List.dropLast_drop_eq_drop_dropLast, List.dropLast_concat, List.dropLast_concat]
  rw [valueCell?, valueCell?, hclosed]

/-- A carriage return at the end of a line makes no difference to its value cell. -/
theorem valueCell?_dropReturn (line : List Char) :
    valueCell? (dropReturn line) = valueCell? line := by
  rw [dropReturn]
  split
  next hlast =>
    obtain ⟨init, rfl⟩ := List.getLast?_eq_some_iff.mp hlast
    rw [List.dropLast_concat, valueCell?_concat (by decide)]
  next => rfl

/-- A line with fewer than five bars has no value cell. -/
theorem valueCell?_eq_none {line : List Char} (h : line.count bar < 5) :
    valueCell? line = none := by
  have hnil : closedCells line = [] := by
    refine List.eq_nil_of_length_eq_zero ?_
    rw [closedCells, List.length_dropLast, List.length_drop, cells, length_splitAtSep]
    omega
  rw [valueCell?, hnil]
  rfl

/-! ### Tables -/

/-- The sample of a **line**, if it has a value cell that can be read. -/
def rowSample? (line : List Char) : Option Sample :=
  (valueCell? line).bind fun cell => (readCell cell).sample?

/-- A line with fewer than five bars gives no sample. -/
theorem rowSample?_eq_none {line : List Char} (h : line.count bar < 5) :
    rowSample? line = none := by
  rw [rowSample?, valueCell?_eq_none h, Option.bind_none]

/-- The samples of a text are told line by line. -/
theorem samples_eq_filterMap_charLines (text : String) :
    samples text = (charLines text.toList).filterMap rowSample? := by
  rw [samples, valueCells, List.filterMap_filterMap]
  rfl

/-- It makes no difference to the samples that a carriage return is dropped from each piece but the
last, and the last piece if it is empty. -/
theorem filterMap_closePieces (pieces : List (List Char)) :
    (closePieces pieces).filterMap rowSample? = pieces.filterMap rowSample? := by
  induction pieces with
  | nil => rfl
  | cons piece others ih =>
      cases others with
      | nil =>
          rw [closePieces]
          split
          next hnil =>
            subst hnil
            rfl
          next => rfl
      | cons next others =>
          have hpiece : rowSample? (dropReturn piece) = rowSample? piece := by
            rw [rowSample?, rowSample?, valueCell?_dropReturn]
          rw [closePieces, List.filterMap_cons, List.filterMap_cons, ih, hpiece]

/-- **The samples of a table** are those of the pieces between its line feeds. -/
theorem samples_eq_pieces (text : String) :
    samples text = (splitAtSep '\n' text.toList).filterMap rowSample? := by
  rw [samples_eq_filterMap_charLines, charLines_eq_closePieces, filterMap_closePieces]

/-- The samples of two tables, one behind the other. -/
theorem samples_append_line (a b : String) :
    samples (a ++ "\n" ++ b) = samples a ++ samples b := by
  have hchars : (a ++ "\n" ++ b).toList = a.toList ++ '\n' :: b.toList := by simp
  rw [samples_eq_pieces, samples_eq_pieces, samples_eq_pieces, hchars, splitAtSep_append,
    List.filterMap_append]

/-- The samples of any number of tables, one behind the other. -/
theorem samples_intercalate (tables : List String) :
    samples (String.intercalate "\n" tables) = tables.flatMap samples := by
  induction tables with
  | nil => rfl
  | cons table tables ih =>
      cases tables with
      | nil => exact (List.flatMap_singleton samples table).symm
      | cons next tables =>
          rw [String.intercalate_cons_cons, samples_append_line, ih]
          exact List.flatMap_cons.symm

/-- A line with fewer than five bars is a table without samples. -/
theorem samples_eq_nil {line : String} (hline : '\n' ∉ line.toList)
    (h : line.toList.count bar < 5) : samples line = [] := by
  rw [samples_eq_pieces, splitAtSep_of_notMem hline, List.filterMap_cons, rowSample?_eq_none h,
    List.filterMap_nil]

/-- The samples of tables with the same lines are the same but for their order. -/
theorem samples_perm_of_lines {text text' : String} (h : (lines text).Perm (lines text')) :
    (samples text).Perm (samples text') := by
  have hlines : ∀ text, samples text = (lines text).filterMap fun l => rowSample? l.toList := by
    intro text
    rw [samples_eq_filterMap_charLines, lines, List.filterMap_map]
    exact List.filterMap_congr fun line _ => by rw [Function.comp_apply, String.toList_ofList]
  rw [hlines, hlines]
  exact h.filterMap _

/-- **The algebra of counters.** A counter is the exact sum of its samples, cut once at the largest
word. Tables that are joined by a line feed have the samples of both, whatever they end with, and
the counter is the saturating sum of the two. A line with fewer than five bars may be put anywhere
between the lines of a table, and the lines may come in any order, whether they are what stands
between the line feeds or what the table is read by. -/
theorem counter_laws :
    (∀ ss : List Sample, sum ss = min (ss.map Sample.toCount).sum (2 ^ 64 - 1)) ∧
    (∀ a b : String, samples (a ++ "\n" ++ b) = samples a ++ samples b ∧
      sum (samples (a ++ "\n" ++ b)) = min (sum (samples a) + sum (samples b)) (2 ^ 64 - 1)) ∧
    (∀ (before after : List String) (line : String), '\n' ∉ line.toList →
      line.toList.count bar < 5 →
      samples (String.intercalate "\n" (before ++ line :: after)) =
        samples (String.intercalate "\n" (before ++ after))) ∧
    (∀ ls ls' : List String, ls.Perm ls' →
      sum (samples (String.intercalate "\n" ls)) = sum (samples (String.intercalate "\n" ls'))) ∧
    (∀ text text' : String, (lines text).Perm (lines text') →
      sum (samples text) = sum (samples text')) := by
  refine ⟨sum_eq_min, fun a b => ⟨samples_append_line a b, ?_⟩, ?_, ?_, ?_⟩
  · rw [samples_append_line, sum_append]
    rfl
  · intro before after line hline hbars
    rw [samples_intercalate, samples_intercalate, List.flatMap_append, List.flatMap_append,
      List.flatMap_cons, samples_eq_nil hline hbars, List.nil_append]
  · intro ls ls' h
    rw [samples_intercalate, samples_intercalate]
    exact sum_eq_of_perm (h.flatMap_right samples)
  · exact fun text text' h => sum_eq_of_perm (samples_perm_of_lines h)

end GeoBench.Table
