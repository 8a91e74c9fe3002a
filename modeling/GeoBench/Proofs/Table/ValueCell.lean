import GeoBench.Proofs.Table.NumericCell
import GeoBench.Proofs.Table.RowPattern
import GeoBench.Proofs.Text.Pieces
import GeoBench.Table.Sample

/-!
# The value cell of a row

A table is read by cutting its lines into cells; the pattern of a data row says the same by greedy
repetitions, and leaves it to the order of the matches which cell is captured. This module shows
that the two agree on every line.

Behind a column a search succeeds where its continuation does, and the last bar comes first. So each
column asks for one more bar in front, and keeps the preference for the **last** numeric cell
(`firstSuccess_column`); four columns in a row leave the value cell.

## The argument

Each column of the pattern takes as much as it can, so it first ends at the last bar of the line,
and gives up one bar after the other until the rest of the pattern fits. That is a search through
the cells from the right. Four columns in front only ask for four bars, and since the outermost one
is tried from the right as well, the numeric cell that is found is the last one that has four cells
in front of it and a bar behind it.

A row may have more than five cells, cells without numbers and cells with blanks of any kind; none
of this is supposed away.

## Main results

* `rowPattern_capture?` — the row pattern captures the value cell.
* `valueCell?_eq_max?` — the value cell is the numeric cell with the greatest index.
* `samples_eq_cells` — the samples of a table, by the pattern and by the cells.
-/

namespace GeoBench.Table

open GeoBench.Text

/-! ### Where the parts of the row pattern lead -/

namespace Pattern

/-- The pattern of a numeral leads behind every numeral. -/
theorem mem_outcomes_numeral {s t : Position} :
    t ∈ numeral.outcomes s ↔ ∃ num, Numeral num ∧ s.After num t := by
  simp only [numeral, mem_outcomes_append]
  constructor
  · rintro ⟨u, hu, v, hv, ht⟩
    obtain ⟨whole, hne, hwhole, hsu⟩ := mem_outcomes_several.mp hu
    obtain ⟨point, hpoint, huv⟩ := mem_outcomes_optional.mp hv
    obtain ⟨fraction, hfraction, hvt⟩ := mem_outcomes_many.mp ht
    refine ⟨whole ++ (point ++ fraction), ?_, hsu.trans (huv.trans hvt)⟩
    refine ⟨whole, point, fraction, rfl, hne, hwhole, ?_, hfraction⟩
    rcases hpoint with rfl | ⟨c, hc, rfl⟩
    · exact .inl rfl
    · exact .inr (congrArg (fun d => [d]) (beq_iff_eq.mp hc))
  · rintro ⟨num, ⟨whole, point, fraction, rfl, hne, hwhole, hpoint, hfraction⟩, h⟩
    obtain ⟨u, hsu, hut⟩ := h.split
    obtain ⟨v, huv, hvt⟩ := hut.split
    refine ⟨u, mem_outcomes_several.mpr ⟨whole, hne, hwhole, hsu⟩, v, ?_,
      mem_outcomes_many.mpr ⟨fraction, hfraction, hvt⟩⟩
    refine mem_outcomes_optional.mpr ⟨point, ?_, huv⟩
    rcases hpoint with rfl | rfl
    · exact .inl rfl
    · exact .inr ⟨'.', beq_self_eq_true '.', rfl⟩

/-- The group of the row pattern keeps the numeral that it leads behind. -/
theorem mem_outcomes_group_numeral {s t : Position} :
    t ∈ (group numeral).outcomes s ↔
      ∃ num u, Numeral num ∧ s.After num u ∧ t = { u with captured? := some num } := by
  have hgroup : ∀ u ∈ numeral.outcomes s, ∃ x, s.After x u := by
    intro u hu
    obtain ⟨num, -, hafter⟩ := mem_outcomes_numeral.mp hu
    exact ⟨num, hafter⟩
  rw [mem_outcomes_group hgroup]
  constructor
  · rintro ⟨u, hu, num, hsu, rfl⟩
    obtain ⟨num', hnum', hsu'⟩ := mem_outcomes_numeral.mp hu
    obtain rfl : num' = num := List.append_cancel_right (hsu'.1.symm.trans hsu.1)
    exact ⟨num', u, hnum', hsu, rfl⟩
  · rintro ⟨num, u, hnum, hsu, rfl⟩
    exact ⟨u, mem_outcomes_numeral.mpr ⟨num, hnum, hsu⟩, num, hsu, rfl⟩

/-- Behind the value column, its cell is closed by a bar, and its numeral is captured. -/
theorem shape_of_mem_valueColumn {s t : Position} (h : t ∈ valueColumn.outcomes s) :
    ∃ cell num rest, Holds cell num ∧ s.rest = cell ++ bar :: rest ∧ t.captured? = some num := by
  simp only [valueColumn, mem_outcomes_append] at h
  obtain ⟨u₁, h₁, u₂, h₂, u₃, h₃, u₄, h₄, u₅, h₅, h₆⟩ := h
  obtain ⟨before, hbefore, hs₁⟩ := mem_outcomes_many.mp h₁
  obtain ⟨num, v, hnum, h₁v, rfl⟩ := mem_outcomes_group_numeral.mp h₂
  obtain ⟨after, hafter, h₂₃⟩ := mem_outcomes_many.mp h₃
  obtain ⟨c, hc, h₃₄⟩ := mem_outcomes_one.mp h₄
  obtain ⟨rest, -, h₄₅⟩ := mem_outcomes_many.mp h₅
  obtain ⟨hstop, rfl⟩ := mem_outcomes_stop.mp h₆
  obtain rfl : c = bar := beq_iff_eq.mp hc
  refine ⟨before ++ (num ++ after), num, rest, ⟨before, after, rfl, hbefore, hnum, hafter⟩, ?_, ?_⟩
  · rw [hs₁.1, h₁v.1, h₂₃.1, h₃₄.1, h₄₅.1, hstop]
    simp
  · rw [h₄₅.2.2, h₃₄.2.2, h₂₃.2.2]

/-- The value column leads on from a numeric cell that a bar closes. -/
theorem valueColumn_ne_nil {cell num rest : List Char} {s : Position} (hcell : Holds cell num)
    (hs : s.rest = cell ++ bar :: rest) (hline : '\n' ∉ rest) : valueColumn.outcomes s ≠ [] := by
  obtain ⟨before, after, rfl, hbefore, hnum, hafter⟩ := hcell
  have hany : ∀ c ∈ rest, CharClass.any.holds c := by
    intro c hc
    exact bne_iff_ne.mpr fun heq => hline (heq ▸ hc)
  rw [List.append_assoc, List.append_assoc] at hs
  obtain ⟨u₁, hs₁, hr₁⟩ := Position.exists_after hs
  obtain ⟨v, h₁v, hrv⟩ := Position.exists_after hr₁
  obtain ⟨u₃, h₂₃, hr₃⟩ :=
    Position.exists_after (s := { v with captured? := some num }) hrv
  obtain ⟨u₄, h₃₄, hr₄⟩ := Position.exists_after (x := [bar]) hr₃
  obtain ⟨u₅, h₄₅, hr₅⟩ := Position.exists_after (y := []) (hr₄.trans (List.append_nil rest).symm)
  refine List.ne_nil_of_mem (a := u₅) ?_
  simp only [valueColumn, mem_outcomes_append]
  exact ⟨u₁, mem_outcomes_many.mpr ⟨before, hbefore, hs₁⟩,
    { v with captured? := some num }, mem_outcomes_group_numeral.mpr ⟨num, v, hnum, h₁v, rfl⟩,
    u₃, mem_outcomes_many.mpr ⟨after, hafter, h₂₃⟩,
    u₄, mem_outcomes_one.mpr ⟨bar, beq_self_eq_true bar, h₃₄⟩,
    u₅, mem_outcomes_many.mpr ⟨rest, hany, h₄₅⟩, mem_outcomes_stop.mpr ⟨hr₅, rfl⟩⟩

/-! ### The first success -/

section

variable {β : Type} {p q : Pattern} {K : Position → Option β} {n : Nat} {c : Char}
  {cs : List Char} {captured? : Option (List Char)}

/-- The **first success** of a search among the positions that a pattern leads to. -/
def firstSuccess (p : Pattern) (K : Position → Option β) (s : Position) : Option β :=
  (p.outcomes s).findSome? K

/-- The first success in a list of lists is that of the first list that has one. -/
theorem findSome?_flatMap {α γ : Type} (l : List α) (f : α → List γ) (K : γ → Option β) :
    (l.flatMap f).findSome? K = l.findSome? fun a => (f a).findSome? K := by
  induction l with
  | nil => rfl
  | cons a l ih =>
      rw [List.flatMap_cons, List.findSome?_append, ih, List.findSome?_cons]
      cases (f a).findSome? K <;> rfl

/-- Behind a sequence, the search of the second part is made behind the first part. -/
theorem firstSuccess_append : (p ++ q).firstSuccess K = p.firstSuccess (q.firstSuccess K) :=
  funext fun _ => findSome?_flatMap _ _ _

/-- No column begins at the end of a line. -/
theorem firstSuccess_column_nil : column.firstSuccess K ⟨n, [], captured?⟩ = none :=
  rfl

/-- A later end of a column counts before an earlier one: the character in front is its bar only if
the search fails behind every bar further on. -/
theorem firstSuccess_column_cons (hc : c ≠ '\n') :
    column.firstSuccess K ⟨n, c :: cs, captured?⟩ =
      (column.firstSuccess K ⟨n + 1, cs, captured?⟩).or
        (if c = bar then K ⟨n + 1, cs, captured?⟩ else none) := by
  have hany : CharClass.any.holds c = true := bne_iff_ne.mpr hc
  have hmany : (many CharClass.any).outcomes ⟨n, c :: cs, captured?⟩ =
      (many CharClass.any).outcomes ⟨n + 1, cs, captured?⟩ ++ [⟨n, c :: cs, captured?⟩] := by
    rw [outcomes, outcomes, stretches, if_pos hany]
  have hone : (one (.only bar)).outcomes ⟨n, c :: cs, captured?⟩ =
      if c = bar then [⟨n + 1, cs, captured?⟩] else [] :=
    if_congr beq_iff_eq rfl rfl
  rw [column, firstSuccess_append, firstSuccess, firstSuccess, hmany, List.findSome?_append]
  congr 1
  rw [List.findSome?_singleton, firstSuccess, hone]
  by_cases hbar : c = bar
  · rw [if_pos hbar, if_pos hbar, List.findSome?_singleton]
  · rw [if_neg hbar, if_neg hbar, List.findSome?_nil]

end

end Pattern

/-! ### The last numeric cell -/

/-- The last numeric cell that a bar closes and that at least `m` bars precede, without the blanks
around it. -/
def lastNumeral? (m : Nat) (line : List Char) : Option (List Char) :=
  (findLast? isNumeric (((cells line).drop m).dropLast)).map trimChars

/-- The last member that passes is the first one only if none behind it passes. -/
theorem findLast?_eq_or {α : Type} (p : α → Bool) (l : List α) :
    findLast? p l = (findLast? p l.tail).or (l.head?.filter p) := by
  cases l with
  | nil => rfl
  | cons a l =>
      rw [findLast?, List.reverse_cons, List.find?_append, List.tail_cons, findLast?,
        List.head?_cons, Option.filter_some]
      congr 1
      by_cases ha : p a = true
      · rw [List.find?_cons_of_pos ha, if_pos ha]
      · rw [List.find?_cons_of_neg ha, if_neg ha]
        rfl

/-- With one bar fewer in front, there is one more cell to fall back on. -/
theorem lastNumeral?_eq_or (m : Nat) (line : List Char) :
    lastNumeral? m line = (lastNumeral? (m + 1) line).or
      (((((cells line).drop m).dropLast).head?.filter isNumeric).map trimChars) := by
  have htail : (((cells line).drop m).dropLast).tail = ((cells line).drop (m + 1)).dropLast := by
    rw [List.tail_dropLast, List.tail_drop]
  rw [lastNumeral?, findLast?_eq_or, htail, Option.map_or, lastNumeral?]

/-! ### What the row pattern captures -/

/-- Nothing in a numeric cell is a bar. -/
theorem Holds.bar_notMem {cell num : List Char} (h : Holds cell num) : bar ∉ cell := by
  obtain ⟨before, after, rfl, hbefore, ⟨whole, point, fraction, rfl, -, hwhole, hpoint, hfraction⟩,
    hafter⟩ := h
  have hblank : ¬ isBlank bar := by decide
  have hdigit : ¬ isDecimalDigit bar := by decide
  intro hmem
  simp only [List.mem_append] at hmem
  rcases hmem with h | (h | h | h) | h
  · exact hblank (hbefore bar h)
  · exact hdigit (hwhole bar h)
  · rcases hpoint with rfl | rfl
    · cases h
    · cases List.mem_singleton.mp h
  · exact hdigit (hfraction bar h)
  · exact hblank (hafter bar h)

/-- A search gives what each of its candidates gives, if it has one whenever that is something. -/
theorem findSome?_eq_of_forall {α β : Type} {K : α → Option β} {l : List α} {v : Option β}
    (hall : ∀ a ∈ l, K a = v) (hne : v ≠ none → l ≠ []) : l.findSome? K = v := by
  cases v with
  | none => exact List.findSome?_eq_none_iff.mpr hall
  | some b =>
      obtain ⟨a, l, rfl⟩ := List.exists_cons_of_ne_nil (hne (Option.some_ne_none b))
      rw [List.findSome?_cons, hall a List.mem_cons_self]

/-- The value column captures the numeral of the first cell, if a bar closes that cell. -/
theorem firstSuccess_valueColumn {n : Nat} {cs : List Char} (hline : '\n' ∉ cs) :
    valueColumn.firstSuccess Position.captured? ⟨n, cs, none⟩ =
      ((cells cs).dropLast.head?.filter isNumeric).map trimChars := by
  refine findSome?_eq_of_forall ?_ ?_
  · intro t ht
    obtain ⟨cell, num, rest, hcell, rfl, hcaptured⟩ := Pattern.shape_of_mem_valueColumn ht
    obtain ⟨next, others, hrest⟩ := exists_cons_splitAtSep bar rest
    have hcells : cells (cell ++ bar :: rest) = cell :: next :: others := by
      rw [cells, splitAtSep_append_cons hcell.bar_notMem, hrest]
    rw [hcaptured, hcells, List.dropLast_cons_cons, List.head?_cons, Option.filter_some,
      if_pos (isNumeric_iff.mpr ⟨num, hcell⟩), Option.map_some, hcell.trimChars_eq]
  · intro hsome
    obtain ⟨num, hnum⟩ := Option.ne_none_iff_exists'.mp hsome
    obtain ⟨cell, hfilter, -⟩ := Option.map_eq_some_iff.mp hnum
    obtain ⟨hhead, hnumeric⟩ := Option.filter_eq_some_iff.mp hfilter
    obtain ⟨num, hcell⟩ := isNumeric_iff.mp hnumeric
    obtain ⟨next, others, hcells⟩ : ∃ next others, cells cs = cell :: next :: others := by
      match hpieces : cells cs with
      | [] => simp [hpieces] at hhead
      | [only] => simp [hpieces] at hhead
      | first :: next :: others =>
          rw [hpieces, List.dropLast_cons_cons, List.head?_cons] at hhead
          exact ⟨next, others, by rw [Option.some.inj hhead]⟩
    obtain ⟨rest, rfl⟩ := exists_eq_append_of_splitAtSep hcells
    refine Pattern.valueColumn_ne_nil hcell rfl fun hrest => hline ?_
    exact List.mem_append_right _ (List.mem_cons_of_mem _ hrest)

/-- **One column more.** A column leads to the last success behind any bar, so it asks for one more
bar in front of the cell that is captured behind it. -/
theorem firstSuccess_column {m : Nat} {K : Position → Option (List Char)}
    (hK : ∀ n cs, '\n' ∉ cs →
      (lastNumeral? (m + 1) cs).or (K ⟨n, cs, none⟩) = lastNumeral? m cs)
    {n : Nat} {cs : List Char} (hline : '\n' ∉ cs) :
    column.firstSuccess K ⟨n, cs, none⟩ = lastNumeral? (m + 1) cs := by
  induction cs generalizing n with
  | nil =>
      rw [Pattern.firstSuccess_column_nil, lastNumeral?, cells, splitAtSep_nil, List.drop_succ_cons,
        List.drop_nil]
      rfl
  | cons c cs ih =>
      have hc : c ≠ '\n' := fun h => hline (h ▸ List.mem_cons_self)
      have hcs : '\n' ∉ cs := fun h => hline (List.mem_cons_of_mem c h)
      rw [Pattern.firstSuccess_column_cons hc, ih hcs]
      by_cases hbar : c = bar
      · subst hbar
        rw [if_pos rfl, hK (n + 1) cs hcs, lastNumeral?, lastNumeral?, cells, cells,
          splitAtSep_cons_self, List.drop_succ_cons]
      · obtain ⟨first, others, hpieces, hcons⟩ := splitAtSep_cons_of_ne cs hbar
        rw [if_neg hbar, Option.or_none, lastNumeral?, lastNumeral?, cells, cells, hcons, hpieces,
          List.drop_succ_cons, List.drop_succ_cons]

/-- What follows the bars is asked for its last numeric cell, however many columns there are. -/
theorem lastNumeral?_or_self (m : Nat) (cs : List Char) :
    (lastNumeral? (m + 1) cs).or (lastNumeral? m cs) = lastNumeral? m cs := by
  rw [lastNumeral?_eq_or m, ← Option.or_assoc, Option.or_self]

/-- Every match of the row pattern captures something. -/
theorem captured?_ne_none {s t : Position}
    (h : t ∈ (column ++ (column ++ (column ++ (column ++ valueColumn)))).outcomes s) :
    t.captured? ≠ none := by
  simp only [Pattern.mem_outcomes_append] at h
  obtain ⟨-, -, -, -, -, -, u, -, ht⟩ := h
  obtain ⟨-, num, -, -, -, hcaptured⟩ := Pattern.shape_of_mem_valueColumn ht
  rw [hcaptured]
  exact Option.some_ne_none num

/-- The first candidate decides a search in which none fails. -/
theorem head?_bind_eq_findSome? {α β : Type} {K : α → Option β} {l : List α}
    (h : ∀ a ∈ l, K a ≠ none) : l.head?.bind K = l.findSome? K := by
  cases l with
  | nil => rfl
  | cons a l =>
      obtain ⟨b, hb⟩ := Option.ne_none_iff_exists'.mp (h a List.mem_cons_self)
      rw [List.head?_cons, Option.bind_some, List.findSome?_cons, hb]

/-- **The row pattern captures the value cell**: the greedy columns leave the last numeric cell. -/
theorem rowPattern_capture? {line : List Char} (hline : '\n' ∉ line) :
    rowPattern.capture? line = valueCell? line := by
  rw [rowPattern, Pattern.capture?_of_start,
    head?_bind_eq_findSome? fun t ht => captured?_ne_none ht]
  show (column ++ (column ++ (column ++ (column ++ valueColumn)))).firstSuccess
    Position.captured? ⟨0, line, none⟩ = lastNumeral? 4 line
  simp only [Pattern.firstSuccess_append]
  -- each column rests on the one behind it, and the last one on the value column
  refine firstSuccess_column (fun n cs h => ?_) hline
  rw [firstSuccess_column (m := 2) (fun n cs h => ?_) h, lastNumeral?_or_self]
  rw [firstSuccess_column (m := 1) (fun n cs h => ?_) h, lastNumeral?_or_self]
  rw [firstSuccess_column (m := 0) (fun n cs h => ?_) h, lastNumeral?_or_self]
  rw [firstSuccess_valueColumn h, lastNumeral?_eq_or 0 cs, List.drop_zero]

/-! ### The value cell by its index -/

/-- The indices of the numeric cells of a line that a bar closes and that at least four bars
precede. -/
def valueIndices (line : List Char) : List Nat :=
  (List.range (cells line).length).filter fun k =>
    4 ≤ k ∧ k + 1 < (cells line).length ∧ NumericCell ((cells line).getD k [])

/-- The sample of a line: that of its numeric cell with the **greatest index**. -/
def lineSample? (line : List Char) : Option Sample :=
  (valueIndices line).max?.bind fun k => (readCell (trimChars ((cells line).getD k []))).sample?

/-- A value stands in a numeric cell, from the fifth cell on and before the last one. -/
theorem mem_valueIndices {line : List Char} {k : Nat} :
    k ∈ valueIndices line ↔
      4 ≤ k ∧ k + 1 < (cells line).length ∧ NumericCell ((cells line).getD k []) := by
  rw [valueIndices, List.mem_filter, List.mem_range, decide_eq_true_eq]
  constructor
  · rintro ⟨-, h⟩
    exact h
  · rintro ⟨hfour, hlt, hcell⟩
    exact ⟨by omega, hfour, hlt, hcell⟩

/-- The closed cells of a line by their indices. -/
theorem getElem?_closedCells {line : List Char} {i : Nat} {cell : List Char} :
    (closedCells line)[i]? = some cell ↔
      4 + i + 1 < (cells line).length ∧ (cells line).getD (4 + i) [] = cell := by
  rw [closedCells, List.getElem?_dropLast, List.length_drop]
  by_cases hlt : 4 + i + 1 < (cells line).length
  · have hcell : (cells line)[4 + i]? = some ((cells line).getD (4 + i) []) := by
      rw [List.getD_eq_getElem?_getD, List.getElem?_eq_getElem (Nat.lt_of_succ_lt hlt),
        Option.getD_some]
    rw [if_pos (by omega), List.getElem?_drop, hcell, Option.some.injEq]
    exact ⟨fun h => ⟨hlt, h⟩, fun h => h.2⟩
  · rw [if_neg (by omega)]
    exact ⟨nofun, fun h => absurd h.1 hlt⟩

/-- The **value cell** is the numeric cell with the greatest index. -/
theorem valueCell?_eq_max? (line : List Char) :
    valueCell? line =
      (valueIndices line).max?.map fun k => trimChars ((cells line).getD k []) := by
  cases hvalue : findLast? isNumeric (closedCells line) with
  | none =>
      have hnil : valueIndices line = [] := by
        refine List.eq_nil_iff_forall_not_mem.mpr fun k hk => ?_
        obtain ⟨hfour, hlt, hcell⟩ := mem_valueIndices.mp hk
        obtain ⟨i, rfl⟩ := Nat.exists_eq_add_of_le hfour
        have hmem : (cells line).getD (4 + i) [] ∈ closedCells line :=
          List.mem_of_getElem? (getElem?_closedCells.mpr ⟨hlt, rfl⟩)
        rw [findLast?, List.find?_eq_none] at hvalue
        exact hvalue _ (List.mem_reverse.mpr hmem) (isNumeric_iff.mpr hcell)
      rw [valueCell?, hvalue, hnil]
      rfl
  | some full =>
      obtain ⟨hfull, before, after, hsplit, hafter⟩ := findLast?_eq_some_iff.mp hvalue
      have hat : (closedCells line)[before.length]? = some full := by
        rw [hsplit, List.getElem?_append_right (Nat.le_refl _), Nat.sub_self,
          List.getElem?_cons_zero]
      obtain ⟨hlt, hcell⟩ := getElem?_closedCells.mp hat
      have hmax : (valueIndices line).max? = some (4 + before.length) := by
        refine List.max?_eq_some_iff.mpr ⟨mem_valueIndices.mpr ⟨by omega, hlt, ?_⟩, ?_⟩
        · rw [hcell]
          exact isNumeric_iff.mp hfull
        · -- a later index would be that of a numeric cell among the ones behind
          intro k hk
          obtain ⟨hfour, hklt, hkcell⟩ := mem_valueIndices.mp hk
          obtain ⟨i, rfl⟩ := Nat.exists_eq_add_of_le hfour
          by_contra hgt
          have hi : (closedCells line)[i]? = some ((cells line).getD (4 + i) []) :=
            getElem?_closedCells.mpr ⟨hklt, rfl⟩
          obtain ⟨j, rfl⟩ : ∃ j, i = before.length + (j + 1) :=
            ⟨i - before.length - 1, by omega⟩
          rw [hsplit, List.getElem?_append_right (Nat.le_add_right _ _), Nat.add_sub_cancel_left,
            List.getElem?_cons_succ] at hi
          exact hafter _ (List.mem_of_getElem? hi) (isNumeric_iff.mpr hkcell)
      rw [valueCell?, hvalue, hmax, Option.map_some, Option.map_some, hcell]

/-! ### The samples of a table -/

/-- **The samples of a table.** They are what the row pattern captures, line after line, and also
what the cells of the lines say: the numeric cell with the greatest index gives the sample, and with
five bars in a line only the fourth column can. -/
theorem samples_eq_cells (text : String) :
    rowPattern.text = "^.*│.*│.*│.*│\\s*(\\d+\\.?\\d*)\\s*│.*$" ∧
    samples text = (closePieces (splitAtSep '\n' text.toList)).filterMap
      (fun line => (rowPattern.capture? line).bind fun cell => (readCell cell).sample?) ∧
    samples text = (closePieces (splitAtSep '\n' text.toList)).filterMap lineSample? ∧
    ∀ line ∈ closePieces (splitAtSep '\n' text.toList),
      (rowPattern.capture? line =
        (valueIndices line).max?.map fun k => trimChars ((cells line).getD k [])) ∧
      (line.count bar = 5 → ∀ k ∈ valueIndices line, k = 4) := by
  have hpattern : ∀ line ∈ charLines text.toList, rowPattern.capture? line = valueCell? line :=
    fun line hline => rowPattern_capture? (newline_notMem_of_mem_charLines hline)
  have hsamples : samples text = (charLines text.toList).filterMap
      fun line => (valueCell? line).bind fun cell => (readCell cell).sample? := by
    rw [samples, valueCells, List.filterMap_filterMap]
  rw [← charLines_eq_closePieces]
  refine ⟨rowPattern_text, ?_, ?_, ?_⟩
  · rw [hsamples]
    exact List.filterMap_congr fun line hline => by rw [hpattern line hline]
  · rw [hsamples]
    refine List.filterMap_congr fun line _ => ?_
    rw [valueCell?_eq_max?, lineSample?, Option.bind_map]
    rfl
  · intro line hline
    refine ⟨(hpattern line hline).trans (valueCell?_eq_max? line), ?_⟩
    intro hfive k hk
    obtain ⟨hfour, hlt, -⟩ := mem_valueIndices.mp hk
    rw [cells, length_splitAtSep, hfive] at hlt
    omega

end GeoBench.Table
