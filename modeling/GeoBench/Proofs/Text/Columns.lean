import GeoBench.Text.Blank
import GeoBench.Text.Search
import Mathlib.Data.List.Basic
import Mathlib.Tactic.Common

/-!
# Columns of a line

A line of a listing is read as columns with blanks between them. A token without blanks cannot reach
over a blank, so to look for it in the whole line is to look for it in every column.

A pair of numbers with a slash between them is such a column. A shorter pair may occur in it, as a
stretch of its characters, although its numbers are others.

## Tokens in columns

A token may occur in a line several times and in several columns, and in one column at any place.
For a token without blanks it is enough to look into the columns; for a pair of single characters
with a separator between them, at the two characters on both sides of the separator.

## Main results

* `contains_iff_columns` — what a line contains, one of its columns contains.
* `columns_append` — a word is the first column of the line that it begins.
* `occursIn_pair_iff` — when a pair of digits occurs in a pair of numerals.
-/

namespace GeoBench.Text

/-- The **columns** of a line: its stretches without blanks. -/
def columns (line : String) : List String :=
  ((line.toList.splitOnP isBlank).filter fun piece => !piece.isEmpty).map String.ofList

section

variable {p : Char → Bool} {token cs : List Char}

/-- The first piece of a list reaches to the first separator. -/
theorem exists_splitOnP_eq_takeWhile (p : Char → Bool) (cs : List Char) :
    ∃ others, cs.splitOnP p = cs.takeWhile (fun c => !p c) :: others := by
  induction cs with
  | nil => exact ⟨[], rfl⟩
  | cons c cs ih =>
      obtain ⟨others, hpieces⟩ := ih
      rw [List.splitOnP_cons_eq_if_modifyHead, hpieces]
      by_cases hc : p c = true
      · exact ⟨_, by rw [if_pos hc, List.takeWhile_cons_of_neg (by simp [hc])]⟩
      · rw [if_neg hc, List.takeWhile_cons_of_pos (by simpa using hc)]
        exact ⟨others, rfl⟩

/-- A beginning without separators lies in the first piece. -/
theorem prefix_takeWhile_iff (h : ∀ c ∈ token, p c = false) :
    token <+: cs.takeWhile (fun c => !p c) ↔ token <+: cs := by
  refine ⟨fun hprefix => hprefix.trans (List.takeWhile_prefix _), ?_⟩
  rintro ⟨rest, rfl⟩
  rw [List.takeWhile_append_of_pos (by simpa using h)]
  exact List.prefix_append _ _

/-- **A token without separators** occurs in a list exactly when it occurs in one of its pieces. The
induction is on the list. -/
theorem occursIn_iff_piece (hne : token ≠ []) (h : ∀ c ∈ token, p c = false) :
    occursIn token cs = true ↔ ∃ piece ∈ cs.splitOnP p, occursIn token piece = true := by
  have hnil : occursIn token [] = false := by simpa [occursIn] using hne
  induction cs with
  | nil => simp
  | cons c cs ih =>
      have hstep : ∀ c cs, occursIn token (c :: cs) = true ↔
          token <+: c :: cs ∨ occursIn token cs = true := by
        intro c cs
        rw [occursIn, Bool.or_eq_true, List.isPrefixOf_iff_prefix]
      rw [List.splitOnP_cons_eq_if_modifyHead]
      by_cases hc : p c = true
      · -- no token begins with a separator
        have hstart : ¬ token <+: c :: cs := by
          obtain ⟨t, ts, rfl⟩ := List.exists_cons_of_ne_nil hne
          rintro ⟨rest, heq⟩
          obtain rfl : t = c := (List.cons.inj heq).1
          rw [h t List.mem_cons_self] at hc
          cases hc
        rw [if_pos hc]
        calc occursIn token (c :: cs) = true
            ↔ token <+: c :: cs ∨ ∃ piece ∈ cs.splitOnP p, occursIn token piece = true :=
              (hstep c cs).trans (or_congr_right ih)
          _ ↔ ∃ piece ∈ [] :: cs.splitOnP p, occursIn token piece = true := by
              simp [hstart, hnil]
      · -- a token that begins here ends in the first piece
        obtain ⟨others, hpieces⟩ := exists_splitOnP_eq_takeWhile p cs
        have hfirst : (c :: cs).takeWhile (fun c => !p c) = c :: cs.takeWhile (fun c => !p c) :=
          List.takeWhile_cons_of_pos (by simpa using hc)
        rw [hpieces] at ih ⊢
        rw [if_neg hc, List.modifyHead_cons]
        calc occursIn token (c :: cs) = true
            ↔ token <+: c :: cs.takeWhile (fun c => !p c) ∨
                ∃ piece ∈ cs.takeWhile (fun c => !p c) :: others,
                  occursIn token piece = true := by
              rw [← hfirst, prefix_takeWhile_iff h]
              exact (hstep c cs).trans (or_congr_right ih)
          _ ↔ ∃ piece ∈ (c :: cs.takeWhile (fun c => !p c)) :: others,
                occursIn token piece = true := by
              simp only [List.mem_cons, exists_eq_or_imp, hstep, or_assoc]

end

/-- **What a line contains**, one of its columns contains, if it has no blanks. -/
theorem contains_iff_columns {line token : String} (hne : token.toList ≠ [])
    (h : ∀ c ∈ token.toList, isBlank c = false) :
    contains line token = true ↔ ∃ column ∈ columns line, contains column token = true := by
  have hnil : occursIn token.toList [] = false := by simpa [occursIn] using hne
  rw [contains, occursIn_iff_piece hne h]
  simp only [columns, List.mem_map, List.mem_filter, contains]
  constructor
  · rintro ⟨piece, hpiece, hoccurs⟩
    refine ⟨_, ⟨piece, ⟨hpiece, ?_⟩, rfl⟩, by rwa [String.toList_ofList]⟩
    cases piece with
    | nil => rw [hnil] at hoccurs; cases hoccurs
    | cons => rfl
  · rintro ⟨_, ⟨piece, ⟨hpiece, -⟩, rfl⟩, hoccurs⟩
    exact ⟨piece, hpiece, by rwa [String.toList_ofList] at hoccurs⟩

/-- Blanks in front of a line are in no column. -/
theorem columns_append_of_blank {blanks : String} (h : ∀ c ∈ blanks.toList, isBlank c = true)
    (rest : String) : columns (blanks ++ rest) = columns rest := by
  rw [columns, String.toList_append]
  generalize blanks.toList = cs at h
  induction cs with
  | nil => rfl
  | cons c cs ih =>
      obtain ⟨hc, hcs⟩ := List.forall_mem_cons.mp h
      rw [List.cons_append, List.splitOnP_cons_eq_if_modifyHead, if_pos hc,
        List.filter_cons_of_neg (by simp)]
      exact ih hcs

/-- **A word is the first column** of the line that it begins. -/
theorem columns_append {word rest : String} (hne : word.toList ≠ [])
    (hword : ∀ c ∈ word.toList, isBlank c = false)
    (hrest : ∀ c ∈ rest.toList.head?, isBlank c = true) :
    columns (word ++ rest) = word :: columns rest := by
  have hkept : (!word.toList.isEmpty) = true := by simpa using hne
  rw [columns, columns, String.toList_append]
  cases hmore : rest.toList with
  | nil =>
      rw [List.append_nil, List.splitOnP_eq_singleton hword]
      simp [hkept]
  | cons b more =>
      have hb : isBlank b = true := hrest b (by rw [hmore]; rfl)
      rw [List.splitOnP_append_cons_of_forall_mem hword b hb, List.splitOnP_cons_eq_if_modifyHead,
        if_pos hb]
      simp [hkept]

/-- A pair of characters with a separator between them occurs in a pair of stretches without it
exactly when one ends the first stretch and the other one begins the second. -/
theorem occursIn_pair_iff {sep c d : Char} {first second : List Char}
    (hfirst : sep ∉ first) (hsecond : sep ∉ second) :
    occursIn [c, sep, d] (first ++ sep :: second) = true ↔
      first.getLast? = some c ∧ second.head? = some d := by
  rw [occursIn_iff]
  constructor
  · rintro ⟨before, after, heq⟩
    have hsplit : first ++ sep :: second = (before ++ [c]) ++ sep :: (d :: after) := by
      rw [heq]
      simp
    obtain ⟨rfl, -, rfl⟩ := (List.append_cons_inj_of_notMem hfirst hsecond).mp hsplit
    exact ⟨List.getLast?_concat, rfl⟩
  · rintro ⟨hlast, hhead⟩
    obtain ⟨init, rfl⟩ := List.getLast?_eq_some_iff.mp hlast
    obtain ⟨rest, rfl⟩ := List.head?_eq_some_iff.mp hhead
    exact ⟨init, rest, by simp⟩

end GeoBench.Text
