import GeoBench.Text.Lines
import Mathlib.Data.List.Basic
import Mathlib.Tactic.Common

/-!
# Pieces and lines of a text

The lines of a text are found in one pass, with the unfinished line held in reverse. This module
relates that pass to the pieces between the line feeds.

## Lines and pieces

A text with a line feed at its end has an empty piece behind it, and no line for that piece; a text
without one has a last line all the same. A carriage return in front of a line feed belongs to the
end of the line and not to the line, but only one of several does, and one at the end of the text is
no end of a line. All of this is said once by `closePieces`, and whatever is needed of lines is
proved from it, or from the pass if the induction is on the characters.

## Main results

* `length_splitAtSep` — there is one piece more than there are separators.
* `notMem_of_mem_splitAtSep` — no piece has a separator.
* `charLines_eq_closePieces` — the lines are the pieces between the line feeds, each but the last
  without one carriage return at its end, and the last one only if it is not empty.
* `forall_mem_charLines_iff` — the lines hold everything but what ends them.
* `lines_join` — a text that is written line by line has these lines.
-/

namespace GeoBench.Text

/-! ### Characters -/

namespace Characters

section

variable (p : Char → Prop) [DecidablePred p]

/-- A quantifier over the characters of a text is decided one character after another, and not for
all characters that there are. -/
scoped instance (priority := high) decidableForallList (cs : List Char) :
    Decidable (∀ c ∈ cs, p c) :=
  List.decidableBAll p cs

/-- A quantifier over the first character of a text is decided for this one. -/
scoped instance (priority := high) decidableForallOption (c? : Option Char) :
    Decidable (∀ c ∈ c?, p c) :=
  Option.decidableForallMem c?

end

end Characters

/-! ### Pieces -/

section

variable {α : Type} [DecidableEq α] {sep a : α} {as p : List α}

/-- Nothing falls into one empty piece. -/
theorem splitAtSep_nil : splitAtSep sep [] = [[]] :=
  rfl

/-- A separator closes an empty piece in front of the others. -/
theorem splitAtSep_cons_self : splitAtSep sep (sep :: as) = [] :: splitAtSep sep as := by
  rw [splitAtSep, if_pos rfl]

/-- There is always a first piece, and what is no separator is put in front of it. -/
theorem splitAtSep_cons_of_ne (as : List α) (h : a ≠ sep) :
    ∃ first others, splitAtSep sep as = first :: others ∧
      splitAtSep sep (a :: as) = (a :: first) :: others := by
  have hne : splitAtSep sep as ≠ [] := by
    cases as with
    | nil => exact List.cons_ne_nil _ _
    | cons b bs =>
        rw [splitAtSep]
        split
        · exact List.cons_ne_nil _ _
        · split <;> exact List.cons_ne_nil _ _
  obtain ⟨first, others, hpieces⟩ := List.exists_cons_of_ne_nil hne
  refine ⟨first, others, hpieces, ?_⟩
  rw [splitAtSep, if_neg h, hpieces]

/-- There is one piece more than there are separators. -/
theorem length_splitAtSep : (splitAtSep sep as).length = as.count sep + 1 := by
  induction as with
  | nil => rfl
  | cons a as ih =>
      by_cases h : a = sep
      · subst h
        rw [splitAtSep_cons_self, List.length_cons, ih, List.count_cons_self]
      · obtain ⟨first, others, hpieces, hcons⟩ := splitAtSep_cons_of_ne as h
        rw [hpieces, List.length_cons] at ih
        rw [hcons, List.length_cons, ih, List.count_cons_of_ne h]

/-- There is always a first piece. -/
theorem exists_cons_splitAtSep (sep : α) (as : List α) :
    ∃ first others, splitAtSep sep as = first :: others := by
  refine List.exists_cons_of_length_pos ?_
  rw [length_splitAtSep]
  exact Nat.succ_pos _

/-- No piece has a separator. -/
theorem notMem_of_mem_splitAtSep (h : p ∈ splitAtSep sep as) : sep ∉ p := by
  induction as generalizing p with
  | nil =>
      rw [splitAtSep_nil, List.mem_singleton] at h
      rw [h]
      exact List.not_mem_nil
  | cons a as ih =>
      by_cases ha : a = sep
      · subst ha
        rw [splitAtSep_cons_self] at h
        rcases List.mem_cons.mp h with rfl | hp
        · exact List.not_mem_nil
        · exact ih hp
      · obtain ⟨first, others, hpieces, hcons⟩ := splitAtSep_cons_of_ne as ha
        rw [hpieces] at ih
        rw [hcons] at h
        rcases List.mem_cons.mp h with rfl | hp
        · intro hsep
          rcases List.mem_cons.mp hsep with rfl | hfirst
          · exact ha rfl
          · exact ih List.mem_cons_self hfirst
        · exact ih (List.mem_cons_of_mem _ hp)

/-- A stretch without separators is one piece. -/
theorem splitAtSep_of_notMem (h : sep ∉ p) : splitAtSep sep p = [p] := by
  induction p with
  | nil => rfl
  | cons a p ih =>
      have ha : a ≠ sep := fun heq => h (heq ▸ List.mem_cons_self)
      have hp : sep ∉ p := fun hmem => h (List.mem_cons_of_mem _ hmem)
      obtain ⟨first, others, hpieces, hcons⟩ := splitAtSep_cons_of_ne p ha
      rw [ih hp] at hpieces
      obtain ⟨rfl, rfl⟩ := List.cons.inj hpieces
      exact hcons

/-- The pieces on both sides of a separator. -/
theorem splitAtSep_append (as bs : List α) :
    splitAtSep sep (as ++ sep :: bs) = splitAtSep sep as ++ splitAtSep sep bs := by
  induction as with
  | nil => exact splitAtSep_cons_self
  | cons a as ih =>
      by_cases ha : a = sep
      · subst ha
        rw [List.cons_append, splitAtSep_cons_self, splitAtSep_cons_self, ih, List.cons_append]
      · obtain ⟨first, others, hpieces, hcons⟩ := splitAtSep_cons_of_ne as ha
        obtain ⟨first', others', hpieces', hcons'⟩ := splitAtSep_cons_of_ne (as ++ sep :: bs) ha
        rw [ih, hpieces, List.cons_append] at hpieces'
        obtain ⟨rfl, rfl⟩ := List.cons.inj hpieces'
        rw [List.cons_append, hcons', hcons, List.cons_append]

/-- A stretch without separators is the first piece of what it begins. -/
theorem splitAtSep_append_cons (h : sep ∉ p) :
    splitAtSep sep (p ++ sep :: as) = p :: splitAtSep sep as := by
  rw [splitAtSep_append, splitAtSep_of_notMem h, List.singleton_append]

/-- A separator follows each piece but the last. -/
theorem exists_eq_append_of_splitAtSep {first next : List α} {others : List (List α)}
    (h : splitAtSep sep as = first :: next :: others) : ∃ rest, as = first ++ sep :: rest := by
  induction as generalizing first with
  | nil => cases h
  | cons a as ih =>
      by_cases ha : a = sep
      · subst ha
        rw [splitAtSep_cons_self] at h
        obtain ⟨rfl, -⟩ := List.cons.inj h
        exact ⟨as, rfl⟩
      · obtain ⟨piece, more, hpieces, hcons⟩ := splitAtSep_cons_of_ne as ha
        rw [hcons] at h
        obtain ⟨rfl, rfl⟩ := List.cons.inj h
        obtain ⟨rest, rfl⟩ := ih hpieces
        exact ⟨rest, rfl⟩

end

/-! ### Lines -/

/-- A piece without one carriage return at its end. -/
def dropReturn (piece : List Char) : List Char :=
  if piece.getLast? = some '\r' then piece.dropLast else piece

/-- The lines that the pieces between line feeds stand for: a line feed closes each piece but the
last, and the last one counts if there is anything in it. -/
def closePieces : List (List Char) → List (List Char)
  | [] => []
  | [last] => if last = [] then [] else [last]
  | piece :: next :: others => dropReturn piece :: closePieces (next :: others)

/-- Closing a line that is held in reverse drops one carriage return from its end. -/
theorem closeLine_eq_dropReturn (unfinished : List Char) :
    closeLine unfinished = dropReturn unfinished.reverse := by
  rw [dropReturn, List.getLast?_reverse]
  cases unfinished with
  | nil => rfl
  | cons c rest =>
      by_cases hc : c = '\r'
      · subst hc
        rw [List.head?_cons, if_pos rfl, List.reverse_cons, List.dropLast_concat, closeLine]
      · rw [List.head?_cons, if_neg (fun h => hc (Option.some.inj h)), closeLine]
        rintro rest' heq
        exact hc (List.cons.inj heq).1

/-- The pass over a text, from any unfinished line on: it goes in front of the first piece. -/
theorem linesFrom_eq_closePieces (cs unfinished first : List Char) (others : List (List Char))
    (h : splitAtSep '\n' cs = first :: others) :
    linesFrom unfinished cs = closePieces ((unfinished.reverse ++ first) :: others) := by
  induction cs generalizing unfinished first others with
  | nil =>
      obtain ⟨rfl, rfl⟩ : [] = first ∧ [] = others := List.cons.inj h
      rw [linesFrom, List.append_nil, closePieces]
      by_cases hu : unfinished = []
      · subst hu
        rfl
      · rw [if_neg (by simpa using hu), if_neg (by simpa using hu)]
  | cons c cs ih =>
      by_cases hc : c = '\n'
      · subst hc
        rw [splitAtSep_cons_self] at h
        obtain ⟨rfl, rfl⟩ := List.cons.inj h
        obtain ⟨next, more, hpieces⟩ := exists_cons_splitAtSep '\n' cs
        have hrest := ih [] next more hpieces
        rw [List.reverse_nil, List.nil_append] at hrest
        rw [linesFrom, if_pos rfl, hrest, hpieces, List.append_nil, closePieces,
          closeLine_eq_dropReturn]
      · obtain ⟨piece, more, hpieces, hcons⟩ := splitAtSep_cons_of_ne cs hc
        rw [hcons] at h
        obtain ⟨rfl, rfl⟩ := List.cons.inj h
        rw [linesFrom, if_neg hc, ih (c :: unfinished) piece more hpieces, List.reverse_cons,
          List.append_assoc, List.singleton_append]

/-- **The lines of a text** are the pieces between its line feeds. -/
theorem charLines_eq_closePieces (cs : List Char) :
    charLines cs = closePieces (splitAtSep '\n' cs) := by
  obtain ⟨first, others, hpieces⟩ := exists_cons_splitAtSep '\n' cs
  rw [charLines, linesFrom_eq_closePieces cs [] first others hpieces, List.reverse_nil,
    List.nil_append, hpieces]

/-- What is in a line is in its piece. -/
theorem exists_mem_of_mem_closePieces {line : List Char} {pieces : List (List Char)}
    (h : line ∈ closePieces pieces) : ∃ piece ∈ pieces, ∀ c ∈ line, c ∈ piece := by
  induction pieces with
  | nil => cases h
  | cons piece others ih =>
      cases others with
      | nil =>
          rw [closePieces] at h
          split at h
          · cases h
          · rw [List.mem_singleton] at h
            exact ⟨piece, List.mem_cons_self, fun c hc => h ▸ hc⟩
      | cons next others =>
          rw [closePieces] at h
          rcases List.mem_cons.mp h with rfl | hrest
          · refine ⟨piece, List.mem_cons_self, fun c hc => ?_⟩
            rw [dropReturn] at hc
            split at hc
            · exact List.dropLast_subset piece hc
            · exact hc
          · obtain ⟨piece', hmem, hsub⟩ := ih hrest
            exact ⟨piece', List.mem_cons_of_mem _ hmem, hsub⟩

/-- No line has a line feed. -/
theorem newline_notMem_of_mem_charLines {line cs : List Char} (h : line ∈ charLines cs) :
    '\n' ∉ line := by
  rw [charLines_eq_closePieces] at h
  obtain ⟨piece, hmem, hsub⟩ := exists_mem_of_mem_closePieces h
  exact fun hnl => notMem_of_mem_splitAtSep hmem (hsub _ hnl)

/-- What holds of a carriage return holds of a closed line if it holds of the unfinished one. -/
theorem forall_mem_closeLine_iff {q : Char → Prop} (hreturn : q '\r') (unfinished : List Char) :
    (∀ c ∈ closeLine unfinished, q c) ↔ ∀ c ∈ unfinished, q c := by
  rw [closeLine.eq_def]
  split <;> simp [hreturn]

/-- **The lines hold everything** but line feeds and carriage returns: what holds of these holds of
the whole text if it holds of its lines. The induction is on the text, from any unfinished line
on. -/
theorem forall_mem_charLines_iff {q : Char → Prop} (hfeed : q '\n') (hreturn : q '\r')
    (cs : List Char) : (∀ line ∈ charLines cs, ∀ c ∈ line, q c) ↔ ∀ c ∈ cs, q c := by
  have hfrom : ∀ unfinished, (∀ line ∈ linesFrom unfinished cs, ∀ c ∈ line, q c) ↔
      (∀ c ∈ unfinished, q c) ∧ ∀ c ∈ cs, q c := by
    induction cs with
    | nil =>
        intro unfinished
        rw [linesFrom]
        cases unfinished <;> simp [or_imp, forall_and, and_comm]
    | cons c cs ih =>
        intro unfinished
        rw [linesFrom]
        split
        next heq =>
          subst heq
          simp [forall_mem_closeLine_iff hreturn, ih, hfeed]
        next =>
          simp only [ih, List.forall_mem_cons]
          tauto
  simpa [charLines] using hfrom []

/-- **A text that is written line by line** has these lines. The induction is on the lines. -/
theorem lines_join {ls : List String} (h : ∀ l ∈ ls, ∀ c ∈ l.toList, c ≠ '\n' ∧ c ≠ '\r') :
    lines (String.join (ls.map (· ++ "\n"))) = ls := by
  induction ls with
  | nil => rfl
  | cons l ls ih =>
      obtain ⟨hline, hlines⟩ := List.forall_mem_cons.mp h
      have hshape : (String.join ((l :: ls).map (· ++ "\n"))).toList =
          l.toList ++ '\n' :: (String.join (ls.map (· ++ "\n"))).toList := by
        simp [String.toList_append]
      have hlast : dropReturn l.toList = l.toList := by
        rw [dropReturn, if_neg fun heq => (hline '\r' (List.mem_of_getLast? heq)).2 rfl]
      obtain ⟨first, others, hpieces⟩ :=
        exists_cons_splitAtSep '\n' (String.join (ls.map (· ++ "\n"))).toList
      have hothers := ih hlines
      rw [lines, charLines_eq_closePieces] at hothers ⊢
      rw [hshape, splitAtSep_append_cons fun hmem => (hline _ hmem).1 rfl, hpieces, closePieces,
        hlast, List.map_cons, String.ofList_toList, ← hpieces, hothers]

end GeoBench.Text
