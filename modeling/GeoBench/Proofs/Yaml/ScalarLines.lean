import GeoBench.Proofs.Text.Pieces
import GeoBench.Yaml.Tokenizer
import GeoBench.Yaml.Value
import Mathlib.Tactic.Common

/-!
# Scalars on one line

A scalar that stands on one line by itself, plain or between quotes, is read up to its end and means
the characters that it is written with. A plain scalar ends at a break or before the colon behind a
key; between quotes every character of one line can stand.

## Conventions

A scalar outside of brackets may go on in further lines that are indented, so a plain one ends with
its line only if the next line begins at the first column.

## The state of the scanner

A scalar is read by a loop that holds the characters in reverse and the blanks apart. What the loop
has read of a prefix of the line is written out as a state, by induction on the prefix, and the end
of the line then decides what becomes of the blanks. The same is done for quotes, where a doubled
quote stands for one.

## Main results

* `plainScalar_of_key`, `plainScalar_of_line` — what is read of a plain scalar on one line.
* `quotedScalar_of_line` — what is read of a scalar between quotes.
-/

namespace GeoBench.Yaml

open scoped GeoBench.Text.Characters

/-! ### Plain scalars -/

/-- Whether characters **go on** as a plain scalar on one line, up to the end of a word. Behind a
gap no comment may begin, and a colon is a character of the scalar only inside a word. -/
def goesOn : Bool → List Char → Bool
  | inWord, [] => inWord
  | inWord, c :: cs =>
    if isGap c then goesOn false cs
    else !isBreak c && (inWord || c != '#') && !(c == ':' && atGapOrEnd cs) && goesOn true cs

/-- Whether a plain scalar **opens** with a character, before the other ones on its line. -/
def opensPlain (c : Char) (cs : List Char) : Bool :=
  !(isGap c || isBreak c || Lexer.isIndicator c) ||
    ((c == '-' || c == '?' || c == ':') && !atGapOrEnd cs)

/-- Characters that make a **plain scalar** on one line. -/
def IsPlainLine : List Char → Prop
  | [] => False
  | c :: cs => opensPlain c cs ∧ goesOn true (c :: cs) ∧ ∀ d ∈ c :: cs, isAllowed d

instance : (cs : List Char) → Decidable (IsPlainLine cs)
  | [] => inferInstanceAs (Decidable False)
  | c :: cs => inferInstanceAs
      (Decidable (opensPlain c cs ∧ goesOn true (c :: cs) ∧ ∀ d ∈ c :: cs, isAllowed d))

/-- A plain scalar goes on from its first character, and all of them may stand in a data file. -/
theorem IsPlainLine.spec {cs : List Char} (h : IsPlainLine cs) :
    goesOn true cs ∧ ∀ c ∈ cs, isAllowed c := by
  cases cs with
  | nil => exact absurd h id
  | cons c cs => exact h.2

/-- Whether the next line **begins** with a word at the first column, or is not there. -/
def BeginsLine (more : List Char) : Prop :=
  ∀ c ∈ more.head?, isGap c = false ∧ isBreak c = false

/-- No break stands where characters go on. -/
theorem isBreak_of_goesOn {inWord : Bool} {cs : List Char} (h : goesOn inWord cs) :
    ∀ c ∈ cs, isBreak c = false := by
  induction cs generalizing inWord with
  | nil => exact fun _ hc => nomatch hc
  | cons c cs ih =>
      rw [goesOn] at h
      rw [List.forall_mem_cons]
      split at h
      next hgap =>
        have hblank : c = ' ' ∨ c = '\t' := by simpa [isGap] using hgap
        exact ⟨by rcases hblank with rfl | rfl <;> rfl, ih h⟩
      next =>
        simp only [Bool.and_eq_true, Bool.not_eq_true'] at h
        exact ⟨h.1.1.1, ih h.2⟩

/-- A gap or the end stays where it is when more follows a text that goes on. -/
theorem atGapOrEnd_append {cs : List Char} (h : atGapOrEnd cs = false) (tail : List Char) :
    atGapOrEnd (cs ++ tail) = false := by
  cases cs with
  | nil => cases h
  | cons c cs => exact h

section

variable {indent : Int} {cs tail text gaps : List Char} {inWord : Bool} {index line column : Nat}

/-- **What goes on as a plain scalar** is taken into its text. The induction is on the characters;
behind a gap the column is right of the first one, so that neither the indentation nor a document
mark ends the scalar. -/
theorem plainFrom_append (hindent : indent ≤ 1) (h : goesOn inWord cs)
    (hgaps : inWord = true → gaps = []) (hcolumn : inWord = true ∨ 0 < column) (fuel : Nat) :
    plainFrom false indent (cs.length + fuel) inWord { text, gaps }
        ⟨cs ++ tail, index, line, column⟩ =
      plainFrom false indent fuel true { text := cs.reverse ++ gaps ++ text }
        ⟨tail, index + cs.length, line, column + cs.length⟩ := by
  induction cs generalizing inWord text gaps index column with
  | nil =>
      rw [goesOn] at h
      subst h
      rw [hgaps rfl]
      simp
  | cons c cs ih =>
      rw [goesOn] at h
      have hlength : (c :: cs).length + fuel = (cs.length + fuel) + 1 := by
        rw [List.length_cons]
        omega
      rw [hlength, List.cons_append, plainFrom]
      by_cases hgap : isGap c = true
      · rw [if_pos hgap] at h
        simp only [hgap, if_true, Bool.false_and, Bool.false_eq_true, if_false]
        have hstep := @ih text (c :: gaps) false (index + 1) (column + 1) h (fun hf => nomatch hf)
          (.inr (Nat.succ_pos _))
        simp only [Folding.addGap, Cursor.next, Bool.false_eq_true, if_false]
        rw [hstep]
        simp [Nat.add_comm, Nat.add_left_comm]
      · rw [if_neg hgap] at h
        simp only [Bool.and_eq_true, Bool.not_eq_true'] at h
        obtain ⟨⟨⟨hbreak, hcomment⟩, hcolon⟩, hgo⟩ := h
        have hstays : (!inWord && (!false && decide ((column : Int) < indent) ||
            Cursor.atDocumentMark ⟨c :: (cs ++ tail), index, line, column⟩ || c == '#')) =
              false := by
          cases inWord with
          | true => rfl
          | false =>
              have hpos : 0 < column := hcolumn.resolve_left (fun hf => nomatch hf)
              have hleft : ¬ (column : Int) < indent := by omega
              have hmark : (column == 0) = false := beq_false_of_ne (Nat.pos_iff_ne_zero.mp hpos)
              simpa [hleft, Cursor.atDocumentMark, hmark] using hcomment
        have hinside : (c == ':' && atGapOrEnd (cs ++ tail)) = false := by
          cases hc : c == ':' with
          | false => rfl
          | true =>
              rw [hc] at hcolon
              exact atGapOrEnd_append hcolon tail
        have hstep := @ih (c :: (gaps ++ text)) [] true (index + 1) (column + 1) hgo
          (fun _ => rfl) (.inl rfl)
        simp only [hgap, hbreak, hstays, hinside, Bool.false_and, Bool.or_self, Bool.false_eq_true,
          if_false, Folding.joined, Cursor.next]
        rw [hstep]
        simp [Nat.add_comm, Nat.add_left_comm]

/-- A plain scalar ends before a colon with a gap behind it. -/
theorem plainFrom_colon (h : atGapOrEnd tail) (fuel : Nat) :
    plainFrom false indent (fuel + 1) true { text } ⟨':' :: tail, index, line, column⟩ =
      .ok (text, false, ⟨':' :: tail, index, line, column⟩) := by
  have hgap : isGap ':' = false := rfl
  have hbreak : isBreak ':' = false := rfl
  simp only [plainFrom, hgap, hbreak, h, Bool.not_true, Bool.false_and, Bool.and_true,
    Bool.or_false, Bool.false_eq_true, if_false, beq_self_eq_true, if_true]

/-- A plain scalar ends with its line if the next one begins at the first column. -/
theorem plainFrom_break (hindent : 0 < indent) (h : BeginsLine tail) (fuel : Nat) :
    plainFrom false indent (fuel + 2) true { text } ⟨'\n' :: tail, index, line, column⟩ =
      .ok (text, true, ⟨tail, index + 1, line + 1, 0⟩) := by
  have hgap : isGap '\n' = false := rfl
  have hbreak : isBreak '\n' = true := rfl
  have hnext : Cursor.nextLine ⟨'\n' :: tail, index, line, column⟩ =
      ⟨tail, index + 1, line + 1, 0⟩ := rfl
  rw [plainFrom]
  simp only [hgap, hbreak, hnext, Bool.false_eq_true, if_false, if_true]
  cases tail with
  | nil => rfl
  | cons c tail =>
      obtain ⟨hgap, hbreak⟩ := h c rfl
      have hleft : ((0 : Nat) : Int) < indent := by omega
      simp only [plainFrom, hgap, hbreak, hleft, Folding.addBreak, Bool.not_false, Bool.true_and,
        decide_true, Bool.true_or, Bool.false_eq_true, if_false, if_true]

/-- **A plain scalar that is a key** is read up to its colon. -/
theorem plainScalar_of_key (hindent : indent ≤ 1) (h : goesOn true cs) (htail : atGapOrEnd tail) :
    plainScalar false indent ⟨cs ++ ':' :: tail, index, line, column⟩ =
      .ok (String.ofList cs, false,
        ⟨':' :: tail, index + cs.length, line, column + cs.length⟩) := by
  have hfuel : (cs ++ ':' :: tail).length + 1 = cs.length + (tail.length + 1 + 1) := by
    simp only [List.length_append, List.length_cons]
    omega
  rw [plainScalar]
  dsimp only
  rw [hfuel, plainFrom_append hindent h (fun _ => rfl) (.inl rfl), plainFrom_colon htail]
  simp [bind, Except.bind, pure, Except.pure]

/-- **A plain scalar that is the rest of its line** is read to the end of the line. -/
theorem plainScalar_of_line (hindent : indent = 1) (h : goesOn true cs) (htail : BeginsLine tail) :
    plainScalar false indent ⟨cs ++ '\n' :: tail, index, line, column⟩ =
      .ok (String.ofList cs, true, ⟨tail, index + cs.length + 1, line + 1, 0⟩) := by
  have hfuel : (cs ++ '\n' :: tail).length + 1 = cs.length + (tail.length + 2) := by
    simp only [List.length_append, List.length_cons]
    omega
  rw [plainScalar]
  dsimp only
  rw [hfuel, plainFrom_append (Int.le_of_eq hindent) h (fun _ => rfl) (.inl rfl),
    plainFrom_break (by omega) htail]
  simp [bind, Except.bind, pure, Except.pure]

end

/-! ### Quoted scalars -/

/-- The character that a scalar stands **between**: a single or a double quote. -/
def quote (single : Bool) : Char :=
  if single then '\'' else '"'

/-- A character as it is written between quotes: the single quote doubled, or the double quote and
the backslash behind a backslash. -/
def quotedChar (single : Bool) (c : Char) : List Char :=
  if single then (if c = '\'' then ['\'', '\''] else [c])
  else if c = '"' ∨ c = '\\' then ['\\', c]
  else [c]

/-- A text on one line as it is **written between quotes**. -/
def quotedLine (single : Bool) (cs : List Char) : List Char :=
  quote single :: (cs.flatMap (quotedChar single) ++ [quote single])

section

variable {single : Bool} {cs tail text gaps : List Char} {index line column : Nat}

/-- In single quotes only quotes are escaped. -/
theorem quotedChar_of_ne {c : Char} (hsingle : c ≠ '\'') (hdouble : c ≠ '"') (hback : c ≠ '\\') :
    quotedChar single c = [c] := by
  simp [quotedChar, hsingle, hdouble, hback]

/-- What is escaped by a backslash stands for itself. -/
theorem escape?_of_quoted {c : Char} (h : c = '"' ∨ c = '\\') :
    escape? (c :: tail) = some (c, 1) ∧ isBreak c = false := by
  rcases h with rfl | rfl <;> exact ⟨rfl, rfl⟩

/-- A gap between quotes is kept. -/
theorem quotedFrom_gap {c : Char} (h : isGap c = true) (fuel : Nat) :
    quotedFrom single (fuel + 1) { text, gaps } ⟨c :: tail, index, line, column⟩ =
      quotedFrom single fuel { text, gaps := c :: gaps }
        ⟨tail, index + 1, line, column + 1⟩ := by
  simp only [quotedFrom, h, if_true, Folding.addGap, Cursor.next, Bool.false_eq_true, if_false]

/-- **A character of a word between quotes** is taken into the text as it was. -/
theorem quotedFrom_char {c : Char} (hgap : isGap c = false) (hbreak : isBreak c = false)
    (hcolumn : 0 < column) (fuel : Nat) :
    quotedFrom single (fuel + 1) { text, gaps }
        ⟨quotedChar single c ++ tail, index, line, column⟩ =
      quotedFrom single fuel { text := c :: (gaps ++ text) }
        ⟨tail, index + (quotedChar single c).length, line,
          column + (quotedChar single c).length⟩ := by
  have hmark : (column == 0) = false := beq_false_of_ne (Nat.pos_iff_ne_zero.mp hcolumn)
  cases single with
  | true =>
      by_cases hc : c = '\''
      · subst hc
        simp [quotedFrom, quotedChar, hgap, hbreak, Cursor.atDocumentMark, hmark, Cursor.skip,
          Cursor.next, Folding.joined]
      · simp [quotedFrom, quotedChar, hc, hgap, hbreak, Cursor.atDocumentMark, hmark, Cursor.next,
          Folding.joined]
  | false =>
      by_cases hc : c = '"' ∨ c = '\\'
      · have hback : isGap '\\' = false ∧ isBreak '\\' = false := ⟨rfl, rfl⟩
        simp [quotedFrom, quotedChar, hc, hback, hbreak, escape?_of_quoted hc,
          Cursor.atDocumentMark, hmark, Cursor.skip, Cursor.next, Folding.joined]
      · obtain ⟨hquote, hback⟩ := not_or.mp hc
        simp [quotedFrom, quotedChar, hquote, hback, hgap, hbreak, Cursor.atDocumentMark, hmark,
          Cursor.next, Folding.joined]

/-- The closing quote, behind which no other one stands. -/
theorem quotedFrom_close (hcolumn : 0 < column) (htail : tail.head? ≠ some '\'') (fuel : Nat) :
    quotedFrom single (fuel + 1) { text, gaps }
        ⟨quote single :: tail, index, line, column⟩ =
      .ok (gaps ++ text, ⟨tail, index + 1, line, column + 1⟩) := by
  have hmark : (column == 0) = false := beq_false_of_ne (Nat.pos_iff_ne_zero.mp hcolumn)
  cases single with
  | true =>
      have hquote : isGap '\'' = false ∧ isBreak '\'' = false := ⟨rfl, rfl⟩
      cases tail with
      | nil =>
          simp [quotedFrom, quote, hquote, Cursor.atDocumentMark, hmark, Cursor.next,
            Folding.joined]
      | cons c tail =>
          have hc : c ≠ '\'' := fun hc => htail (congrArg some hc)
          simp [quotedFrom, quote, hquote, hc, Cursor.atDocumentMark, hmark, Cursor.next,
            Folding.joined]
  | false =>
      have hquote : isGap '"' = false ∧ isBreak '"' = false := ⟨rfl, rfl⟩
      simp [quotedFrom, quote, hquote, Cursor.atDocumentMark, hmark, Cursor.next, Folding.joined]

/-- **What stands between quotes** on one line is taken up to the closing quote. The induction is on
the text. -/
theorem quotedFrom_append (h : ∀ c ∈ cs, isBreak c = false) (hcolumn : 0 < column)
    (htail : tail.head? ≠ some '\'') (fuel : Nat) :
    quotedFrom single (cs.length + (fuel + 1)) { text, gaps }
        ⟨cs.flatMap (quotedChar single) ++ quote single :: tail, index, line, column⟩ =
      .ok (cs.reverse ++ gaps ++ text,
        ⟨tail, index + (cs.flatMap (quotedChar single)).length + 1, line,
          column + (cs.flatMap (quotedChar single)).length + 1⟩) := by
  induction cs generalizing text gaps index column with
  | nil =>
      simpa using quotedFrom_close hcolumn htail fuel
  | cons c cs ih =>
      obtain ⟨hbreak, hcs⟩ := List.forall_mem_cons.mp h
      have hlength : (c :: cs).length + (fuel + 1) = cs.length + (fuel + 1) + 1 := by
        rw [List.length_cons]
        omega
      rw [hlength, List.flatMap_cons, List.append_assoc]
      cases hgap : isGap c with
      | true =>
          have hwritten : quotedChar single c = [c] := by
            refine quotedChar_of_ne ?_ ?_ ?_ <;> rintro rfl <;> cases hgap
          rw [hwritten, List.singleton_append, quotedFrom_gap hgap, ih hcs (Nat.succ_pos _)]
          simp only [List.reverse_cons, List.append_assoc, List.singleton_append, List.length_cons]
          congr 4 <;> omega
      | false =>
          rw [quotedFrom_char hgap hbreak hcolumn, ih hcs (Nat.add_pos_left hcolumn _)]
          simp only [List.reverse_cons, List.append_assoc, List.singleton_append, List.append_nil,
            List.length_append]
          congr 4 <;> omega

/-- A text is never shorter between quotes. -/
theorem length_le_quoted (cs : List Char) :
    cs.length ≤ (cs.flatMap (quotedChar single)).length := by
  induction cs with
  | nil => exact Nat.zero_le _
  | cons c cs ih =>
      have hone : 1 ≤ (quotedChar single c).length := by
        unfold quotedChar
        split <;> split <;> simp
      rw [List.flatMap_cons, List.length_append, List.length_cons]
      omega

/-- **A scalar between quotes on one line** is read with the characters that it stands for. -/
theorem quotedScalar_of_line (h : ∀ c ∈ cs, isBreak c = false) (htail : tail.head? ≠ some '\'') :
    quotedScalar single ⟨quotedLine single cs ++ tail, index, line, column⟩ =
      .ok (String.ofList cs, ⟨tail, index + (quotedLine single cs).length, line,
        column + (quotedLine single cs).length⟩) := by
  have hline : quotedLine single cs ++ tail =
      quote single :: (cs.flatMap (quotedChar single) ++ quote single :: tail) := by
    simp [quotedLine]
  have hlength : (quotedLine single cs).length =
      (cs.flatMap (quotedChar single)).length + 2 := by
    simp [quotedLine]
  obtain ⟨extra, hextra⟩ := Nat.exists_eq_add_of_le (@length_le_quoted single cs)
  have hfuel : (quotedLine single cs ++ tail).length + 1 =
      cs.length + (extra + tail.length + 2 + 1) := by
    rw [List.length_append, hlength, hextra]
    omega
  have hplace : ∀ n, n + 1 + (cs.flatMap (quotedChar single)).length + 1 =
      n + (quotedLine single cs).length := by
    intro n
    rw [hlength]
    omega
  rw [quotedScalar]
  dsimp only
  rw [hfuel, hline, Cursor.next, quotedFrom_append h (Nat.succ_pos _) htail, hplace, hplace]
  simp [bind, Except.bind, pure, Except.pure]

end

end GeoBench.Yaml
