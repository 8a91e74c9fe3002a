import GeoBench.Proofs.Yaml.FlatMappings
import GeoBench.Proofs.Yaml.NumberMeaning
import GeoBench.Report

/-!
# Reading a record

The record of a report is a data file: each of its lines names a field and has a plain scalar, a
whole number in digits or a number as data files write it. So it holds one mapping with the seven
names, and each name has the very value of the field, also one that is not finite.

## From lines to fields

That a record is a file of named scalars is shown from its text (`Report.toRecord_eq`), and what
such a file holds is known for all of them (`GeoBench.Proofs.Yaml.FlatMappings`). What is left is
about single fields: each name may stand in front of a line, no two names are the same, and each
scalar means its number.

## Main results

* `isPlainLine_recordNumber` — every number is written as a plain scalar on one line.
* `Report.read_toRecord` — the mapping that a record holds.
-/

namespace GeoBench

open GeoBench.Number GeoBench.Yaml
open scoped GeoBench.Text.Characters

/-! ### Scalars of numbers -/

/-- A word of characters that may stand in a data file, without a colon, is a plain scalar. -/
theorem isPlainLine_of_word {c : Char} {cs : List Char} (hopens : opensPlain c cs)
    (h : ∀ d ∈ c :: cs, isGap d = false ∧ isBreak d = false ∧ d ≠ ':' ∧ isAllowed d) :
    IsPlainLine (c :: cs) :=
  ⟨hopens, goesOn_of_word fun d hd => ⟨(h d hd).1, (h d hd).2.1, (h d hd).2.2.1⟩,
    fun d hd => (h d hd).2.2.2⟩

/-- A digit is a character of names, and none with a meaning of its own. -/
theorem isNameChar_of_isDigit {c : Char} (h : c.isDigit) : isNameChar c ∧ c ≠ '-' := by
  refine ⟨by simp [isNameChar, Char.isAlphanum, h], ?_⟩
  rintro rfl
  cases h

/-- The characters of numerals may stand in a plain scalar. -/
theorem numeralChar_spec {c : Char} (h : IsNumeralChar c) :
    isGap c = false ∧ isBreak c = false ∧ c ≠ ':' ∧ isAllowed c := by
  rcases h with hdigit | hother
  · exact (isNameChar_spec (isNameChar_of_isDigit hdigit).1).1
  · revert c
    decide

/-- A numeral with or without a minus sign is a plain scalar. -/
theorem isPlainLine_of_numeral {c : Char} {cs : List Char} (hc : c.isDigit)
    (h : ∀ d ∈ c :: cs, IsNumeralChar d) :
    IsPlainLine (c :: cs) ∧ IsPlainLine ('-' :: c :: cs) := by
  obtain ⟨hname, hne⟩ := isNameChar_of_isDigit hc
  obtain ⟨⟨hgap, hbreak, -⟩, hindicator⟩ := isNameChar_spec hname
  have hchars : ∀ d ∈ c :: cs, isGap d = false ∧ isBreak d = false ∧ d ≠ ':' ∧ isAllowed d :=
    fun d hd => numeralChar_spec (h d hd)
  refine ⟨isPlainLine_of_word ?_ hchars, isPlainLine_of_word ?_ ?_⟩
  · simp [opensPlain, hgap, hbreak, (hindicator hne).1]
  · simp [opensPlain, atGapOrEnd, hgap, hbreak]
  · rw [List.forall_mem_cons]
    exact ⟨by decide, hchars⟩

/-- A whole number is a plain scalar. -/
theorem isPlainLine_toString (n : Nat) : IsPlainLine (toString n).toList := by
  have hdigits := isDigit_toDigits n
  have htext : (toString n).toList = Nat.toDigits 10 n := Nat.toList_repr
  rw [htext]
  obtain ⟨c, cs, hcs⟩ := List.exists_cons_of_ne_nil (@Nat.toDigits_ne_nil n 10)
  rw [hcs] at hdigits ⊢
  exact (isPlainLine_of_numeral (hdigits c List.mem_cons_self)
    fun d hd => .inl (hdigits d hd)).1

/-- **Every number** is written in a record as a plain scalar. -/
theorem isPlainLine_recordNumber (x : Binary64) :
    IsPlainLine (Report.recordNumber x).toList := by
  cases x with
  | nan => decide
  | infinite negative => cases negative <;> decide
  | finite negative rank =>
      have hfits := Laid.fits_ofRank rank
      obtain ⟨hchars, -⟩ := hfits.chars_spec (.inl rfl)
      obtain ⟨c, cs, hcs, hc⟩ := hfits.exists_first ""
      rw [hcs] at hchars
      obtain ⟨hplain, hnegative⟩ := isPlainLine_of_numeral hc hchars
      rw [Report.recordNumber, Laid.dataText_eq, hcs]
      cases negative with
      | false => exact hplain
      | true => exact hnegative

/-! ### Records -/

namespace Report

/-- The value of a field in a record. -/
def Field.recordValue : Field → Value
  | .count n => .number (.whole n)
  | .number x => .number (.float x)

/-- The line of a field. -/
def recordLine (field : String × Field) : NamedScalar :=
  ⟨field.1, .plain (field.2.text recordNumber)⟩

/-- The lines of some fields, one after another. The induction is on the fields. -/
theorem toList_join_lines (fs : List (String × Field)) :
    (String.join (fs.map fun (name, f) => name ++ ": " ++ f.text recordNumber ++ "\n")).toList =
      (fs.map recordLine).flatMap NamedScalar.characters := by
  induction fs with
  | nil => rfl
  | cons field fs ih =>
      have hline : (recordLine field).characters =
          (field.1 ++ ": " ++ field.2.text recordNumber ++ "\n").toList := by
        simp [recordLine, NamedScalar.characters, WrittenScalar.characters, String.toList_append]
      rw [List.map_cons, List.map_cons, List.flatMap_cons, hline, ← ih, String.join_cons,
        String.toList_append]

/-- A record is the file of its lines. -/
theorem toRecord_eq (r : Report) : r.toRecord = renderLines (r.fields.map recordLine) := by
  rw [renderLines, ← toList_join_lines, String.ofList_toList]
  rfl

/-- The names of the fields. -/
def names : List String :=
  ["num_composed_posts", "num_received_notifications", "num_inconsistencies",
    "per_inconsistencies", "avg_compose_post_duration_ms", "avg_write_post_duration_ms",
    "avg_queue_duration_ms"]

/-- The fields of a report are listed by their names. -/
@[simp] theorem map_fst_fields (r : Report) : r.fields.map Prod.fst = names := rfl

/-- No two fields have one name. -/
theorem nodup_names : names.Nodup := by decide

/-- Each name is a text, and it can stand in front of a line. -/
theorem names_spec : ∀ name ∈ names, Value.ofPlain name = .ok (.string name) ∧
    (∀ c ∈ name.toList, isNameChar c) ∧ name.toList.head?.any (· != '-') ∧
      name.length ≤ Lexer.longestKey := by
  decide +kernel

section

variable {r : Report} {field : String × Field}

/-- The line of a field is well-formed. -/
theorem fits_recordLine (h : field ∈ r.fields) : (recordLine field).Fits := by
  have hname : field.1 ∈ names := map_fst_fields r ▸ List.mem_map_of_mem h
  obtain ⟨-, hchars, hfirst, hshort⟩ := names_spec _ hname
  have hscalar : IsPlainLine (field.2.text recordNumber).toList := by
    cases field.2 with
    | count n => exact isPlainLine_toString n
    | number x => exact isPlainLine_recordNumber x
  refine ⟨hchars, ?_, hshort, hscalar⟩
  change ∃ c cs, field.1.toList = c :: cs ∧ c ≠ '-'
  cases hs : field.1.toList with
  | nil =>
      rw [hs] at hfirst
      cases hfirst
  | cons c cs =>
      rw [hs] at hfirst
      exact ⟨c, cs, rfl, by simpa using hfirst⟩

/-- A number is written in a record as it is in every data file. -/
theorem recordNumber_eq (x : Binary64) : recordNumber x = Value.numberText (.float x) := by
  cases x <;> rfl

/-- What the scalar of a field means, if its counter is a word. -/
theorem value_recordLine (hword : ∀ n, field.2 = .count n → n ≤ Binary64.maxWord) :
    (recordLine field).scalar.value = .ok field.2.recordValue := by
  change Value.ofPlain (field.2.text recordNumber) = .ok field.2.recordValue
  generalize field.2 = f at hword
  cases f with
  | count n =>
      have hlow : -(twoTo 63 : Int) ≤ n := (Int.neg_nonpos_of_nonneg (Int.natCast_nonneg _)).trans
        (Int.natCast_nonneg n)
      have hhigh : (n : Int) < twoTo 64 :=
        Int.ofNat_lt.mpr ((hword n rfl).trans_lt (by decide +kernel))
      exact Value.ofPlain_toString hlow hhigh
  | number x =>
      rw [Field.text, recordNumber_eq]
      exact Value.ofPlain_numberText x

/-- **The record of a report holds its fields**, each with its own value. -/
theorem read_toRecord
    (hwords : ∀ field ∈ r.fields, ∀ n, field.2 = .count n → n ≤ Binary64.maxWord) :
    Document.read r.toRecord =
      .ok (.mapping (r.fields.map fun field => (.string field.1, field.2.recordValue))) := by
  have hname : ∀ field ∈ r.fields, field.1 ∈ names :=
    fun field h => map_fst_fields r ▸ List.mem_map_of_mem h
  rw [toRecord_eq]
  exact Document.read_renderLines (List.cons_ne_nil _ _) (fun field => fits_recordLine)
    (fun field h => (names_spec _ (hname field h)).1)
    (fun field h => value_recordLine (hwords field h)) nodup_names

end

end Report

end GeoBench
