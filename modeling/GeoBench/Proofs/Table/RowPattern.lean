import GeoBench.Table.Row

/-!
# The pattern of a data row

A data row is told from other lines by a pattern: four columns, each as long as it can be and closed
by a bar, then a numeral between blanks, and one more bar. The pattern is matched with the rule that
the **first** match counts: from the left, and for a repetition the longest stretch before the
shorter ones.

## Backtracking

A pattern is matched at a position by listing **all** outcomes in the order in which a backtracking
matcher would come to them; the first one is what it finds. A repetition lists the longest stretch
first. So that a matcher may give up a stretch for a shorter one is part of the list, and nothing
has to be said of how it searches. What an outcome is does not depend on the order, and the lemmas
about `outcomes` tell the members of the list; which of them comes first is told where it matters.

## Characters

The classes of the pattern are told by their Unicode definitions: a digit is any decimal digit, and
blanks are all characters of that property. Both are tables of ranges, which the recogniser shares
with the reader of cells.

## Main results

* `mem_outcomes_many`, `mem_outcomes_append` — where a repetition and a sequence lead.
* `Pattern.capture?_of_start` — a pattern that begins at the start of a line is tried there only.
-/

namespace GeoBench.Table

open GeoBench.Text

/-- A **class** of characters. -/
inductive CharClass where
  /-- Any character of a line. -/
  | any
  /-- One character. -/
  | only (c : Char)
  /-- A blank. -/
  | blank
  /-- A decimal digit. -/
  | digit
  deriving DecidableEq, Repr

namespace CharClass

/-- Whether a character is in a class. -/
def holds : CharClass → Char → Bool
  | any, c => c != '\n'
  | only d, c => c == d
  | blank, c => isBlank c
  | digit, c => isDecimalDigit c

/-- How a class is written. -/
def text : CharClass → String
  | any => "."
  | only c => if c = '.' then "\\." else c.toString
  | blank => "\\s"
  | digit => "\\d"

end CharClass

/-- A **pattern** with at most one group. -/
inductive Pattern where
  /-- The start of the line. -/
  | start
  /-- The end of the line. -/
  | stop
  /-- One character. -/
  | one (k : CharClass)
  /-- One character if possible. -/
  | optional (k : CharClass)
  /-- As many characters as possible. -/
  | many (k : CharClass)
  /-- As many characters as possible, and at least one. -/
  | several (k : CharClass)
  /-- What is captured. -/
  | group (p : Pattern)
  /-- One pattern and then another one. -/
  | seq (p q : Pattern)
  deriving DecidableEq, Repr

namespace Pattern

instance : Append Pattern := ⟨seq⟩

/-- How a pattern is written. -/
def text : Pattern → String
  | start => "^"
  | stop => "$"
  | one k => k.text
  | optional k => k.text ++ "?"
  | many k => k.text ++ "*"
  | several k => k.text ++ "+"
  | group p => "(" ++ p.text ++ ")"
  | seq p q => p.text ++ q.text

end Pattern

/-- A **position** in a line: how many characters are passed, what is left, and what was
captured. -/
structure Position where
  passed : Nat
  rest : List Char
  captured? : Option (List Char)
  deriving DecidableEq, Repr

namespace Pattern

/-- The positions behind a repetition, that of the longest stretch first. -/
def stretches (k : CharClass) (captured? : Option (List Char)) (passed : Nat) :
    List Char → List Position
  | [] => [⟨passed, [], captured?⟩]
  | c :: cs =>
    (if k.holds c then stretches k captured? (passed + 1) cs else []) ++
      [⟨passed, c :: cs, captured?⟩]

/-- The position behind one character, if there is one of the class. -/
def next (k : CharClass) (s : Position) : List Position :=
  match s.rest with
  | [] => []
  | c :: cs => if k.holds c then [⟨s.passed + 1, cs, s.captured?⟩] else []

/-- The positions that a pattern can lead to from a position, the preferred ones first. -/
def outcomes : Pattern → Position → List Position
  | start, s => if s.passed = 0 then [s] else []
  | stop, s => if s.rest = [] then [s] else []
  | one k, s => next k s
  | optional k, s => next k s ++ [s]
  | many k, s => stretches k s.captured? s.passed s.rest
  | several k, s => (next k s).flatMap fun t => stretches k t.captured? t.passed t.rest
  | group p, s =>
    (outcomes p s).map fun t => { t with captured? := some (s.rest.take (t.passed - s.passed)) }
  | seq p q, s => (outcomes p s).flatMap (outcomes q)

/-- The positions in a line, from the left. -/
def positions (line : List Char) : List Position :=
  (List.range (line.length + 1)).map fun n => ⟨n, line.drop n, none⟩

/-- What the **first match** of a pattern in a line captures. -/
def capture? (p : Pattern) (line : List Char) : Option (List Char) :=
  ((positions line).flatMap p.outcomes).head?.bind Position.captured?

end Pattern

/-- A column and its bar. -/
def column : Pattern := .many .any ++ .one (.only bar)

/-- A numeral: digits, at most one point, digits. -/
def numeral : Pattern := .several .digit ++ (.optional (.only '.') ++ .many .digit)

/-- The end of a data row: a numeral between blanks, a bar, and whatever follows. -/
def valueColumn : Pattern :=
  .many .blank ++ (.group numeral ++ (.many .blank ++ (.one (.only bar) ++ (.many .any ++ .stop))))

/-- The **pattern of a data row**. -/
def rowPattern : Pattern :=
  .start ++ (column ++ (column ++ (column ++ (column ++ valueColumn))))

/-- The pattern of a data row as it is written. -/
theorem rowPattern_text : rowPattern.text = "^.*│.*│.*│.*│\\s*(\\d+\\.?\\d*)\\s*│.*$" := by
  decide

/-! ### Where a pattern leads -/

namespace Position

/-- A position behind another one, with a stretch of the line between them. -/
def After (s : Position) (stretch : List Char) (t : Position) : Prop :=
  s.rest = stretch ++ t.rest ∧ t.passed = s.passed + stretch.length ∧ t.captured? = s.captured?

/-- Nothing lies between a position and itself. -/
theorem After.refl (s : Position) : s.After [] s :=
  ⟨rfl, rfl, rfl⟩

/-- What lies between positions is put together. -/
theorem After.trans {s t u : Position} {x y : List Char} (h₁ : s.After x t) (h₂ : t.After y u) :
    s.After (x ++ y) u := by
  obtain ⟨hrest₁, hpassed₁, hcaptured₁⟩ := h₁
  obtain ⟨hrest₂, hpassed₂, hcaptured₂⟩ := h₂
  refine ⟨?_, ?_, hcaptured₂.trans hcaptured₁⟩
  · rw [hrest₁, hrest₂, List.append_assoc]
  · rw [hpassed₂, hpassed₁, List.length_append, Nat.add_assoc]

/-- There is a position behind every stretch that comes next. -/
theorem exists_after {s : Position} {x y : List Char} (h : s.rest = x ++ y) :
    ∃ t, s.After x t ∧ t.rest = y :=
  ⟨⟨s.passed + x.length, y, s.captured?⟩, ⟨h, rfl, rfl⟩, rfl⟩

/-- A stretch between two positions can be cut anywhere. -/
theorem After.split {s u : Position} {x y : List Char} (h : s.After (x ++ y) u) :
    ∃ t, s.After x t ∧ t.After y u := by
  obtain ⟨hrest, hpassed, hcaptured⟩ := h
  refine ⟨⟨s.passed + x.length, y ++ u.rest, s.captured?⟩, ⟨?_, rfl, rfl⟩, ⟨rfl, ?_, hcaptured⟩⟩
  · rw [hrest, List.append_assoc]
  · rw [hpassed, List.length_append, Nat.add_assoc]

end Position

namespace Pattern

/-- One character of a class is passed. -/
theorem mem_outcomes_one {k : CharClass} {s t : Position} :
    t ∈ (one k).outcomes s ↔ ∃ c, k.holds c ∧ s.After [c] t := by
  obtain ⟨passed, rest, captured?⟩ := s
  cases rest with
  | nil => simp [outcomes, next, Position.After]
  | cons c cs =>
      simp only [outcomes, next]
      by_cases hc : k.holds c = true
      · rw [if_pos hc, List.mem_singleton]
        constructor
        · rintro rfl
          exact ⟨c, hc, rfl, rfl, rfl⟩
        · rintro ⟨d, -, hrest, hpassed, hcaptured⟩
          cases t
          simp_all
      · rw [if_neg hc]
        constructor
        · intro h
          cases h
        · rintro ⟨d, hd, hrest, -, -⟩
          simp only [List.singleton_append, List.cons.injEq] at hrest
          exact absurd (hrest.1 ▸ hd) hc

/-- A repetition leads behind every stretch of its class. -/
theorem mem_outcomes_many {k : CharClass} {s t : Position} :
    t ∈ (many k).outcomes s ↔ ∃ x, (∀ c ∈ x, k.holds c) ∧ s.After x t := by
  obtain ⟨passed, rest, captured?⟩ := s
  simp only [outcomes]
  induction rest generalizing passed with
  | nil =>
      rw [stretches, List.mem_singleton]
      constructor
      · rintro rfl
        exact ⟨[], by simp, Position.After.refl _⟩
      · rintro ⟨x, -, hrest, hpassed, hcaptured⟩
        obtain ⟨rfl, hnil⟩ := List.append_eq_nil_iff.mp hrest.symm
        cases t
        simp_all
  | cons c cs ih =>
      rw [stretches, List.mem_append, List.mem_singleton]
      constructor
      · rintro (h | rfl)
        · by_cases hc : k.holds c = true
          · rw [if_pos hc, ih] at h
            obtain ⟨x, hx, hafter⟩ := h
            have hstep : Position.After ⟨passed, c :: cs, captured?⟩ [c]
                ⟨passed + 1, cs, captured?⟩ := ⟨rfl, rfl, rfl⟩
            refine ⟨c :: x, ?_, hstep.trans hafter⟩
            intro d hd
            rcases List.mem_cons.mp hd with rfl | hd
            · exact hc
            · exact hx d hd
          · rw [if_neg hc] at h
            cases h
        · exact ⟨[], by simp, Position.After.refl _⟩
      · rintro ⟨x, hx, hrest, hpassed, hcaptured⟩
        cases x with
        | nil =>
            right
            cases t
            simp_all
        | cons d x =>
            left
            simp only [List.cons_append, List.cons.injEq] at hrest
            obtain ⟨rfl, hrest⟩ := hrest
            rw [if_pos (hx c List.mem_cons_self), ih]
            refine ⟨x, fun d hd => hx d (List.mem_cons_of_mem c hd), hrest, ?_, hcaptured⟩
            show t.passed = passed + 1 + x.length
            have hall : t.passed = passed + (x.length + 1) := hpassed
            omega

/-- None or one is passed. -/
theorem mem_outcomes_optional {k : CharClass} {s t : Position} :
    t ∈ (optional k).outcomes s ↔ ∃ x, (x = [] ∨ ∃ c, k.holds c ∧ x = [c]) ∧ s.After x t := by
  have hone : t ∈ next k s ↔ ∃ c, k.holds c ∧ s.After [c] t := mem_outcomes_one
  rw [outcomes, List.mem_append, List.mem_singleton, hone]
  constructor
  · rintro (⟨c, hc, h⟩ | rfl)
    · exact ⟨[c], .inr ⟨c, hc, rfl⟩, h⟩
    · exact ⟨[], .inl rfl, Position.After.refl _⟩
  · rintro ⟨x, rfl | ⟨c, hc, rfl⟩, h⟩
    · obtain ⟨hrest, hpassed, hcaptured⟩ := h
      right
      cases s
      cases t
      simp_all
    · exact .inl ⟨c, hc, h⟩

/-- At least one is passed. -/
theorem mem_outcomes_several {k : CharClass} {s t : Position} :
    t ∈ (several k).outcomes s ↔ ∃ x, x ≠ [] ∧ (∀ c ∈ x, k.holds c) ∧ s.After x t := by
  have hone : ∀ u : Position, u ∈ next k s ↔ ∃ c, k.holds c ∧ s.After [c] u :=
    fun u => mem_outcomes_one
  have hmany : ∀ u : Position, t ∈ stretches k u.captured? u.passed u.rest ↔
      ∃ x, (∀ c ∈ x, k.holds c) ∧ u.After x t := fun u => mem_outcomes_many
  simp only [outcomes, List.mem_flatMap, hone, hmany]
  constructor
  · rintro ⟨u, ⟨c, hc, hu⟩, x, hx, ht⟩
    refine ⟨c :: x, List.cons_ne_nil c x, ?_, hu.trans ht⟩
    intro d hd
    rcases List.mem_cons.mp hd with rfl | hd
    · exact hc
    · exact hx d hd
  · rintro ⟨x, hne, hx, h⟩
    obtain ⟨c, x, rfl⟩ := List.exists_cons_of_ne_nil hne
    obtain ⟨u, hu, ht⟩ := Position.After.split (x := [c]) (y := x) h
    exact ⟨u, ⟨c, hx c List.mem_cons_self, hu⟩, x,
      fun d hd => hx d (List.mem_cons_of_mem c hd), ht⟩

/-- A sequence leads where its second part leads from where its first part leads. -/
theorem mem_outcomes_append {p q : Pattern} {s t : Position} :
    t ∈ (p ++ q).outcomes s ↔ ∃ u ∈ p.outcomes s, t ∈ q.outcomes u :=
  List.mem_flatMap

/-- The end is where nothing is left. -/
theorem mem_outcomes_stop {s t : Position} : t ∈ stop.outcomes s ↔ s.rest = [] ∧ t = s := by
  rw [outcomes]
  split <;> simp_all

/-- A group leads where its pattern leads, and keeps the stretch between. -/
theorem mem_outcomes_group {p : Pattern} {s t : Position}
    (hp : ∀ u ∈ p.outcomes s, ∃ x, s.After x u) :
    t ∈ (group p).outcomes s ↔
      ∃ u ∈ p.outcomes s, ∃ x, s.After x u ∧ t = { u with captured? := some x } := by
  rw [outcomes, List.mem_map]
  have htake : ∀ u x, s.After x u → s.rest.take (u.passed - s.passed) = x := by
    rintro u x ⟨hrest, hpassed, -⟩
    rw [hpassed, Nat.add_sub_cancel_left, hrest, List.take_left]
  constructor
  · rintro ⟨u, hu, rfl⟩
    obtain ⟨x, hx⟩ := hp u hu
    exact ⟨u, hu, x, hx, by rw [htake u x hx]⟩
  · rintro ⟨u, hu, x, hx, rfl⟩
    exact ⟨u, hu, by rw [htake u x hx]⟩

/-! ### The first match -/

/-- What a pattern captures that begins at the start of the line. -/
theorem capture?_of_start (p : Pattern) (line : List Char) :
    (start ++ p).capture? line =
      (p.outcomes ⟨0, line, none⟩).head?.bind Position.captured? := by
  have hfrom : ∀ n, (start ++ p).outcomes ⟨n + 1, line.drop (n + 1), none⟩ = [] := fun n => rfl
  have hzero : (start ++ p).outcomes ⟨0, line, none⟩ = p.outcomes ⟨0, line, none⟩ :=
    List.flatMap_singleton _ _
  rw [capture?, positions, List.range_succ_eq_map, List.map_cons, List.map_map, List.flatMap_cons,
    List.drop_zero, hzero, List.flatMap_map]
  have hrest : (List.range line.length).flatMap
      (fun n => (start ++ p).outcomes ⟨n + 1, line.drop (n + 1), none⟩) = [] :=
    List.flatMap_eq_nil_iff.mpr fun n _ => hfrom n
  show ((p.outcomes ⟨0, line, none⟩ ++ (List.range line.length).flatMap
    fun n => (start ++ p).outcomes ⟨n + 1, line.drop (n + 1), none⟩)).head?.bind _ = _
  rw [hrest, List.append_nil]

end Pattern

end GeoBench.Table
