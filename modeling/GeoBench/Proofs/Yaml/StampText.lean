import GeoBench.Machine.Clock
import GeoBench.Proofs.Yaml.EntryLines
import GeoBench.Proofs.Yaml.NumberMeaning

/-!
# Time stamps in a data file

A time stamp is made of digits, dashes, colons and an underscore. Each of these could mislead a
reader of a data file: digits are a number, a dash in front is an item, a colon is the end of a key,
and a colon between numbers was once a way to write a number to the base sixty. None of them does so
in a stamp. The year is followed by a dash, so it is no number; and behind every colon there is a
digit, so it ends no key.

Hence a stamp is written without quotes, and a reader who looks for the line of a stamp finds just
its characters there.

## Main results

* `Value.ofPlain_of_dashed` — digits with a dash behind them are a text of their own.
* `Value.isPlain_stampChars` — every time stamp is written plainly.
-/

namespace GeoBench.Yaml.Value

open GeoBench.Number GeoBench.Machine
open scoped GeoBench.Text.Characters

/-! ### What is read -/

section

variable {whole rest : List Char}

/-- Digits with a dash behind them are no numeral, if no exponent can make one of them. -/
theorem readNumeral_of_dashed (h : ∀ c ∈ whole ++ '-' :: rest, c ≠ 'e' ∧ c ≠ 'E') :
    readNumeral (whole ++ '-' :: rest) = none := by
  rw [← Option.not_isSome_iff_eq_none]
  intro hsome
  rcases isDigit_or_point_of_readNumeral hsome h '-'
    (List.mem_append_right _ List.mem_cons_self) with hdash | hdash <;> cases hdash

/-- What begins with a digit has no sign in front. -/
theorem startsWithSign_of_isDigit {c : Char} {cs : List Char} (h : c.isDigit) :
    startsWithSign (c :: cs) = false := by
  refine startsWithSign_of_ne ?_ ?_ <;> rintro more heq <;> cases heq <;> cases h

/-- What begins with a digit and is no numeral is no number with a fraction. -/
theorem float?_of_readNumeral {s : String} {c : Char} {cs : List Char} (hs : s.toList = c :: cs)
    (hc : c.isDigit) (hnone : readNumeral s.toList = none) : float? s = none := by
  have hfirst : ∀ sign, sign.isDigit = false → ∀ more, s.toList ≠ sign :: more := by
    intro sign hsign more hmore
    rw [(List.cons.inj (hs.symm.trans hmore)).1, hsign] at hc
    cases hc
  have hread : readSignedNumeral s.toList = none := by
    rw [readSignedNumeral, hnone]
    · rfl
    · exact hfirst '-' rfl
    · exact hfirst '+' rfl
  have hword : ∀ word ∈ [".inf", ".Inf", ".INF", "-.inf", "-.Inf", "-.INF", ".nan", ".NaN", ".NAN"],
      s ≠ word := by
    have hheads : ∀ word ∈ [".inf", ".Inf", ".INF", "-.inf", "-.Inf", "-.INF", ".nan", ".NaN",
        ".NAN"], ∀ d ∈ word.toList.head?, ¬ d.isDigit := by decide
    rintro word hmem rfl
    exact hheads s hmem c (by rw [hs]; rfl) hc
  simp only [List.forall_mem_cons, List.not_mem_nil, false_implies, implies_true, and_true] at hword
  have hlists : [".inf".toList, ".Inf".toList, ".INF".toList].contains s.toList = false := by
    rw [← Bool.not_eq_true, List.contains_iff_mem]
    simp only [List.mem_cons, List.not_mem_nil, or_false, String.toList_inj, hword,
      not_false_eq_true]
  unfold float?
  dsimp only
  split
  next => rfl
  next body hsome =>
    split at hsome
    next rest heq => exact absurd heq (hfirst '+' rfl rest)
    next =>
      obtain rfl := Option.some.inj hsome
      rw [hlists, hread]
      simp [hword]

/-- **Digits with a dash behind them** are a text of their own, if none of the letters that numbers
are written with is there. -/
theorem ofPlain_of_dashed {s : String} (hs : s.toList = whole ++ '-' :: rest) (hne : whole ≠ [])
    (hwhole : ∀ c ∈ whole, c.isDigit) (hletter : ∀ c ∈ s.toList, c ∉ ['x', 'o', 'b', 'e', 'E']) :
    ofPlain s = .ok (.string s) ∧ isPaddedDigits s.toList = false := by
  obtain ⟨c, cs, rfl⟩ := List.exists_cons_of_ne_nil hne
  have hc : c.isDigit := hwhole c List.mem_cons_self
  have hbegins : s.toList = c :: (cs ++ '-' :: rest) := hs
  have hdash : '-' ∈ s.toList := by
    rw [hs]
    exact List.mem_append_right _ List.mem_cons_self
  obtain ⟨hempty, hnull, hbool⟩ := words_spec hbegins (.inl hc)
  have hsign : startsWithSign s.toList = false := by
    rw [hbegins]
    exact startsWithSign_of_isDigit hc
  obtain ⟨hwholeOf, hpadded⟩ := wholeOf_eq_none (.inl rfl) hsign
    (fun d hd hmem => hletter d hd (by simp only [List.mem_cons] at hmem ⊢; tauto))
    ⟨'-', hdash, rfl⟩
  have hnumeral : readNumeral s.toList = none := by
    rw [hs]
    refine readNumeral_of_dashed fun d hd => ?_
    have hnot := hletter d (hs ▸ hd)
    simp only [List.mem_cons, not_or] at hnot
    exact ⟨hnot.2.2.2.1, hnot.2.2.2.2.1⟩
  refine ⟨?_, hpadded⟩
  simp [ofPlain, hempty, hnull, hbool, hwholeOf, hpadded, float?_of_readNumeral hbegins hc hnumeral]

end

/-! ### What is written -/

/-- The characters of time stamps. -/
def stampLetters : List Char :=
  "0123456789-_:".toList

/-- Characters of time stamps that end with a digit hold nothing that calls for quotes. The
induction is on what is left; a colon has another one of these characters behind it. -/
theorem traitsFrom_of_stampLetters {t : Traits} {before : Char} (cs : List Char)
    (hall : ∀ c ∈ cs, c ∈ stampLetters) (hlast : ∀ c ∈ cs.getLast?, c ≠ ':') :
    traitsFrom t (some before) cs = t := by
  have hletter : ∀ c ∈ stampLetters, c ≠ '#' ∧ c ≠ ' ' ∧ isPrintable c = true ∧
      isBreak c = false ∧ isGap c = false := by decide +kernel
  induction cs generalizing before with
  | nil => rfl
  | cons c rest ih =>
      obtain ⟨hhash, hspace, hprintable, hbreak, -⟩ := hletter c (hall c List.mem_cons_self)
      have hcolon : (c == ':' && atGapOrEnd rest) = false := by
        rcases rest with _ | ⟨d, more⟩
        · simp [hlast c (by simp)]
        · obtain ⟨-, -, -, hbreak, hgap⟩ :=
            hletter d (hall d (List.mem_cons_of_mem _ List.mem_cons_self))
          simp [atGapOrEnd, hbreak, hgap]
      have hbehind : ∀ d ∈ rest.getLast?, d ≠ ':' := by
        rcases rest with _ | ⟨d, more⟩
        · simp
        · intro e he
          exact hlast e (by rwa [List.getLast?_cons_cons])
      rw [traitsFrom]
      simp only [hcolon, hprintable, hbreak, beq_false_of_ne hhash, beq_false_of_ne hspace,
        Bool.false_and, Bool.or_false, Bool.not_true]
      exact ih (fun d hd => hall d (List.mem_cons_of_mem _ hd)) hbehind

/-- Two digits are digits, and characters of time stamps. -/
theorem isDigit_twoDigits (n : Nat) : ∀ c ∈ Clock.twoDigits n, c.isDigit ∧ c ∈ stampLetters := by
  have hall : ∀ d < 10, (Nat.digitChar d).isDigit ∧ Nat.digitChar d ∈ stampLetters := by
    decide +kernel
  intro c hc
  rcases List.mem_pair.mp hc with rfl | rfl <;> exact hall _ (Nat.mod_lt _ (by decide))

/-- Everything in a stamp is one of the characters of time stamps. -/
theorem mem_stampLetters (date : Clock.Date) (time : Nat) :
    ∀ c ∈ Clock.stampChars date time, c ∈ stampLetters := by
  have hdigits : ∀ n, ∀ c ∈ Clock.twoDigits n, c ∈ stampLetters := fun n c hc =>
    (isDigit_twoDigits n c hc).2
  have hmarks : '-' ∈ stampLetters ∧ '_' ∈ stampLetters ∧ ':' ∈ stampLetters := by decide +kernel
  simp only [Clock.stampChars, List.forall_mem_append, List.forall_mem_cons, hmarks, true_and]
  exact ⟨⟨⟨⟨⟨⟨hdigits _, hdigits _⟩, hdigits _⟩, hdigits _⟩, hdigits _⟩, hdigits _⟩, hdigits _⟩

/-- A stamp has the digits of its year in front of a dash. -/
theorem stampChars_eq (date : Clock.Date) (time : Nat) :
    ∃ rest, Clock.stampChars date time =
      (Clock.twoDigits (date.year / 100) ++ Clock.twoDigits date.year) ++ '-' :: rest := by
  refine ⟨Clock.twoDigits date.month ++ '-' :: (Clock.twoDigits date.day ++
    '_' :: (Clock.twoDigits (time / 3600) ++ ':' :: (Clock.twoDigits (time / 60 % 60) ++
      ':' :: Clock.twoDigits (time % 60)))), ?_⟩
  simp only [Clock.stampChars, List.append_assoc, List.cons_append]

/-- A stamp ends with a digit. -/
theorem getLast?_stampChars (date : Clock.Date) (time : Nat) :
    ∀ c ∈ (Clock.stampChars date time).getLast?, c.isDigit := by
  intro c hc
  rw [Clock.stampChars, List.getLast?_append_of_ne_nil _ (by simp)] at hc
  obtain rfl : Nat.digitChar (time % 60 % 10) = c := Option.some.inj hc
  exact (isDigit_twoDigits (time % 60) _ (List.mem_cons_of_mem _ List.mem_cons_self)).1

/-- A digit in front calls for no quotes. -/
theorem traitsFrom_of_isDigit {c : Char} (hc : c.isDigit) (hletter : c ∈ stampLetters)
    (cs : List Char) : traitsFrom {} none (c :: cs) = traitsFrom {} (some c) cs := by
  have hdigits : ∀ d ∈ stampLetters, d.isDigit →
      "#,[]&*!|>'\"%@".toList.contains d = false ∧
        (∀ mark ∈ ['\x60', '\x7b', '\x7d', '?', '-', ':', ' '], (d == mark) = false) ∧
        isPrintable d = true ∧ isBreak d = false := by decide +kernel
  obtain ⟨hmarks, hothers, hprintable, hbreak⟩ := hdigits c hletter hc
  simp only [List.forall_mem_cons, List.not_mem_nil, false_implies, implies_true, and_true]
    at hothers
  rw [traitsFrom]
  simp only [hmarks, hothers, hprintable, hbreak, Bool.or_false, Bool.false_and, Bool.not_true]

/-- Nothing in a stamp calls for quotes. -/
theorem plain_stampChars (date : Clock.Date) (time : Nat) :
    (Shape.of (Clock.stampChars date time)).plain := by
  have hall := mem_stampLetters date time
  have hlast := getLast?_stampChars date time
  obtain ⟨c, d, rest, hstamp, hc⟩ : ∃ c d rest, Clock.stampChars date time = c :: d :: rest ∧
      c.isDigit := ⟨_, _, _, rfl, (isDigit_twoDigits (date.year / 100) _ List.mem_cons_self).1⟩
  rw [hstamp] at hall hlast ⊢
  have hbehind : ∀ e ∈ (d :: rest).getLast?, e ≠ ':' := by
    rintro e he rfl
    cases hlast ':' (by rwa [List.getLast?_cons_cons])
  have htraits : traitsFrom {} none (c :: d :: rest) = {} := by
    rw [traitsFrom_of_isDigit hc (hall c List.mem_cons_self)]
    exact traitsFrom_of_stampLetters _ (fun e he => hall e (List.mem_cons_of_mem _ he)) hbehind
  have hedge : ∀ e ∈ stampLetters, isEdge e = false := by decide +kernel
  have hhead : (c :: d :: rest).head?.any isEdge = false := hedge c (hall c List.mem_cons_self)
  have hend : (c :: d :: rest).getLast?.any isEdge = false := by
    rw [List.getLast?_eq_some_getLast (List.cons_ne_nil _ _)]
    exact hedge _ (hall _ (List.getLast_mem _))
  have hmark : looksLikeMark (c :: d :: rest) = false := by
    have hne : ∀ mark, mark.isDigit = false → (mark == c) = false := by
      rintro mark hmark
      refine beq_false_of_ne ?_
      rintro rfl
      rw [hmark] at hc
      cases hc
    simp [looksLikeMark, List.isPrefixOf, hne '-' rfl, hne '.' rfl]
  rw [Shape.of, if_neg (List.cons_ne_nil _ _)]
  dsimp only
  rw [htraits, hmark, hhead, hend]
  rfl

/-- **Every time stamp is written plainly**, whatever the date and the time of day. -/
theorem isPlain_stampChars (date : Clock.Date) (time : Nat) :
    IsPlain (String.ofList (Clock.stampChars date time)) := by
  have hall := mem_stampLetters date time
  have hletters : ∀ c ∈ stampLetters, c ∉ ['x', 'o', 'b', 'e', 'E'] ∧ c ≠ '\n' := by decide +kernel
  obtain ⟨rest, hstamp⟩ := stampChars_eq date time
  obtain ⟨hmeans, hpadded⟩ := ofPlain_of_dashed (s := String.ofList (Clock.stampChars date time))
    (String.toList_ofList.trans hstamp) (List.append_ne_nil_of_left_ne_nil (List.cons_ne_nil _ _) _)
    (by
      rw [List.forall_mem_append]
      exact ⟨fun c hc => (isDigit_twoDigits _ c hc).1, fun c hc => (isDigit_twoDigits _ c hc).1⟩)
    fun c hc => (hletters c (hall c (by rwa [String.toList_ofList] at hc))).1
  refine ⟨?_, ?_, ?_⟩
  · rw [String.toList_ofList]
    exact List.cons_ne_nil _ _
  · have hline : (String.ofList (Clock.stampChars date time)).toList.contains '\n' = false := by
      rw [← Bool.not_eq_true, List.contains_iff_mem, String.toList_ofList]
      exact fun hmem => (hletters _ (hall _ hmem)).2 rfl
    rw [stringWriting, hline, hpadded, hmeans]
    rfl
  · rw [String.toList_ofList]
    exact plain_stampChars date time

end GeoBench.Yaml.Value
