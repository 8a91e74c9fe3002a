import GeoBench.Proofs.Number.Reading
import GeoBench.Proofs.Text.Pieces
import GeoBench.Yaml.Value
import Mathlib.Data.List.Basic

/-!
# What plain scalars mean

A plain scalar means nothing, a truth value, a number or its own text. A whole number of 64 bits
that is written as usual, in digits without a superfluous zero and with a minus sign at most, means
itself; every whole number that a plain scalar means is within these bounds.

## The order of the readings

A plain scalar is tried as one thing after the other, and what it means is the first that fits. To
show what a text means, all earlier readings have to be excluded: a text that begins with a digit or
a sign is no word, one without the mark of a base is no number of another base, and one without a
zero in front is not padded. Each exclusion is a lemma about the first characters of the text.

## Main results

* `Value.ofPlain_toString` — a whole number that is written as usual means itself.
* `Value.wholeOf_spec` — the whole numbers that plain scalars mean.
* `Value.ofPlain_cases` — what a plain scalar can mean.
-/

namespace GeoBench.Yaml

open GeoBench.Number
open scoped GeoBench.Text.Characters

namespace Value

/-- Digits have no sign in front. -/
theorem startsWithSign_of_digits {cs : List Char} (h : ∀ c ∈ cs, c.isDigit) :
    startsWithSign cs = false := by
  cases cs with
  | nil => rfl
  | cons c rest =>
      have hc := h c List.mem_cons_self
      simp only [startsWithSign, Bool.or_eq_false_iff, beq_eq_false_iff_ne, ne_eq]
      constructor <;> rintro rfl <;> cases hc

/-- Neither a numeral nor its negative is padded with zeros. -/
theorem isPaddedDigits_toDigits (n : Nat) :
    isPaddedDigits (Nat.toDigits 10 n) = false ∧
      isPaddedDigits ('-' :: Nat.toDigits 10 n) = false := by
  have hpadded := toDigits_ne_padded n
  have hsign := startsWithSign_of_digits (isDigit_toDigits n)
  generalize Nat.toDigits 10 n = cs at hpadded hsign
  cases cs with
  | nil => exact ⟨rfl, rfl⟩
  | cons c rest =>
      obtain ⟨hplus, hminus⟩ : c ≠ '+' ∧ c ≠ '-' := by simpa [startsWithSign] using hsign
      by_cases hzero : c = '0'
      · subst hzero
        cases rest with
        | nil => exact ⟨rfl, rfl⟩
        | cons d rest => exact absurd rfl (hpadded d rest)
      · simp [isPaddedDigits, hplus, hminus]

/-- A mark that does not stand in front has nothing behind it. -/
theorem after?_eq_none {mark : String} {cs : List Char} (h : ¬ mark.toList <+: cs) :
    after? mark cs = none := by
  rw [after?, if_neg]
  rwa [List.isPrefixOf_iff_prefix]

/-- Digits have no mark of a base in front, nor have they behind a minus sign. -/
theorem after?_of_digits {cs : List Char} (h : ∀ c ∈ cs, c.isDigit) :
    ∀ e ∈ markedBases, after? e.1 cs = none ∧ after? e.1 ('-' :: cs) = none ∧
      after? ("-" ++ e.1) ('-' :: cs) = none := by
  have hletter : ∀ {c : Char}, c.isDigit = false → c ∉ cs := fun hc hmem => by
    rw [h _ hmem] at hc
    cases hc
  have hmarks : ∀ e ∈ markedBases, ∃ c, c.isDigit = false ∧ e.1.toList = ['0', c] := by
    simp [markedBases]
  intro e he
  obtain ⟨c, hc, hmark⟩ := hmarks e he
  refine ⟨after?_eq_none ?_, after?_eq_none ?_, after?_eq_none ?_⟩
  · rw [hmark]
    rintro ⟨rest, rfl⟩
    exact hletter hc (by simp)
  · rw [hmark]
    rintro ⟨rest, hrest⟩
    cases hrest
  · rw [String.toList_append, hmark]
    rintro ⟨rest, hrest⟩
    have hcs : cs = '0' :: c :: rest := by simpa [eq_comm] using hrest
    exact hletter hc (by simp [hcs])

/-! ### Whole numbers -/

section

variable {bits : Nat} {cs : List Char}

/-- Without a sign and a mark in front only the digits count. -/
theorem unsigned?_of_unmarked (hplus : ∀ rest, cs ≠ '+' :: rest)
    (hmarks : ∀ e ∈ markedBases, after? e.1 cs = none) :
    unsigned? bits cs =
      if startsWithSign cs || isPaddedDigits cs then none else readUnsigned bits 10 cs := by
  rw [unsigned?.eq_def]
  extract_lets body marked
  have hbody : body = cs := by
    simp only [body]
  have hmarked : marked = none := by
    refine List.findSome?_eq_none_iff.mpr fun e he => ?_
    dsimp only
    rw [hbody, hmarks e he]
  rw [hmarked, hbody]

/-- Without the mark of a base an integer is read as a decimal. -/
theorem signed?_of_unmarked (hmarks : ∀ e ∈ markedBases, after? ("-" ++ e.1) cs = none) :
    signed? bits cs = if isPaddedDigits cs then none else readSigned bits 10 cs := by
  rw [signed?.eq_def]
  extract_lets marked
  have hmarked : marked = none := by
    refine List.findSome?_eq_none_iff.mpr fun e he => ?_
    dsimp only
    rw [hmarks e he]
  rw [hmarked]

/-- **A numeral** is read as an unsigned number if it is below the bound. -/
theorem unsigned?_toDigits {n : Nat} (h : n < twoTo bits) :
    unsigned? bits (Nat.toDigits 10 n) = some n := by
  have hdigits := isDigit_toDigits n
  rw [unsigned?_of_unmarked (ne_sign_of_digits hdigits rfl)
      fun e he => (after?_of_digits hdigits e he).1,
    startsWithSign_of_digits hdigits, (isPaddedDigits_toDigits n).1,
    readUnsigned_of_digits Nat.toDigits_ne_nil hdigits,
    Nat.ofDigitChars_toDigits (by decide) (by decide), if_pos h]
  rfl

/-- **A numeral behind a minus sign** is no unsigned number, but a signed one if it is within the
bound. -/
theorem signed?_toDigits {n : Nat} (h : n ≤ twoTo (bits - 1)) (other : Nat) :
    unsigned? other ('-' :: Nat.toDigits 10 n) = none ∧
      signed? bits ('-' :: Nat.toDigits 10 n) = some (-(n : Int)) := by
  have hdigits := isDigit_toDigits n
  have hmarks := after?_of_digits hdigits
  constructor
  · rw [unsigned?_of_unmarked (by simp) fun e he => (hmarks e he).2.1]
    rfl
  · rw [signed?_of_unmarked fun e he => (hmarks e he).2.2, (isPaddedDigits_toDigits n).2,
      readSigned, readDigits_of_digits Nat.toDigits_ne_nil hdigits,
      Nat.ofDigitChars_toDigits (by decide) (by decide), Option.filter_some,
      if_pos (decide_eq_true h)]
    rfl

end

/-! ### Meanings -/

/-- The texts that mean nothing or a truth value begin with none of the characters of a numeral. -/
theorem words_spec {s : String} {c : Char} {cs : List Char} (hs : s.toList = c :: cs)
    (hc : c.isDigit ∨ c = '-') : s ≠ "" ∧ saysNull s = false ∧ bool? s = none := by
  have hne : ∀ word ∈ ["", "null", "Null", "NULL", "~", "true", "True", "TRUE", "false", "False",
      "FALSE"], s ≠ word := by
    have hheads : ∀ word ∈ ["", "null", "Null", "NULL", "~", "true", "True", "TRUE", "false",
        "False", "FALSE"], ∀ d ∈ word.toList.head?, ¬ (d.isDigit ∨ d = '-') := by decide
    rintro word hword rfl
    cases hhead : s.toList.head? with
    | none => rw [hs] at hhead; cases hhead
    | some d =>
        have hd := hheads s hword d hhead
        rw [hs, List.head?_cons] at hhead
        exact hd (Option.some.inj hhead ▸ hc)
  simp only [List.forall_mem_cons, List.not_mem_nil, false_implies, implies_true, and_true] at hne
  simp [saysNull, bool?, hne]

/-- A whole number that is written as usual looks like one. -/
theorem wholeOf_toString {n : Int} (hlow : -(twoTo 63 : Int) ≤ n) (hhigh : n < twoTo 64) :
    wholeOf (toString n) = some (.ok (.number (.whole n))) ∧
      ∃ c cs, (toString n).toList = c :: cs ∧ (c.isDigit ∨ c = '-') := by
  cases n with
  | ofNat m =>
      have hm : m < twoTo 64 := Int.ofNat_lt.mp hhigh
      have htext : (toString (Int.ofNat m)).toList = Nat.toDigits 10 m := Nat.toList_repr
      obtain ⟨c, cs, hcs⟩ := List.exists_cons_of_ne_nil (Nat.toDigits_ne_nil (n := m) (b := 10))
      refine ⟨?_, c, cs, htext.trans hcs, .inl ?_⟩
      · rw [wholeOf, htext, unsigned?_toDigits hm]
        rfl
      · exact isDigit_toDigits m c (hcs ▸ List.mem_cons_self)
  | negSucc m =>
      have hm : m + 1 ≤ twoTo (64 - 1) := by
        change m + 1 ≤ twoTo 63
        omega
      have htext : (toString (Int.negSucc m)).toList = '-' :: Nat.toDigits 10 (m + 1) := by
        have hminus : toString (Int.negSucc m) = "-" ++ (m + 1).repr := rfl
        rw [hminus, String.toList_append, Nat.toList_repr]
        rfl
      obtain ⟨hunsigned, hsigned⟩ := signed?_toDigits hm 64
      refine ⟨?_, '-', _, htext, .inr rfl⟩
      rw [wholeOf, htext, hunsigned, hsigned]
      rfl

/-- **A whole number that is written as usual** means itself if it has 64 bits, with or without
sign. -/
theorem ofPlain_toString {n : Int} (hlow : -(twoTo 63 : Int) ≤ n) (hhigh : n < twoTo 64) :
    ofPlain (toString n) = .ok (.number (.whole n)) := by
  obtain ⟨hwhole, c, cs, hs, hc⟩ := wholeOf_toString hlow hhigh
  obtain ⟨hne, hnull, hbool⟩ := words_spec hs hc
  simp only [ofPlain, hne, hnull, hbool, hwhole, decide_false, Bool.or_false, Bool.false_eq_true,
    if_false]

/-! ### Bounds -/

/-- What is read as an unsigned number is below the bound. -/
theorem readUnsigned_lt {bits base n : Nat} {cs : List Char}
    (h : readUnsigned bits base cs = some n) : n < twoTo bits := by
  rw [readUnsigned.eq_def] at h
  split at h <;> exact of_decide_eq_true (Option.filter_eq_some_iff.mp h).2

/-- What is read as a signed number is within the bounds. -/
theorem readSigned_bounds {bits base : Nat} {n : Int} {cs : List Char}
    (h : readSigned bits base cs = some n) :
    -(twoTo (bits - 1) : Int) ≤ n ∧ n < twoTo (bits - 1) := by
  have hpos : 0 < twoTo (bits - 1) := Nat.two_pow_pos (bits - 1)
  rw [readSigned.eq_def] at h
  split at h
  all_goals
    simp only [Option.map_eq_some_iff, Option.bind_eq_bind, Option.bind_eq_some_iff,
      Option.filter_eq_some_iff, decide_eq_true_eq, Option.pure_def, Option.some_inj] at h
    obtain ⟨_, ⟨m, ⟨-, hm⟩, rfl⟩, rfl⟩ := h
    omega

/-- An unsigned integer fits its bits. -/
theorem unsigned?_lt {bits n : Nat} {cs : List Char} (h : unsigned? bits cs = some n) :
    n < twoTo bits := by
  rw [unsigned?.eq_def] at h
  extract_lets body marked at h
  cases hmarked : marked with
  | none =>
      rw [hmarked] at h
      dsimp only at h
      split at h
      next => cases h
      next => exact readUnsigned_lt h
  | some m =>
      rw [hmarked] at h
      obtain rfl : m = n := Option.some.inj h
      obtain ⟨e, -, he⟩ := List.exists_of_findSome?_eq_some hmarked
      dsimp only at he
      split at he
      next =>
        split at he
        next => cases he
        next => exact readUnsigned_lt he
      next => cases he

/-- A signed integer fits its bits. -/
theorem signed?_bounds {bits : Nat} {n : Int} {cs : List Char} (h : signed? bits cs = some n) :
    -(twoTo (bits - 1) : Int) ≤ n ∧ n < twoTo (bits - 1) := by
  rw [signed?.eq_def] at h
  extract_lets marked at h
  cases hmarked : marked with
  | none =>
      rw [hmarked] at h
      dsimp only at h
      split at h
      next => cases h
      next => exact readSigned_bounds h
  | some m =>
      rw [hmarked] at h
      obtain rfl : m = n := Option.some.inj h
      obtain ⟨e, -, he⟩ := List.exists_of_findSome?_eq_some hmarked
      dsimp only at he
      split at he
      next => exact readSigned_bounds he
      next => cases he

/-- **Whole numbers have 64 bits**, with or without sign. -/
theorem wholeOf_spec {s : String} {v : Value} (h : wholeOf s = some (.ok v)) :
    ∃ n, v = .number (.whole n) ∧ -(twoTo 63 : Int) ≤ n ∧ n < twoTo 64 := by
  rw [wholeOf] at h
  split at h
  next n hn =>
    cases h
    have hlt : n < twoTo 64 := unsigned?_lt hn
    exact ⟨n, rfl, by omega, Int.ofNat_lt.mpr hlt⟩
  next =>
    split at h
    next n hn =>
      cases h
      have hbounds : -(twoTo 63 : Int) ≤ n ∧ n < twoTo 63 := signed?_bounds hn
      have hdouble : twoTo 64 = twoTo 63 * 2 := twoTo_succ 63
      exact ⟨n, rfl, hbounds.1, by omega⟩
    next =>
      split at h
      next => cases h
      next => cases h

/-- **What a plain scalar can mean.** -/
theorem ofPlain_cases {s : String} {v : Value} (h : ofPlain s = .ok v) :
    v = .null ∨ (∃ b, v = .bool b) ∨
      (∃ n, v = .number (.whole n) ∧ -(twoTo 63 : Int) ≤ n ∧ n < twoTo 64) ∨
      (∃ x, v = .number (.float x)) ∨ v = .string s := by
  rw [ofPlain] at h
  split at h
  next => cases h; exact .inl rfl
  next =>
    split at h
    next b _ => cases h; exact .inr (.inl ⟨b, rfl⟩)
    next =>
      split at h
      next result hresult => exact .inr (.inr (.inl (wholeOf_spec (h ▸ hresult))))
      next =>
        split at h
        next => cases h; exact .inr (.inr (.inr (.inr rfl)))
        next =>
          split at h
          next x _ => cases h; exact .inr (.inr (.inr (.inl ⟨x, rfl⟩)))
          next => cases h; exact .inr (.inr (.inr (.inr rfl)))

end Value

end GeoBench.Yaml
