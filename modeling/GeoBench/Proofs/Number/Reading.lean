import GeoBench.Number.Decimal
import Mathlib.Data.List.Basic
import Mathlib.Data.List.TakeWhile
import Mathlib.Tactic.Common

/-!
# Which numerals can be read

Numbers are read from the ten ASCII digits alone. A run of characters is a number exactly if all of
them are such digits, and a numeral without an exponent has a reading only if it is made of such
digits and points. How many digits there are makes no difference.

## Two kinds of digits

A row of a table is recognised by all decimal digits that there are, and a number is read from ten
of them. What lies between the two is told here from the side of the reader: which runs of
characters have a value at all. The recogniser is told elsewhere
(`GeoBench.Proofs.Table.RowPattern`).

## Main results

* `readDigits_isSome_iff` — the runs of characters that are numbers.
* `readDigits_of_digits`, `readUnsigned_of_digits`, `readSigned_of_digits` — the number that a run
  of digits makes, and the bounds that it has to be within.
* `readNumeral_of_whole`, `readNumeral_of_point` — the decimal number that a numeral names.
* `readNumeral_isSome`, `isDigit_or_point_of_readNumeral` — the numerals that can be read.
-/

namespace GeoBench.Number

/-! ### Digits -/

/-- The characters with a value in base ten are the ten ASCII digits. -/
theorem digitValue?_isSome_iff {c : Char} : (digitValue? 10 c).isSome ↔ c.isDigit := by
  have hdigit : c.isDigit ↔ 0x30 ≤ c.toNat ∧ c.toNat ≤ 0x39 := Char.isDigit_iff_toNat
  rw [hdigit, digitValue?]
  simp only [Option.isSome_filter, Bool.and_eq_true, decide_eq_true_eq]
  split
  next => simp only [Option.any_some, decide_eq_true_eq]; omega
  next =>
    split
    next => simp only [Option.any_some, decide_eq_true_eq]; omega
    next =>
      split
      next => simp only [Option.any_some, decide_eq_true_eq]; omega
      next => simp only [Option.any_none, Bool.false_eq_true, false_iff]; omega

/-- Digits continue any number, and nothing else does. -/
theorem digitsFrom_isSome_iff {value : Nat} {cs : List Char} :
    (digitsFrom 10 value cs).isSome ↔ ∀ c ∈ cs, c.isDigit := by
  induction cs generalizing value with
  | nil => simp [digitsFrom]
  | cons c cs ih =>
      rw [digitsFrom, List.forall_mem_cons, ← digitValue?_isSome_iff]
      cases digitValue? 10 c with
      | none => simp
      | some d => simpa using ih

/-- **The runs of characters that are numbers** are those of ASCII digits. -/
theorem readDigits_isSome_iff {cs : List Char} :
    (readDigits 10 cs).isSome ↔ cs ≠ [] ∧ ∀ c ∈ cs, c.isDigit := by
  cases cs with
  | nil => simp [readDigits]
  | cons c cs => simp only [readDigits, digitsFrom_isSome_iff, ne_eq, reduceCtorEq,
      not_false_eq_true, true_and]

/-- A digit has its own value. -/
theorem digitValue?_of_isDigit {c : Char} (h : c.isDigit) :
    digitValue? 10 c = some (c.toNat - 0x30) := by
  have hdigit : 0x30 ≤ c.toNat ∧ c.toNat ≤ 0x39 := Char.isDigit_iff_toNat.mp h
  have hrange : (decide (0x30 ≤ c.toNat) && decide (c.toNat ≤ 0x39)) = true := by simpa using hdigit
  rw [digitValue?]
  simp only [hrange, if_true, Option.filter_some, decide_eq_true_eq]
  exact if_pos (by omega)

/-- Digits continue a number by their places. The induction is on the digits. -/
theorem digitsFrom_of_digits {cs : List Char} (h : ∀ c ∈ cs, c.isDigit) (value : Nat) :
    digitsFrom 10 value cs = some (Nat.ofDigitChars 10 cs value) := by
  induction cs generalizing value with
  | nil => rfl
  | cons c cs ih =>
      obtain ⟨hc, hcs⟩ := List.forall_mem_cons.mp h
      rw [digitsFrom, digitValue?_of_isDigit hc]
      dsimp only
      rw [ih hcs, Nat.ofDigitChars_cons, Nat.mul_comm]
      rfl

/-- **The number that a run of digits makes.** -/
theorem readDigits_of_digits {cs : List Char} (hne : cs ≠ []) (h : ∀ c ∈ cs, c.isDigit) :
    readDigits 10 cs = some (Nat.ofDigitChars 10 cs 0) := by
  cases cs with
  | nil => exact absurd rfl hne
  | cons c cs => exact digitsFrom_of_digits h 0

/-- The digits of a number are a run of digits. -/
theorem isDigit_toDigits (n : Nat) : ∀ c ∈ Nat.toDigits 10 n, c.isDigit :=
  fun _ hc => Nat.isDigit_of_mem_toDigits (by decide) (by decide) hc

/-- No numeral of a positive number begins with a zero. The induction takes the last digit off. -/
theorem head_toDigits_ne_zero {n : Nat} (h : 0 < n) : (Nat.toDigits 10 n).head? ≠ some '0' := by
  induction n using Nat.strongRecOn with
  | ind n ih =>
      rw [Nat.toDigits_eq_if (by omega)]
      split
      next hlt =>
        have hdigit : ∀ d < 10, 0 < d → Nat.digitChar d ≠ '0' := by decide
        rw [List.head?_cons, ne_eq, Option.some_inj]
        exact hdigit n hlt h
      next hge =>
        rw [List.head?_append_of_ne_nil _ Nat.toDigits_ne_nil]
        exact ih (n / 10) (by omega) (by omega)

/-- A numeral has no superfluous zero. -/
theorem toDigits_ne_padded (n : Nat) (d : Char) (rest : List Char) :
    Nat.toDigits 10 n ≠ '0' :: d :: rest := by
  rcases Nat.eq_zero_or_pos n with rfl | hpos
  · simp
  · intro h
    exact head_toDigits_ne_zero hpos (by rw [h]; rfl)

/-- A run of digits has no sign. -/
theorem ne_sign_of_digits {cs : List Char} (h : ∀ c ∈ cs, c.isDigit) {sign : Char}
    (hsign : sign.isDigit = false) (rest : List Char) : cs ≠ sign :: rest := by
  rintro rfl
  exact absurd (h sign List.mem_cons_self) (by simp [hsign])

/-- Without a plus sign in front all characters have to be digits. -/
theorem readUnsigned_of_no_plus {cs : List Char} (h : ∀ rest, cs ≠ '+' :: rest) (bits base : Nat) :
    readUnsigned bits base cs = (readDigits base cs).filter (· < twoTo bits) := by
  rw [readUnsigned]
  exact h

/-- A run of digits is an unsigned number if it is below the bound. -/
theorem readUnsigned_of_digits {cs : List Char} (hne : cs ≠ []) (h : ∀ c ∈ cs, c.isDigit)
    (bits : Nat) :
    readUnsigned bits 10 cs =
      if Nat.ofDigitChars 10 cs 0 < twoTo bits then some (Nat.ofDigitChars 10 cs 0) else none := by
  rw [readUnsigned_of_no_plus (ne_sign_of_digits h rfl), readDigits_of_digits hne h]
  simp only [Option.filter_some, decide_eq_true_eq]

/-- A run of digits is a signed number if it is below the bound for numbers without a minus sign. -/
theorem readSigned_of_digits {cs : List Char} (hne : cs ≠ []) (h : ∀ c ∈ cs, c.isDigit)
    (bits : Nat) :
    readSigned bits 10 cs =
      if Nat.ofDigitChars 10 cs 0 < twoTo (bits - 1) then some (Nat.ofDigitChars 10 cs 0 : Int)
      else none := by
  rw [readSigned.eq_def]
  split
  next rest => exact absurd rfl (ne_sign_of_digits h rfl rest)
  next rest => exact absurd rfl (ne_sign_of_digits h rfl rest)
  next =>
    rw [readDigits_of_digits hne h]
    simp only [Option.filter_some, decide_eq_true_eq]
    split <;> rfl

/-! ### Numerals -/

/-- An exponent, where there is anything, begins with its letter. -/
theorem eq_nil_or_letter_of_readExponent {tail : List Char} (h : (readExponent tail).isSome) :
    tail = [] ∨ ∃ e rest, tail = e :: rest ∧ (e = 'e' ∨ e = 'E') := by
  cases tail with
  | nil => exact .inl rfl
  | cons e rest =>
      by_cases he : e = 'e' ∨ e = 'E'
      · exact .inr ⟨e, rest, rfl, he⟩
      · simp only [readExponent, if_neg he, Option.isSome_none, Bool.false_eq_true] at h

/-- The **fraction** of a numeral that goes on behind its whole part, and what follows it. -/
def fractionAndTail (behind : List Char) : List Char × List Char :=
  match behind with
  | '.' :: more => (more.takeWhile Char.isDigit, more.dropWhile Char.isDigit)
  | other => ([], other)

/-- Without a point there is no fraction. -/
theorem fractionAndTail_of_no_point {behind : List Char} (h : ∀ more, behind ≠ '.' :: more) :
    fractionAndTail behind = ([], behind) := by
  rw [fractionAndTail]
  exact h

/-- A numeral can be read if its digits can, and the exponent behind them. -/
theorem readNumeral_isSome_iff {cs fraction tail : List Char}
    (h : fractionAndTail (cs.dropWhile Char.isDigit) = (fraction, tail)) :
    (readNumeral cs).isSome ↔
      (readDigits 10 (cs.takeWhile Char.isDigit ++ fraction)).isSome ∧
        (readExponent tail).isSome := by
  unfold readNumeral
  extract_lets whole rest
  split
  next fraction' tail' hpair =>
    obtain ⟨rfl, rfl⟩ := Prod.mk.inj (hpair.symm.trans h)
    cases readDigits 10 (whole ++ fraction') <;> cases readExponent tail' <;> simp

/-- What a numeral names, from its digits and the exponent behind them. -/
theorem readNumeral_of_split {cs fraction tail : List Char} {n : Nat} {e : Int}
    (h : fractionAndTail (cs.dropWhile Char.isDigit) = (fraction, tail))
    (hdigits : readDigits 10 (cs.takeWhile Char.isDigit ++ fraction) = some n)
    (hexponent : readExponent tail = some e) :
    readNumeral cs = some ⟨n, e - fraction.length⟩ := by
  unfold readNumeral
  extract_lets whole rest
  split
  next fraction' tail' hpair =>
    obtain ⟨rfl, rfl⟩ := Prod.mk.inj (hpair.symm.trans h)
    rw [hdigits, hexponent]

section

variable {whole fraction tail : List Char} {e : Int}

/-- Digits stop where an exponent begins, or where there is nothing more. -/
theorem digits_stop (hexponent : readExponent tail = some e) {ds : List Char}
    (hds : ∀ c ∈ ds, c.isDigit) :
    (ds ++ tail).takeWhile Char.isDigit = ds ∧ (ds ++ tail).dropWhile Char.isDigit = tail := by
  have htail : tail.takeWhile Char.isDigit = [] ∧ tail.dropWhile Char.isDigit = tail := by
    rcases eq_nil_or_letter_of_readExponent (Option.isSome_of_eq_some hexponent) with
      rfl | ⟨_, rest, rfl, rfl | rfl⟩ <;> exact ⟨rfl, rfl⟩
  rw [List.takeWhile_append_of_pos hds, List.dropWhile_append_of_pos hds, htail.1, htail.2,
    List.append_nil]
  exact ⟨rfl, rfl⟩

/-- **A numeral without a point** names its digits. -/
theorem readNumeral_of_whole (hne : whole ≠ []) (hwhole : ∀ c ∈ whole, c.isDigit)
    (hexponent : readExponent tail = some e) :
    readNumeral (whole ++ tail) = some ⟨Nat.ofDigitChars 10 whole 0, e⟩ := by
  obtain ⟨htake, hdrop⟩ := digits_stop hexponent hwhole
  have hpoint : ∀ more, tail ≠ '.' :: more := by
    rintro more rfl
    cases hexponent
  have hsplit : fractionAndTail ((whole ++ tail).dropWhile Char.isDigit) = ([], tail) := by
    rw [hdrop, fractionAndTail_of_no_point hpoint]
  have hdigits : readDigits 10 ((whole ++ tail).takeWhile Char.isDigit ++ []) =
      some (Nat.ofDigitChars 10 whole 0) := by
    rw [htake, List.append_nil, readDigits_of_digits hne hwhole]
  simpa using readNumeral_of_split hsplit hdigits hexponent

/-- **A numeral with a point** names all of its digits, at an exponent that is smaller by the places
behind the point. -/
theorem readNumeral_of_point (hne : whole ≠ []) (hwhole : ∀ c ∈ whole, c.isDigit)
    (hfraction : ∀ c ∈ fraction, c.isDigit) (hexponent : readExponent tail = some e) :
    readNumeral (whole ++ '.' :: (fraction ++ tail)) =
      some ⟨Nat.ofDigitChars 10 (whole ++ fraction) 0, e - fraction.length⟩ := by
  obtain ⟨htake, hdrop⟩ := digits_stop hexponent hfraction
  have hfront : (whole ++ '.' :: (fraction ++ tail)).takeWhile Char.isDigit = whole := by
    rw [List.takeWhile_append_of_pos hwhole]
    exact List.append_nil whole
  have hsplit : fractionAndTail ((whole ++ '.' :: (fraction ++ tail)).dropWhile Char.isDigit) =
      (fraction, tail) := by
    have hstop : (whole ++ '.' :: (fraction ++ tail)).dropWhile Char.isDigit =
        '.' :: (fraction ++ tail) := by
      rw [List.dropWhile_append_of_pos hwhole]
      rfl
    rw [hstop, fractionAndTail, htake, hdrop]
  have hall : ∀ c ∈ whole ++ fraction, c.isDigit := fun c hc =>
    (List.mem_append.mp hc).elim (hwhole c) (hfraction c)
  refine readNumeral_of_split hsplit ?_ hexponent
  rw [hfront, readDigits_of_digits (List.append_ne_nil_of_left_ne_nil hne _) hall]

/-- Digits with at most one point, and at least one of them in front of it, can be read. -/
theorem readNumeral_isSome {point : List Char} (hne : whole ≠ [])
    (hwhole : ∀ c ∈ whole, c.isDigit) (hpoint : point = [] ∨ point = ['.'])
    (hfraction : ∀ c ∈ fraction, c.isDigit) :
    (readNumeral (whole ++ (point ++ fraction))).isSome := by
  rcases hpoint with rfl | rfl
  · have hall : ∀ c ∈ whole ++ fraction, c.isDigit := fun c hc =>
      (List.mem_append.mp hc).elim (hwhole c) (hfraction c)
    have hread := readNumeral_of_whole (List.append_ne_nil_of_left_ne_nil hne fraction) hall
      (show readExponent [] = some 0 from rfl)
    rw [List.append_nil] at hread
    exact Option.isSome_of_eq_some hread
  · have hread := readNumeral_of_point hne hwhole hfraction
      (show readExponent [] = some 0 from rfl)
    rw [List.append_nil] at hread
    exact Option.isSome_of_eq_some hread

end

/-- What can be read, and has no letter of an exponent, is made of digits and points. -/
theorem isDigit_or_point_of_readNumeral {cs : List Char} (h : (readNumeral cs).isSome)
    (hletter : ∀ c ∈ cs, c ≠ 'e' ∧ c ≠ 'E') : ∀ c ∈ cs, c.isDigit ∨ c = '.' := by
  have hdrop : ∀ {ds : List Char}, (∀ c ∈ ds, c ∈ cs) →
      (readExponent (ds.dropWhile Char.isDigit)).isSome → ∀ c ∈ ds, c.isDigit := by
    intro ds hds hexponent
    rcases eq_nil_or_letter_of_readExponent hexponent with hnil | ⟨e, rest, heq, he⟩
    · exact List.dropWhile_eq_nil_iff.mp hnil
    · have hmem : e ∈ cs :=
        hds e ((List.dropWhile_sublist _).subset (heq ▸ List.mem_cons_self))
      obtain ⟨hlower, hupper⟩ := hletter e hmem
      exact absurd he (by rintro (rfl | rfl) <;> contradiction)
  by_cases hpoint : ∃ more, cs.dropWhile Char.isDigit = '.' :: more
  · obtain ⟨more, hmore⟩ := hpoint
    have hsplit : cs = cs.takeWhile Char.isDigit ++ '.' :: more := by
      rw [← hmore, List.takeWhile_append_dropWhile]
    have hdigits : ∀ c ∈ more, c.isDigit := by
      refine hdrop (fun c hc => ?_) ((readNumeral_isSome_iff (by rw [hmore]; rfl)).mp h).2
      rw [hsplit]
      exact List.mem_append_right _ (List.mem_cons_of_mem _ hc)
    intro c hc
    rw [hsplit] at hc
    rcases List.mem_append.mp hc with hc | hc
    · exact .inl (List.all_eq_true.mp List.all_takeWhile c hc)
    · rcases List.mem_cons.mp hc with rfl | hc
      · exact .inr rfl
      · exact .inl (hdigits c hc)
  · have hnone := fractionAndTail_of_no_point fun more heq => hpoint ⟨more, heq⟩
    exact fun c hc => .inl (hdrop (fun _ hmem => hmem) ((readNumeral_isSome_iff hnone).mp h).2 c hc)

end GeoBench.Number
