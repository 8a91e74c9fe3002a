import GeoBench.Proofs.Number.DataText
import GeoBench.Proofs.Yaml.PlainMeaning

/-!
# Plain scalars that are numbers with places

A number that is not whole is written anew with a point or an exponent, or as a word if it is not
finite. A plain scalar with this text means the number: it is no word, no whole number and not
padded with zeros, and its numeral names the number.

## What has to be excluded

The readings that come before numbers with places are ruled out by characters: there is a point, an
exponent or a word in the text of such a number, so it is not made of digits alone, and the words
for numbers that are not finite have a point in front or behind their sign. What the numeral names
is then a matter of layouts (`GeoBench.Proofs.Number.DataText`).

## Main results

* `Value.ofPlain_numberText` — a number that is written anew means itself.
-/

namespace GeoBench.Yaml.Value

open GeoBench.Number
open scoped GeoBench.Text.Characters

section

variable {body : List Char}

/-- What begins with neither sign has no sign in front. -/
theorem startsWithSign_of_ne (hplus : ∀ rest, body ≠ '+' :: rest)
    (hdash : ∀ rest, body ≠ '-' :: rest) : startsWithSign body = false := by
  cases body with
  | nil => rfl
  | cons c rest =>
      simp only [startsWithSign, Bool.or_eq_false_iff, beq_eq_false_iff_ne]
      refine ⟨?_, ?_⟩
      · rintro rfl
        exact hplus rest rfl
      · rintro rfl
        exact hdash rest rfl

/-- Without the letter of a mark there is no mark. -/
theorem after?_of_noLetter {cs : List Char} (h : ∀ c ∈ cs, c ∉ ['x', 'o', 'b']) :
    ∀ e ∈ markedBases, after? e.1 cs = none ∧ after? ("-" ++ e.1) cs = none := by
  have hmarks : ∀ e ∈ markedBases, ¬ ∀ c ∈ e.1.toList, c ∉ ['x', 'o', 'b'] := by decide
  intro e he
  refine ⟨after?_eq_none fun hmark => ?_, after?_eq_none fun hmark => ?_⟩
  · exact hmarks e he fun c hc => h c (hmark.subset hc)
  · rw [String.toList_append] at hmark
    exact hmarks e he fun c hc => h c (hmark.subset (List.mem_append_right _ hc))

/-- What is not made of digits alone is no number that is padded with zeros. -/
theorem isPaddedDigits_of_notDigit (hsign : startsWithSign body = false)
    (hdigits : ∃ c ∈ body, c.isDigit = false) :
    isPaddedDigits body = false ∧ isPaddedDigits ('-' :: body) = false := by
  obtain ⟨c, hc, hno⟩ := hdigits
  rcases body with _ | ⟨d, rest⟩
  · cases hc
  · obtain ⟨hplus, hminus⟩ : d ≠ '+' ∧ d ≠ '-' := by simpa [startsWithSign] using hsign
    by_cases hzero : d = '0'
    · subst hzero
      have hmem : c ∈ rest := by
        refine (List.mem_cons.mp hc).resolve_left ?_
        rintro rfl
        cases hno
      have hall : rest.all Char.isDigit = false := by
        rw [List.all_eq_false]
        exact ⟨c, hmem, by simp [hno]⟩
      rcases rest with _ | ⟨d, rest⟩
      · cases hmem
      · exact ⟨hall, hall⟩
    · simp [isPaddedDigits, hplus, hminus, hzero]

/-- What is no number is no signed number either, with or without a minus sign. -/
theorem readSigned_eq_none (hplus : ∀ rest, body ≠ '+' :: rest) (hdash : ∀ rest, body ≠ '-' :: rest)
    (hnone : readDigits 10 body = none) (bits : Nat) :
    readSigned bits 10 body = none ∧ readSigned bits 10 ('-' :: body) = none := by
  refine ⟨?_, by simp [readSigned, hnone]⟩
  rw [readSigned.eq_def]
  split
  next rest => exact absurd rfl (hdash rest)
  next rest => exact absurd rfl (hplus rest)
  next => simp [hnone]

/-- What is not made of digits alone is no whole number, with or without a minus sign. -/
theorem wholeOf_eq_none {s : String} (hs : s.toList = body ∨ s.toList = '-' :: body)
    (hsign : startsWithSign body = false) (hletter : ∀ c ∈ body, c ∉ ['x', 'o', 'b'])
    (hdigits : ∃ c ∈ body, c.isDigit = false) :
    wholeOf s = none ∧ isPaddedDigits s.toList = false := by
  have hnone : readDigits 10 body = none := by
    rw [← Option.not_isSome_iff_eq_none, readDigits_isSome_iff]
    rintro ⟨-, hall⟩
    obtain ⟨c, hc, hno⟩ := hdigits
    rw [hall c hc] at hno
    cases hno
  have hplus : ∀ rest, body ≠ '+' :: rest := by
    rintro rest rfl
    cases hsign
  have hdash : ∀ rest, body ≠ '-' :: rest := by
    rintro rest rfl
    cases hsign
  have hminus : ∀ c ∈ '-' :: body, c ∉ ['x', 'o', 'b'] := by
    rw [List.forall_mem_cons]
    exact ⟨by decide, hletter⟩
  obtain ⟨hplain, hnegative⟩ := isPaddedDigits_of_notDigit hsign hdigits
  have hunsigned : ∀ bits, unsigned? bits body = none ∧ unsigned? bits ('-' :: body) = none := by
    intro bits
    rw [unsigned?_of_unmarked hplus fun e he => (after?_of_noLetter hletter e he).1,
      unsigned?_of_unmarked (by simp) fun e he => (after?_of_noLetter hminus e he).1, hplain, hsign,
      readUnsigned_of_no_plus hplus, hnone]
    exact ⟨rfl, rfl⟩
  have hsigned : ∀ bits, signed? bits body = none ∧ signed? bits ('-' :: body) = none := by
    intro bits
    rw [signed?_of_unmarked fun e he => (after?_of_noLetter hletter e he).2,
      signed?_of_unmarked fun e he => (after?_of_noLetter hminus e he).2, hplain, hnegative]
    exact readSigned_eq_none hplus hdash hnone bits
  rcases hs with hs | hs
  · simp [wholeOf, hs, hunsigned, hsigned, hplain]
  · simp [wholeOf, hs, hunsigned, hsigned, hnegative]

/-- What has only the characters of numerals is read as a float if it can be. -/
theorem float?_of_numeral {s : String} {x : Binary64} (hplus : ∀ rest, s.toList ≠ '+' :: rest)
    (hchars : ∀ c ∈ s.toList, IsNumeralChar c)
    (hread : readSignedNumeral s.toList = some x) (hfinite : x.isFinite) : float? s = some x := by
  have hword : ∀ word ∈ [".inf", ".Inf", ".INF", "-.inf", "-.Inf", "-.INF", ".nan", ".NaN", ".NAN"],
      s ≠ word := by
    have hletter : ∀ word ∈ [".inf", ".Inf", ".INF", "-.inf", "-.Inf", "-.INF", ".nan", ".NaN",
        ".NAN"], ¬ ∀ c ∈ word.toList, IsNumeralChar c := by decide
    rintro word hmem rfl
    exact hletter s hmem hchars
  simp only [List.forall_mem_cons, List.not_mem_nil, false_implies, implies_true, and_true] at hword
  have hlists : [".inf".toList, ".Inf".toList, ".INF".toList].contains s.toList = false := by
    rw [← Bool.not_eq_true, List.contains_iff_mem]
    simp only [List.mem_cons, List.not_mem_nil, or_false, String.toList_inj, hword,
      not_false_eq_true]
  unfold float?
  dsimp only
  split
  next hnone =>
    split at hnone
    next rest heq => exact absurd heq (hplus rest)
    next => cases hnone
  next body hsome =>
    split at hsome
    next rest heq => exact absurd heq (hplus rest)
    next =>
      obtain rfl := Option.some.inj hsome
      rw [hlists, hread]
      simp [hword, hfinite]

/-- **A numeral that is no whole number** means the finite number that it names. -/
theorem ofPlain_of_numeral {s : String} {x : Binary64}
    (hs : s.toList = body ∨ s.toList = '-' :: body)
    (hfirst : ∃ c rest, body = c :: rest ∧ c.isDigit)
    (hchars : ∀ c ∈ body, IsNumeralChar c)
    (hdigits : ∃ c ∈ body, c.isDigit = false) (hread : readSignedNumeral s.toList = some x)
    (hfinite : x.isFinite) : ofPlain s = .ok (.number (.float x)) := by
  obtain ⟨c, rest, hbody, hc⟩ := hfirst
  have hno : ∀ sign, sign.isDigit = false → ∀ more, body ≠ sign :: more := by
    rintro sign hsign more rfl
    rw [(List.cons.inj hbody).1, hc] at hsign
    cases hsign
  have hsign : startsWithSign body = false := startsWithSign_of_ne (hno '+' rfl) (hno '-' rfl)
  have hletter : ∀ c ∈ body, c ∉ ['x', 'o', 'b'] := by
    have hnone : ∀ c ∈ ['x', 'o', 'b'], ¬ IsNumeralChar c := by decide
    exact fun c hmem hletter => hnone c hletter (hchars c hmem)
  have hfloat : float? s = some x := by
    refine float?_of_numeral ?_ ?_ hread hfinite
    · rcases hs with hs | hs
      · rw [hs]
        exact hno '+' rfl
      · simp [hs]
    · rcases hs with hs | hs
      · rwa [hs]
      · rw [hs, List.forall_mem_cons]
        exact ⟨.inr (by decide), hchars⟩
  obtain ⟨hwholeOf, hpadded⟩ := wholeOf_eq_none hs hsign hletter hdigits
  obtain ⟨hne, hnull, hbool⟩ : s ≠ "" ∧ saysNull s = false ∧ bool? s = none := by
    rcases hs with hs | hs
    · exact words_spec (hs.trans hbody) (.inl hc)
    · exact words_spec hs (.inr rfl)
  simp [ofPlain, hne, hnull, hbool, hwholeOf, hpadded, hfloat]

/-- **A number that is written anew means itself**, also if it is not finite. -/
theorem ofPlain_numberText (x : Binary64) :
    ofPlain (numberText (.float x)) = .ok (.number (.float x)) := by
  cases x with
  | nan => decide
  | infinite negative => cases negative <;> decide
  | finite negative rank =>
      have hfits := Laid.fits_ofRank rank
      obtain ⟨hchars, hdigits⟩ := hfits.chars_spec (.inl rfl)
      have htext := Laid.dataText_eq "" negative rank
      refine ofPlain_of_numeral ?_ (hfits.exists_first "") hchars hdigits
        (readSignedNumeral_dataText (.inl rfl) negative rank) rfl
      cases negative with
      | false => exact .inl htext
      | true => exact .inr htext

end

end GeoBench.Yaml.Value
