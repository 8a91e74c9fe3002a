import GeoBench.Proofs.Number.Reading
import GeoBench.Proofs.Number.Shortest
import GeoBench.Proofs.Text.Pieces

/-!
# Numbers that are read back

A finite number is written with its shortest digits, in positional notation or with an exponent,
and always with a point or an exponent, so that it is told from a whole number. What is written is
a well-formed numeral that names the number itself, whether or not a plus sign stands in its
exponent.

## The layout of a numeral

How the digits of a number are laid out is data (`Laid`): the digits before the point, those behind
it, and the exponent. That a layout fits the grammar of numerals, what its text is and which decimal
it names are then three lemmas about layouts, and the two notations only have to be shown to give
layouts that fit. A layout that fits has a digit in front, no superfluous zero, and places or an
exponent, so that its text is not taken for a whole number.

## Main results

* `Laid.ofRank_spec` — the numeral of a number is well-formed and names its shortest decimal.
* `readSignedNumeral_dataText` — the text of a finite number is read as that number.
-/

namespace GeoBench.Number

open scoped GeoBench.Text.Characters

/-- Whether a character may stand in a **numeral** with its sign. -/
def IsNumeralChar (c : Char) : Prop :=
  c.isDigit ∨ c ∈ ['.', 'e', '-', '+']

instance : DecidablePred IsNumeralChar := fun c =>
  inferInstanceAs (Decidable (c.isDigit ∨ c ∈ ['.', 'e', '-', '+']))

/-- A numeral as it is **laid out**: the digits of its whole part, the digits behind the point, and
the exponent if there is one. -/
structure Laid where
  whole : List Char
  fraction : List Char := []
  exponent? : Option Int := none

namespace Laid

/-- The characters of an exponent, with a sign in front of a positive one. -/
def exponentPart (plus : String) : Option Int → List Char
  | none => []
  | some e => 'e' :: ((if e < 0 then "-" else plus).toList ++ Nat.toDigits 10 e.natAbs)

/-- The characters of a numeral. -/
def chars (plus : String) (l : Laid) : List Char :=
  l.whole ++ ((if l.fraction = [] then [] else '.' :: l.fraction) ++ exponentPart plus l.exponent?)

/-- The decimal number that a numeral names. -/
def decimal (l : Laid) : Decimal :=
  ⟨Nat.ofDigitChars 10 (l.whole ++ l.fraction) 0, l.exponent?.getD 0 - l.fraction.length⟩

/-- Whether a numeral is **well-formed**: its whole part is a number without a superfluous zero, and
it has a point or an exponent. -/
structure Fits (l : Laid) : Prop where
  whole_ne : l.whole ≠ []
  whole : ∀ c ∈ l.whole, c.isDigit
  fraction : ∀ c ∈ l.fraction, c.isDigit
  unpadded : ∀ d rest, l.whole ≠ '0' :: d :: rest
  fractional : l.fraction ≠ [] ∨ l.exponent?.isSome

/-- An exponent that is written as usual, with or without a sign, is read. -/
theorem readExponent_toDigits (n : Nat) :
    readExponent ('e' :: '-' :: Nat.toDigits 10 n) = some (-(n : Int)) ∧
      readExponent ('e' :: '+' :: Nat.toDigits 10 n) = some (n : Int) ∧
      readExponent ('e' :: Nat.toDigits 10 n) = some (n : Int) := by
  have hdigits := isDigit_toDigits n
  have hread := readDigits_of_digits Nat.toDigits_ne_nil hdigits
  rw [Nat.ofDigitChars_toDigits (by decide) (by decide)] at hread
  refine ⟨by simp [readExponent, hread], by simp [readExponent, hread], ?_⟩
  rw [readExponent, if_pos (.inl rfl), hread]
  · rfl
  · exact ne_sign_of_digits hdigits rfl
  · exact ne_sign_of_digits hdigits rfl

/-- The exponent part of a numeral is read, with or without a plus sign. -/
theorem readExponent_exponentPart {plus : String} (hplus : plus = "" ∨ plus = "+")
    (e? : Option Int) : readExponent (exponentPart plus e?) = some (e?.getD 0) := by
  cases e? with
  | none => rfl
  | some e =>
      obtain ⟨hminus, hsigned, hplain⟩ := readExponent_toDigits e.natAbs
      rw [exponentPart, Option.getD_some]
      by_cases hneg : e < 0
      · have hvalue : -(e.natAbs : Int) = e := by omega
        rw [if_pos hneg, ← hvalue, Int.natAbs_neg, Int.natAbs_natCast]
        exact hminus
      · have hvalue : (e.natAbs : Int) = e := by omega
        rw [if_neg hneg, ← hvalue, Int.natAbs_natCast]
        rcases hplus with rfl | rfl
        · exact hplain
        · exact hsigned

section

variable {plus : String} {l : Laid}

/-- A well-formed numeral is read as the decimal number that it names. -/
theorem readNumeral_chars (hplus : plus = "" ∨ plus = "+") (h : l.Fits) :
    readNumeral (l.chars plus) = some l.decimal := by
  have hexponent := readExponent_exponentPart hplus l.exponent?
  rw [chars, decimal]
  split_ifs with hnil
  · rw [List.nil_append, readNumeral_of_whole h.whole_ne h.whole hexponent, hnil]
    simp
  · rw [List.cons_append, readNumeral_of_point h.whole_ne h.whole h.fraction hexponent]

end

/-! ### The numerals of numbers -/

/-- The numeral of a number in positional notation, from its digits and the place of the point. -/
def positional (digits : List Char) (point : Int) : Laid :=
  if point ≤ 0 then
    { whole := ['0'], fraction := List.replicate (-point).toNat '0' ++ digits }
  else if digits.length ≤ point then
    { whole := digits ++ List.replicate (point - digits.length).toNat '0', fraction := ['0'] }
  else { whole := digits.take point.toNat, fraction := digits.drop point.toNat }

/-- The numeral of a number with an exponent. -/
def scientific (digits : List Char) (point : Int) : Laid where
  whole := digits.take 1
  fraction := digits.drop 1
  exponent? := some (point - 1)

/-- The numeral of a magnitude. -/
def ofRank (rank : Nat) : Laid :=
  if rank = 0 then { whole := ['0'], fraction := ['0'] }
  else
    let d := shortest .toEven rank
    let digits := decimalDigits d.digits
    let point := (digits.length : Int) + d.exponent
    if -5 < point && point ≤ 16 then positional digits point else scientific digits point

/-- The text in positional notation has the characters of its numeral. -/
theorem positional_text {digits : List Char} (hne : digits ≠ []) (point : Int) (plus : String) :
    (Number.positional digits point ".0").toList = (positional digits point).chars plus := by
  rw [Number.positional, positional]
  split_ifs with hbefore hbehind
  · have hfraction : List.replicate (-point).toNat '0' ++ digits ≠ [] :=
      List.append_ne_nil_of_right_ne_nil _ hne
    simp [chars, exponentPart, hfraction]
  · simp [chars, exponentPart]
  · have hfraction : digits.drop point.toNat ≠ [] := by
      rw [ne_eq, List.drop_eq_nil_iff]
      omega
    simp [chars, exponentPart, hfraction]

/-- The text with an exponent has the characters of its numeral. -/
theorem scientific_text {digits : List Char} (hne : digits ≠ []) (point : Int) (plus : String) :
    (Number.scientific plus digits point).toList = (scientific digits point).chars plus := by
  rcases digits with _ | ⟨d, _ | ⟨d', ds⟩⟩
  · exact absurd rfl hne
  · simp [Number.scientific, scientific, chars, exponentPart, decimalDigits]
  · simp [Number.scientific, scientific, chars, exponentPart, decimalDigits]

/-- **The text of a finite number** is its sign and the characters of its numeral. -/
theorem dataText_eq (plus : String) (negative : Bool) (rank : Nat) :
    (dataText plus negative rank).toList =
      (signText negative).toList ++ (ofRank rank).chars plus := by
  rw [dataText, ofRank, String.toList_append]
  refine congrArg _ ?_
  by_cases hzero : rank = 0
  · rw [if_pos hzero, if_pos hzero]
    rfl
  · rw [if_neg hzero, if_neg hzero]
    extract_lets d digits point
    split_ifs with hrange
    · exact positional_text Nat.toDigits_ne_nil point plus
    · exact scientific_text Nat.toDigits_ne_nil point plus

/-! ### What the numerals name -/

section

variable {digits : List Char} {point : Int}

/-- Digits without a zero in front make a whole part without a superfluous one. -/
theorem unpadded_of_head {whole : List Char} (h : whole.head? ≠ some '0') (d : Char)
    (rest : List Char) : whole ≠ '0' :: d :: rest := by
  rintro rfl
  exact h rfl

/-- The positional layout of digits fits, if they have no zero in front. -/
theorem fits_positional (hne : digits ≠ []) (hdigits : ∀ c ∈ digits, c.isDigit)
    (hhead : digits.head? ≠ some '0') : (positional digits point).Fits := by
  have hzeros : ∀ {k : Nat}, ∀ c ∈ List.replicate k '0', c.isDigit := by
    intro k c hc
    rw [List.eq_of_mem_replicate hc]
    rfl
  rw [positional]
  split_ifs with hbefore hbehind
  · refine ⟨by simp, by simp, ?_, by simp, .inl (List.append_ne_nil_of_right_ne_nil _ hne)⟩
    exact fun c hc => (List.mem_append.mp hc).elim (hzeros c) (hdigits c)
  · refine ⟨List.append_ne_nil_of_left_ne_nil hne _, ?_, by simp, unpadded_of_head ?_,
      .inl (by simp)⟩
    · exact fun c hc => (List.mem_append.mp hc).elim (hdigits c) (hzeros c)
    · rwa [List.head?_append_of_ne_nil _ hne]
  · have hpoint : point.toNat ≠ 0 := by omega
    refine ⟨by simp [hne, hpoint], ?_, ?_, unpadded_of_head ?_, .inl ?_⟩
    · exact fun c hc => hdigits c (List.mem_of_mem_take hc)
    · exact fun c hc => hdigits c (List.mem_of_mem_drop hc)
    · rwa [List.head?_take, if_neg hpoint]
    · rw [ne_eq, List.drop_eq_nil_iff]
      omega

/-- So does the scientific one. -/
theorem fits_scientific (hne : digits ≠ []) (hdigits : ∀ c ∈ digits, c.isDigit)
    (hhead : digits.head? ≠ some '0') : (scientific digits point).Fits := by
  refine ⟨by simp [scientific, hne], ?_, ?_, unpadded_of_head ?_, .inr rfl⟩
  · exact fun c hc => hdigits c (List.mem_of_mem_take hc)
  · exact fun c hc => hdigits c (List.mem_of_mem_drop hc)
  · rwa [scientific, List.head?_take, if_neg Nat.one_ne_zero]

/-- A numeral in positional notation names its digits, shifted to the point. -/
theorem value_positional :
    (positional digits point).decimal.value =
      (⟨Nat.ofDigitChars 10 digits 0, point - digits.length⟩ : Decimal).value := by
  rw [positional]
  split_ifs with hbefore hbehind
  · have hexponent : (0 : Int) - ((List.replicate (-point).toNat '0' ++ digits).length : Nat) =
        point - digits.length := by
      rw [List.length_append, List.length_replicate]
      omega
    rw [decimal, Option.getD_none, hexponent, List.singleton_append, Nat.ofDigitChars_cons,
      Nat.ofDigitChars_append, Nat.ofDigitChars_replicate_zero]
    rfl
  · obtain ⟨k, hk⟩ : ∃ k : Nat, point = digits.length + k :=
      ⟨(point - digits.length).toNat, by omega⟩
    have hdigits : Nat.ofDigitChars 10 (digits ++ List.replicate k '0' ++ ['0']) 0 =
        Nat.ofDigitChars 10 digits 0 * 10 ^ k * 10 := by
      rw [Nat.ofDigitChars_append, Nat.ofDigitChars_append, Nat.ofDigitChars_replicate_zero,
        Nat.ofDigitChars_cons, Nat.ofDigitChars_nil]
      simp only [Nat.sub_self, Nat.add_zero]
      ring
    have hzeros : (point - digits.length).toNat = k := by omega
    have hexponent : point - digits.length = (k : Int) := by omega
    rw [hzeros, hexponent, decimal, hdigits, Decimal.value, Decimal.value, zpow_natCast]
    push_cast
    simp
  · have hexponent : (0 : Int) - ((digits.drop point.toNat).length : Nat) =
        point - digits.length := by
      rw [List.length_drop]
      omega
    rw [decimal, Option.getD_none, hexponent, List.take_append_drop]

/-- A numeral with an exponent names its digits, shifted to the point. -/
theorem value_scientific (hne : digits ≠ []) :
    (scientific digits point).decimal =
      ⟨Nat.ofDigitChars 10 digits 0, point - digits.length⟩ := by
  have hexponent : point - 1 - ((digits.drop 1).length : Nat) = point - digits.length := by
    have hlength := List.length_pos_of_ne_nil hne
    rw [List.length_drop]
    omega
  rw [scientific, decimal, Option.getD_some, hexponent, List.take_append_drop]

end

/-- **The numeral of a number** is well-formed, and it names a decimal with the value of the
shortest one. -/
theorem ofRank_spec {rank : Nat} (h : 0 < rank) :
    (ofRank rank).Fits ∧ (ofRank rank).decimal.value = (shortest .toEven rank).value := by
  have hne := (holds_shortest .toEven h).2
  have hdigits := isDigit_toDigits (shortest .toEven rank).digits
  have hhead := head_toDigits_ne_zero (Nat.pos_of_ne_zero hne)
  have hvalue : ∀ point : Int,
      point = ((decimalDigits (shortest .toEven rank).digits).length : Int) +
        (shortest .toEven rank).exponent →
      (⟨Nat.ofDigitChars 10 (decimalDigits (shortest .toEven rank).digits) 0,
        point - (decimalDigits (shortest .toEven rank).digits).length⟩ : Decimal) =
      shortest .toEven rank := by
    rintro point rfl
    rw [add_sub_cancel_left, decimalDigits, Nat.ofDigitChars_toDigits (by decide) (by decide)]
  rw [ofRank, if_neg h.ne']
  extract_lets d digits point
  have hsome : digits ≠ [] := Nat.toDigits_ne_nil
  split_ifs with hrange
  · exact ⟨fits_positional hsome hdigits hhead, by rw [value_positional, hvalue point rfl]⟩
  · exact ⟨fits_scientific hsome hdigits hhead, by rw [value_scientific hsome, hvalue point rfl]⟩

/-- The shortest digits of a number fit. -/
theorem fits_ofRank (rank : Nat) : (ofRank rank).Fits := by
  rcases Nat.eq_zero_or_pos rank with rfl | hpos
  · exact ⟨by decide, by decide, by decide, by simp [ofRank], .inl (by decide)⟩
  · exact (ofRank_spec hpos).1

/-- What the numeral of a number names is rounded to the number. -/
theorem ofDecimal_ofRank (negative : Bool) (rank : Fin finiteCount) :
    Binary64.ofDecimal negative (ofRank rank).decimal.digits (ofRank rank).decimal.exponent =
      .finite negative rank := by
  rcases Nat.eq_zero_or_pos rank.val with hzero | hpos
  · obtain rfl : rank = ⟨0, by decide⟩ := Fin.ext hzero
    rfl
  · obtain ⟨hholds, hne⟩ := holds_shortest .toEven hpos
    have hvalue := (ofRank_spec hpos).2
    refine ofDecimal_of_holds negative ?_ ?_
    · rwa [← Decimal.value_ne_zero, hvalue, Decimal.value_ne_zero]
    · rwa [hvalue]

/-- A well-formed numeral begins with a digit. -/
theorem Fits.exists_first {l : Laid} (h : l.Fits) (plus : String) :
    ∃ c rest, l.chars plus = c :: rest ∧ c.isDigit := by
  obtain ⟨c, whole, hwhole⟩ := List.exists_cons_of_ne_nil h.whole_ne
  rw [chars, hwhole, List.cons_append]
  exact ⟨c, _, rfl, h.whole c (hwhole ▸ List.mem_cons_self)⟩

/-- No sign stands in front of a well-formed numeral. -/
theorem Fits.chars_ne_sign {l : Laid} (h : l.Fits) (plus : String) {sign : Char}
    (hsign : sign.isDigit = false) (rest : List Char) : l.chars plus ≠ sign :: rest := by
  obtain ⟨c, more, hchars, hc⟩ := h.exists_first plus
  rw [hchars]
  rintro heq
  rw [(List.cons.inj heq).1, hsign] at hc
  cases hc

/-- A well-formed numeral is made of digits, points, exponents and signs, and it has not only
digits. -/
theorem Fits.chars_spec {l : Laid} (h : l.Fits) {plus : String} (hplus : plus = "" ∨ plus = "+") :
    (∀ c ∈ l.chars plus, IsNumeralChar c) ∧
      ∃ c ∈ l.chars plus, c.isDigit = false := by
  constructor
  · have hpart : ∀ c ∈ exponentPart plus l.exponent?, IsNumeralChar c := by
      cases l.exponent? with
      | none => simp [exponentPart]
      | some e =>
          have hsign : ∀ c ∈ (if e < 0 then "-" else plus).toList, c ∈ ['.', 'e', '-', '+'] := by
            rcases hplus with rfl | rfl <;> split_ifs <;> decide
          intro c hc
          rcases List.mem_cons.mp hc with rfl | hc
          · exact .inr (by decide)
          · exact (List.mem_append.mp hc).elim (fun hc => .inr (hsign c hc))
              (fun hc => .inl (isDigit_toDigits _ c hc))
    intro c hc
    rw [chars, List.mem_append, List.mem_append] at hc
    rcases hc with hc | hc | hc
    · exact .inl (h.whole c hc)
    · split_ifs at hc
      · cases hc
      · rcases List.mem_cons.mp hc with rfl | hc
        · exact .inr (by decide)
        · exact .inl (h.fraction c hc)
    · exact hpart c hc
  · rcases h.fractional with hfraction | hexponent
    · exact ⟨'.', by simp [chars, hfraction], rfl⟩
    · obtain ⟨e, he⟩ := Option.isSome_iff_exists.mp hexponent
      exact ⟨'e', by simp [chars, he, exponentPart], rfl⟩

end Laid

/-- **The text of a finite number names it**: the shortest digits that are written for it are read
as the number itself, with or without a plus sign in the exponent. -/
theorem readSignedNumeral_dataText {plus : String} (hplus : plus = "" ∨ plus = "+")
    (negative : Bool) (rank : Fin finiteCount) :
    readSignedNumeral (dataText plus negative rank).toList = some (.finite negative rank) := by
  have hread := Laid.readNumeral_chars hplus (Laid.fits_ofRank rank)
  have hnames := fun negative => Laid.ofDecimal_ofRank negative rank
  rw [Laid.dataText_eq]
  cases negative with
  | true =>
      change readSignedNumeral ('-' :: (Laid.ofRank rank).chars plus) = _
      rw [readSignedNumeral, hread, Option.map_some, hnames]
  | false =>
      change readSignedNumeral ((Laid.ofRank rank).chars plus) = _
      rw [readSignedNumeral, hread, Option.map_some, hnames]
      · exact (Laid.fits_ofRank rank).chars_ne_sign plus rfl
      · exact (Laid.fits_ofRank rank).chars_ne_sign plus rfl

end GeoBench.Number
