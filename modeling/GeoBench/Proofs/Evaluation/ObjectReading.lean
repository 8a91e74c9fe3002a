import GeoBench.Proofs.Evaluation.RecordReading

/-!
# Reading an object

A reader for objects without nested values: the text is cut into marks, texts and literals, the
tokens are members one after another, and a literal is nothing, a truth value or a number. It has
the grammar of the format, which is narrower than that of data files: numerals have no plus sign in
front, no superfluous zero and a digit on both sides of a point, and there is none for a number that
is not finite.

## Why another reader

An object could be read as a data file, since every object is one. But data files have words for
numbers that are not finite, and a reader of objects has none: what one form keeps, the other one
loses. A reader of its own makes this visible, and owes nothing to the writer of objects.

## Cutting

The tokens of an object are cut in one pass over its characters, with the token that is still open
in reverse. A member ends with a literal, which is not closed before the next mark or blank is seen,
so the lemma about a member is one about a literal that is left open.

## Main results

* `cutFrom_member` — the tokens of a member.
* `literal?_of_numeral`, `literal?_text` — what the literals of numbers mean.
* `Report.readObject_toObject` — the members that the object of a report holds.
-/

namespace GeoBench

open GeoBench.Number GeoBench.Yaml
open scoped GeoBench.Text.Characters

/-! ### Tokens -/

/-- A **token** of an object. -/
inductive ObjectToken where
  | opening
  | closing
  | colon
  | comma
  | text (s : String)
  | literal (s : String)
  deriving DecidableEq, Repr

namespace ObjectToken

/-- What stands before the next character: no token, or one that goes on, with its characters in
reverse. -/
inductive Open where
  | nothing
  | text (cs : List Char)
  | literal (cs : List Char)

/-- Whether a character stands between tokens. -/
def isBlank (c : Char) : Bool :=
  c == ' ' || c == '\t' || c == '\n' || c == '\r'

/-- The token that a character is by itself. -/
def mark? (c : Char) : Option ObjectToken :=
  if c = '\x7b' then some .opening
  else if c = '\x7d' then some .closing
  else if c = ':' then some .colon
  else if c = ',' then some .comma
  else none

/-- The tokens of the characters from a place on. A text ends with its quote, and there are no
escapes in it; a literal ends before a blank or a mark. -/
def cutFrom : Open → List Char → Option (List ObjectToken)
  | .nothing, [] => some []
  | .nothing, c :: cs =>
    if isBlank c then cutFrom .nothing cs
    else match mark? c with
    | some t => (cutFrom .nothing cs).map (t :: ·)
    | none => if c = '"' then cutFrom (.text []) cs else cutFrom (.literal [c]) cs
  | .text _, [] => none
  | .text t, c :: cs =>
    if c = '"' then (cutFrom .nothing cs).map (.text (String.ofList t.reverse) :: ·)
    else if c = '\\' || c.toNat < 0x20 then none
    else cutFrom (.text (c :: t)) cs
  | .literal l, [] => some [.literal (String.ofList l.reverse)]
  | .literal l, c :: cs =>
    if isBlank c then (cutFrom .nothing cs).map (.literal (String.ofList l.reverse) :: ·)
    else match mark? c with
    | some t => (cutFrom .nothing cs).map (.literal (String.ofList l.reverse) :: t :: ·)
    | none => cutFrom (.literal (c :: l)) cs

/-! ### Literals -/

/-- Whether no place stands behind a point. -/
def lacksPlaces : List Char → Bool
  | '.' :: c :: _ => !c.isDigit
  | ['.'] => true
  | _ => false

/-- The whole part of a numeral without a sign and what stands behind it. -/
def parts? (body : List Char) : Option (List Char × List Char) :=
  let whole := body.takeWhile Char.isDigit
  let rest := body.dropWhile Char.isDigit
  if whole = [] ∨ (whole.head? = some '0' ∧ whole.length ≠ 1) ∨ lacksPlaces rest then none
  else some (whole, rest)

/-- The number that a numeral names behind its sign: a whole one without a point and an exponent. -/
def unsigned? (negative : Bool) (body : List Char) : Option Numeral := do
  let (whole, rest) ← parts? body
  let n : Int := Nat.ofDigitChars 10 whole 0
  if rest = [] then return .whole (if negative then -n else n)
  else
    let d ← readNumeral body
    return .float (.ofDecimal negative d.digits d.exponent)

/-- The number that a numeral of an object names. -/
def numeral? : List Char → Option Numeral
  | '-' :: body => unsigned? true body
  | body => unsigned? false body

/-- The value of a literal. -/
def literal? (s : String) : Option Value :=
  if s = "null" then some .null
  else if s = "true" then some (.bool true)
  else if s = "false" then some (.bool false)
  else (numeral? s.toList).map .number

/-! ### Members -/

/-- The members that tokens name, up to the end of the object. -/
def membersOf : List ObjectToken → Option (List (String × Value))
  | .text name :: .colon :: .literal l :: .comma :: ts => do
    let v ← literal? l
    let members ← membersOf ts
    return (name, v) :: members
  | [.text name, .colon, .literal l, .closing] => (literal? l).map fun v => [(name, v)]
  | _ => none

end ObjectToken

open ObjectToken

/-- The **members** of an object without nested values, in their order. -/
def readObject (text : String) : Option (List (String × Value)) := do
  match ← cutFrom .nothing text.toList with
  | [.opening, .closing] => some []
  | .opening :: ts => membersOf ts
  | _ => none

namespace ObjectToken

/-! ### Cutting -/

section

variable {cs tail : List Char}

/-- Characters of a text without a quote or an escape are taken into it, up to its quote. The
induction is on the characters. -/
theorem cutFrom_text (h : ∀ c ∈ cs, c ≠ '"' ∧ c ≠ '\\' ∧ 0x20 ≤ c.toNat) (before : List Char) :
    cutFrom (.text before) (cs ++ '"' :: tail) =
      (cutFrom .nothing tail).map (.text (String.ofList (before.reverse ++ cs)) :: ·) := by
  induction cs generalizing before with
  | nil => rw [List.nil_append, cutFrom, if_pos rfl, List.append_nil]
  | cons c cs ih =>
      obtain ⟨⟨hquote, hescape, hprinted⟩, hcs⟩ := List.forall_mem_cons.mp h
      have hstays : (c = '\\' || c.toNat < 0x20) = false := by
        simpa [hescape] using hprinted
      rw [List.cons_append, cutFrom, if_neg hquote, hstays, if_neg Bool.false_ne_true, ih hcs,
        List.reverse_cons, List.append_assoc, List.singleton_append]

/-- Whether a character is one of a literal. -/
def IsInner (c : Char) : Prop :=
  isBlank c = false ∧ mark? c = none ∧ c ≠ '"'

instance : DecidablePred IsInner := fun c =>
  inferInstanceAs (Decidable (isBlank c = false ∧ mark? c = none ∧ c ≠ '"'))

/-- Characters of a literal are taken into it. The induction is on the characters. -/
theorem cutFrom_literal (h : ∀ c ∈ cs, IsInner c) (before : List Char) :
    cutFrom (.literal before) (cs ++ tail) = cutFrom (.literal (cs.reverse ++ before)) tail := by
  induction cs generalizing before with
  | nil => rfl
  | cons c cs ih =>
      obtain ⟨⟨hblank, hmark, -⟩, hcs⟩ := List.forall_mem_cons.mp h
      rw [List.cons_append, cutFrom, hblank, if_neg Bool.false_ne_true, hmark]
      dsimp only
      rw [ih hcs, List.reverse_cons, List.append_assoc, List.singleton_append]

/-- A literal begins with its first character. -/
theorem cutFrom_inner (hne : cs ≠ []) (h : ∀ c ∈ cs, IsInner c) :
    cutFrom .nothing (cs ++ tail) = cutFrom (.literal cs.reverse) tail := by
  obtain ⟨c, cs, rfl⟩ := List.exists_cons_of_ne_nil hne
  obtain ⟨⟨hblank, hmark, hquote⟩, hcs⟩ := List.forall_mem_cons.mp h
  rw [List.cons_append, cutFrom, hblank, if_neg Bool.false_ne_true, hmark]
  dsimp only
  rw [if_neg hquote, cutFrom_literal hcs, List.reverse_cons]

/-- **The tokens of a member**, whose literal is still open. -/
theorem cutFrom_member {name literal : String}
    (hname : ∀ c ∈ name.toList, c ≠ '"' ∧ c ≠ '\\' ∧ 0x20 ≤ c.toNat) (hne : literal ≠ "")
    (hliteral : ∀ c ∈ literal.toList, IsInner c) :
    cutFrom .nothing (("  \"" ++ name ++ "\": " ++ literal).toList ++ tail) =
      (cutFrom (.literal literal.toList.reverse) tail).map ([.text name, .colon] ++ ·) := by
  have hshape : ("  \"" ++ name ++ "\": " ++ literal).toList ++ tail =
      ' ' :: ' ' :: '"' :: (name.toList ++ '"' :: ':' :: ' ' :: (literal.toList ++ tail)) := by
    simp [String.toList_append]
  have hopens : ∀ cs, cutFrom .nothing (' ' :: ' ' :: '"' :: cs) = cutFrom (.text []) cs :=
    fun _ => rfl
  have hcolon : ∀ cs, cutFrom .nothing (':' :: ' ' :: cs) =
      (cutFrom .nothing cs).map (.colon :: ·) := fun _ => rfl
  have hsome : literal.toList ≠ [] := fun heq => hne (String.toList_eq_nil_iff.mp heq)
  rw [hshape, hopens, cutFrom_text hname, hcolon, cutFrom_inner hsome hliteral, List.reverse_nil,
    List.nil_append, String.ofList_toList, Option.map_map]
  rfl

end

/-! ### Numbers -/

/-- The parts of a numeral that has the grammar. -/
theorem parts?_append {whole rest : List Char} (hne : whole ≠ []) (hwhole : ∀ c ∈ whole, c.isDigit)
    (hpadded : ∀ d more, whole ≠ '0' :: d :: more) (hrest : ∀ c ∈ rest.head?, c.isDigit = false)
    (hplaces : lacksPlaces rest = false) : parts? (whole ++ rest) = some (whole, rest) := by
  have hstop : rest.takeWhile Char.isDigit = [] ∧ rest.dropWhile Char.isDigit = rest := by
    cases rest with
    | nil => exact ⟨rfl, rfl⟩
    | cons c rest => simp [hrest c rfl]
  have hzero : ¬ (whole.head? = some '0' ∧ whole.length ≠ 1) := by
    rintro ⟨hhead, hlength⟩
    rcases whole with _ | ⟨c, _ | ⟨d, more⟩⟩
    · exact hne rfl
    · exact hlength rfl
    · exact hpadded d more (by rw [Option.some.inj hhead])
  rw [parts?, List.takeWhile_append_of_pos hwhole, List.dropWhile_append_of_pos hwhole, hstop.1,
    hstop.2, List.append_nil]
  simp [hne, hzero, hplaces]

/-- A whole number is the numeral of itself. -/
theorem numeral?_toString (n : Nat) : numeral? (toString n).toList = some (.whole n) := by
  have htext : (toString n).toList = Nat.toDigits 10 n := Nat.toList_repr
  have hdigits := isDigit_toDigits n
  have hparts := @parts?_append _ [] Nat.toDigits_ne_nil hdigits (toDigits_ne_padded n) (by simp)
    rfl
  rw [List.append_nil] at hparts
  have hunsigned : unsigned? false (Nat.toDigits 10 n) = some (.whole n) := by
    rw [unsigned?, hparts]
    simp [Nat.ofDigitChars_toDigits]
  rw [htext, numeral?]
  · exact hunsigned
  · exact ne_sign_of_digits hdigits rfl

/-- A numeral that is laid out has the grammar. -/
theorem parts?_chars {l : Laid} (h : l.Fits) (plus : String) :
    ∃ rest, rest ≠ [] ∧ parts? (l.chars plus) = some (l.whole, rest) := by
  cases hfraction : l.fraction with
  | nil =>
      obtain ⟨e, he⟩ :=
        Option.isSome_iff_exists.mp (h.fractional.resolve_left fun hne => hne hfraction)
      rw [Laid.chars, if_pos hfraction, he]
      exact ⟨_, List.cons_ne_nil _ _,
        parts?_append h.whole_ne h.whole h.unpadded (fun c hc => by cases hc; rfl) rfl⟩
  | cons c fraction =>
      have hc : c.isDigit := h.fraction c (hfraction ▸ List.mem_cons_self)
      have hplaces : ∀ tail, lacksPlaces ('.' :: c :: tail) = false := by
        simp [lacksPlaces, hc]
      rw [Laid.chars, if_neg (by simp [hfraction]), hfraction]
      exact ⟨_, List.cons_ne_nil _ _,
        parts?_append h.whole_ne h.whole h.unpadded (fun c hc => by cases hc; rfl) (hplaces _)⟩

/-- **A finite number** is the numeral of itself. -/
theorem numeral?_dataText (negative : Bool) (rank : Fin finiteCount) :
    numeral? (dataText "+" negative rank).toList = some (.float (.finite negative rank)) := by
  have hfits := Laid.fits_ofRank rank
  obtain ⟨rest, hrest, hparts⟩ := parts?_chars hfits "+"
  have hread := Laid.readNumeral_chars (.inr rfl) hfits
  have hunsigned : ∀ negative, unsigned? negative ((Laid.ofRank rank).chars "+") =
      some (.float (.finite negative rank)) := by
    intro negative
    rw [unsigned?, hparts]
    simp [hrest, hread, Laid.ofDecimal_ofRank]
  rw [Laid.dataText_eq]
  cases negative with
  | true => exact hunsigned true
  | false =>
      change numeral? ((Laid.ofRank rank).chars "+") = _
      rw [numeral?]
      · exact hunsigned false
      · exact hfits.chars_ne_sign "+" rfl

/-- A character of a numeral is one of a literal. -/
theorem isInner_of_numeralChar {c : Char} (h : IsNumeralChar c) :
    IsInner c := by
  have hnone : ∀ d ∈ [' ', '\t', '\n', '\r', '\x7b', '\x7d', ':', ',', '"'],
      ¬ IsNumeralChar d := by
    decide
  have hne : ∀ d ∈ [' ', '\t', '\n', '\r', '\x7b', '\x7d', ':', ',', '"'], c ≠ d := by
    rintro d hd rfl
    exact hnone c hd h
  simp only [List.forall_mem_cons, List.not_mem_nil, false_implies, implies_true, and_true] at hne
  simp [IsInner, isBlank, mark?, hne]

/-- What is a numeral is no word. -/
theorem literal?_of_numeral {s : String} {n : Numeral} (h : numeral? s.toList = some n) :
    literal? s = some (.number n) := by
  have hword : ∀ word ∈ ["null", "true", "false"], s ≠ word := by
    have hnone : ∀ word ∈ ["null", "true", "false"], numeral? word.toList = none := by decide
    rintro word hmem rfl
    rw [hnone s hmem] at h
    cases h
  simp only [List.forall_mem_cons, List.not_mem_nil, false_implies, implies_true, and_true] at hword
  simp [literal?, hword, h]

end ObjectToken

namespace Report

/-- The value of a field in an object: nothing for a number that is not finite. -/
def Field.objectValue : Field → Value
  | .count n => .number (.whole n)
  | .number x => if x.isFinite then .number (.float x) else .null

/-- **The literal of a field** means its value in an object. -/
theorem literal?_text (f : Field) : literal? (f.text objectNumber) = some f.objectValue := by
  cases f with
  | count n => exact literal?_of_numeral (numeral?_toString n)
  | number x =>
      cases x with
      | nan => rfl
      | infinite negative => rfl
      | finite negative rank => exact literal?_of_numeral (numeral?_dataText negative rank)

/-- The literal of a field has characters of literals only, and it has one. -/
theorem isInner_text (f : Field) :
    f.text objectNumber ≠ "" ∧ ∀ c ∈ (f.text objectNumber).toList, IsInner c := by
  refine ⟨?_, ?_⟩
  · intro hempty
    have hread := literal?_text f
    rw [hempty] at hread
    cases hread
  · have hnull : ∀ c ∈ "null".toList, IsInner c := by decide
    cases f with
    | count n =>
        have htext : (toString n).toList = Nat.toDigits 10 n := Nat.toList_repr
        intro c hc
        rw [Field.text, htext] at hc
        exact isInner_of_numeralChar (.inl (isDigit_toDigits n c hc))
    | number x =>
        cases x with
        | nan => exact hnull
        | infinite negative => exact hnull
        | finite negative rank =>
            obtain ⟨hchars, -⟩ := (Laid.fits_ofRank rank).chars_spec (.inr rfl)
            intro c hc
            rw [Field.text, objectNumber, Laid.dataText_eq, List.mem_append] at hc
            refine isInner_of_numeralChar (hc.elim (fun hsign => .inr ?_) (hchars c))
            cases negative with
            | false => cases hsign
            | true => rw [List.mem_singleton.mp hsign]; decide

/-! ### Objects -/

/-- The text of a member. -/
def memberText (field : String × Field) : String :=
  "  \"" ++ field.1 ++ "\": " ++ field.2.text objectNumber

/-- The tokens of the members, up to the end of the object. -/
def memberTokens : List (String × Field) → List ObjectToken
  | [] => [.closing]
  | [field] => [.text field.1, .colon, .literal (field.2.text objectNumber), .closing]
  | field :: next :: fs =>
    .text field.1 :: .colon :: .literal (field.2.text objectNumber) :: .comma ::
      memberTokens (next :: fs)

/-- **The tokens of the members.** The induction is on the members; behind each but the last stands
a comma. -/
theorem cutFrom_members {fs : List (String × Field)} (hne : fs ≠ [])
    (hnames : ∀ field ∈ fs, ∀ c ∈ field.1.toList, c ≠ '"' ∧ c ≠ '\\' ∧ 0x20 ≤ c.toNat) :
    cutFrom .nothing
        ((String.intercalate ",\n" (fs.map memberText)).toList ++ ['\n', '\x7d']) =
      some (memberTokens fs) := by
  induction fs with
  | nil => exact absurd rfl hne
  | cons field fs ih =>
      obtain ⟨hname, hothers⟩ := List.forall_mem_cons.mp hnames
      obtain ⟨hsome, hinner⟩ := isInner_text field.2
      have hmember := fun tail => @cutFrom_member tail _ _ hname hsome hinner
      cases fs with
      | nil =>
          have hend : ∀ l, cutFrom (.literal l) ['\n', '\x7d'] =
              some [.literal (String.ofList l.reverse), .closing] := fun _ => rfl
          rw [List.map_cons, List.map_nil, String.intercalate_singleton, memberText, hmember, hend,
            List.reverse_reverse, String.ofList_toList]
          rfl
      | cons next fs =>
          rw [List.map_cons, List.map_cons, String.intercalate_cons_cons, ← List.map_cons,
            String.toList_append, String.toList_append, List.append_assoc, List.append_assoc,
            memberText, hmember]
          have hcomma : ∀ l cs, cutFrom (.literal l) (",\n".toList ++ cs) =
              (cutFrom .nothing cs).map (.literal (String.ofList l.reverse) :: .comma :: ·) :=
            fun _ _ => rfl
          rw [hcomma, ih (List.cons_ne_nil _ _) hothers, List.reverse_reverse,
            String.ofList_toList]
          rfl

/-- The members that the tokens name. -/
theorem membersOf_memberTokens {fs : List (String × Field)} (hne : fs ≠ []) :
    membersOf (memberTokens fs) = some (fs.map fun field => (field.1, field.2.objectValue)) := by
  induction fs with
  | nil => exact absurd rfl hne
  | cons field fs ih =>
      cases fs with
      | nil => simp [memberTokens, membersOf, literal?_text]
      | cons next fs =>
          rw [memberTokens, membersOf, literal?_text, ih (List.cons_ne_nil _ _)]
          rfl

/-- The names have characters of texts only. -/
theorem names_printed : ∀ name ∈ names, ∀ c ∈ name.toList,
    c ≠ '"' ∧ c ≠ '\\' ∧ 0x20 ≤ c.toNat := by
  decide

/-- **The object of a report holds its fields** in the order of their names, each with its own
value, or with nothing if that is no finite number. -/
theorem readObject_toObject (r : Report) :
    readObject r.toObject =
      some (r.sortedFields.map fun field => (field.1, field.2.objectValue)) := by
  have hne : r.sortedFields ≠ [] := List.cons_ne_nil _ _
  have hnames : ∀ field ∈ r.sortedFields, ∀ c ∈ field.1.toList,
      c ≠ '"' ∧ c ≠ '\\' ∧ 0x20 ≤ c.toNat := by
    intro field h
    have hmem : field ∈ r.fields := r.sortedFields_perm.mem_iff.mp h
    exact names_printed _ (map_fst_fields r ▸ List.mem_map_of_mem hmem)
  have hshape : r.toObject.toList =
      '\x7b' :: '\n' :: ((String.intercalate ",\n" (r.sortedFields.map memberText)).toList ++
        ['\n', '\x7d']) := by
    rw [toObject, String.toList_append, String.toList_append]
    rfl
  have hopening : ∀ cs, cutFrom .nothing ('\x7b' :: '\n' :: cs) =
      (cutFrom .nothing cs).map (.opening :: ·) := fun _ => rfl
  have hmembers := membersOf_memberTokens hne
  rw [readObject, hshape, hopening, cutFrom_members hne hnames]
  exact hmembers

end Report

end GeoBench
