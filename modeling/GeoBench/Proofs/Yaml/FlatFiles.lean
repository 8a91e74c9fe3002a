import GeoBench.Proofs.Yaml.ScalarLines
import GeoBench.Yaml.Document

/-!
# Files of named scalars

A data file that gives one name and one scalar on each line is cut line by line: each line is a key
and its value, the first key opens a mapping, and the end of the file closes it.

## Conventions

A file of this kind has a name, a colon, a blank, a scalar and a line feed on each line. A name is
one word of letters, digits, underscores and dashes that begins with no dash, so that it is a plain
key whatever follows it. A scalar is plain, or stands between quotes of either kind, and has to fit
on one line.

## The state between two lines

At the beginning of a line the tokenizer is in one block mapping or, on the first line, in none; it
holds no pending key and no bracket is open (`StartsLine`). The name makes a pending place for a
key, the colon turns it into the key token, and the scalar closes the line. So one line takes the
tokenizer from one such state to the next with four tokens more, and the file follows by induction
on its lines.

The tokens are told as they are inserted, with the key token in front of the name although it is
found behind it; what is proved of a line is therefore about the list of all tokens so far.

## Main results

* `Lexer.StartsLine.run_line` — one line is cut into a key and its value.
* `Scan.ofText_renderLines` — the tokens of such a file.
-/

namespace GeoBench.Yaml

/-! ### Lines -/

/-- A **scalar** as it is written on its line. -/
inductive WrittenScalar where
  | plain (text : String)
  | quoted (single : Bool) (text : String)
  deriving DecidableEq, Repr

namespace WrittenScalar

/-- The text of a scalar. -/
def text : WrittenScalar → String
  | plain s => s
  | quoted _ s => s

/-- The style of a scalar. -/
def style : WrittenScalar → ScalarStyle
  | plain _ => .plain
  | quoted _ _ => .quoted

/-- The characters that a scalar is written with. -/
def characters : WrittenScalar → List Char
  | plain s => s.toList
  | quoted single s => quotedLine single s.toList

/-- Whether a scalar **fits** on a line, as it is written. -/
def Fits : WrittenScalar → Prop
  | plain s => IsPlainLine s.toList
  | quoted _ s => ∀ c ∈ s.toList, isBreak c = false ∧ isAllowed c

/-- What a scalar means. -/
def value : WrittenScalar → Except Fault Value
  | plain s => Value.ofPlain s
  | quoted _ s => .ok (.string s)

end WrittenScalar

/-- A **line** of a file: a name and a scalar. -/
structure NamedScalar where
  name : String
  scalar : WrittenScalar
  deriving DecidableEq, Repr

namespace NamedScalar

/-- The characters of a line, up to the break. -/
def characters (l : NamedScalar) : List Char :=
  l.name.toList ++ ':' :: ' ' :: (l.scalar.characters ++ ['\n'])

/-- Whether a line is **well-formed**: its name is one word of letters, digits, underscores and
dashes, of which the first is no dash, and is short enough for a key; its scalar fits. -/
structure Fits (l : NamedScalar) : Prop where
  name : ∀ c ∈ l.name.toList, isNameChar c
  first : ∃ c cs, l.name.toList = c :: cs ∧ c ≠ '-'
  short : l.name.length ≤ Lexer.longestKey
  scalar : l.scalar.Fits

/-- The tokens of a line. -/
def tokens (l : NamedScalar) : List Token :=
  [.key, .scalar l.name .plain, .value, .scalar l.scalar.text l.scalar.style]

/-- The events of a line. -/
def events (l : NamedScalar) : List Event :=
  [.scalar {} l.name .plain, .scalar {} l.scalar.text l.scalar.style]

/-- The pieces of a line. -/
def pieces (l : NamedScalar) : List Piece :=
  [.scalar none l.name .plain, .scalar none l.scalar.text l.scalar.style]

end NamedScalar

/-- The **text** of a file of named scalars. -/
def renderLines (ls : List NamedScalar) : String :=
  String.ofList (ls.flatMap NamedScalar.characters)

/-! ### Characters of names

The tokenizer decides by single characters, and has a case for each indicator. The characters of
names are letters, digits and two more, so all of these cases are ruled out at once. -/

/-- The characters of a name are within the first 128. -/
theorem toNat_lt_of_isNameChar {c : Char} (h : isNameChar c) : c.toNat < 128 := by
  have hbelow : ∀ {last : Char}, c.val ≤ last.val → last.toNat < 128 → c.toNat < 128 :=
    fun hle hlast => Nat.lt_of_le_of_lt (UInt32.le_iff_toNat_le.mp hle) hlast
  simp only [isNameChar, Bool.or_eq_true, beq_iff_eq] at h
  rcases h with (hword | rfl) | rfl
  · rcases Bool.or_eq_true_iff.mp hword with hletter | hdigit
    · rcases Bool.or_eq_true_iff.mp hletter with hupper | hlower
      · exact hbelow (of_decide_eq_true hupper).2 (by decide)
      · exact hbelow (of_decide_eq_true (Bool.and_eq_true_iff.mp hlower).2) (by decide)
    · exact hbelow (of_decide_eq_true (Bool.and_eq_true_iff.mp hdigit).2) (by decide)
  · decide
  · decide

/-- **What the characters of a name are not**: a gap, a break or the colon behind the name; and the
first one is no character with a meaning of its own. -/
theorem isNameChar_spec {c : Char} (h : isNameChar c) :
    (isGap c = false ∧ isBreak c = false ∧ c ≠ ':' ∧ isAllowed c) ∧
      (c ≠ '-' → Lexer.isIndicator c = false ∧ c ≠ '.' ∧ c ≠ byteOrderMark) := by
  have hall : ∀ n < 128, isNameChar (Char.ofNat n) →
      (isGap (Char.ofNat n) = false ∧ isBreak (Char.ofNat n) = false ∧ Char.ofNat n ≠ ':' ∧
        isAllowed (Char.ofNat n)) ∧
      (Char.ofNat n ≠ '-' → Lexer.isIndicator (Char.ofNat n) = false ∧ Char.ofNat n ≠ '.' ∧
        Char.ofNat n ≠ byteOrderMark) := by
    decide
  have hlt := toNat_lt_of_isNameChar h
  rw [← Char.ofNat_toNat c] at h ⊢
  exact hall _ hlt h

/-- A word without a colon goes on as a plain scalar. -/
theorem goesOn_of_word {cs : List Char}
    (h : ∀ c ∈ cs, isGap c = false ∧ isBreak c = false ∧ c ≠ ':') : goesOn true cs := by
  induction cs with
  | nil => rfl
  | cons c cs ih =>
      obtain ⟨⟨hgap, hbreak, hcolon⟩, hcs⟩ := List.forall_mem_cons.mp h
      simp [goesOn, hgap, hbreak, hcolon, ih hcs]

/-- A name goes on as a plain scalar. -/
theorem goesOn_of_name {cs : List Char} (h : ∀ c ∈ cs, isNameChar c) : goesOn true cs :=
  goesOn_of_word fun c hc =>
    have hspec := (isNameChar_spec (h c hc)).1
    ⟨hspec.1, hspec.2.1, hspec.2.2.1⟩

/-- What a plain scalar does not open with. -/
theorem opensPlain_spec {c : Char} {cs : List Char} (h : opensPlain c cs) :
    isGap c = false ∧ isBreak c = false ∧ c ≠ '#' := by
  rw [opensPlain, Bool.or_eq_true] at h
  rcases h with hword | hmeans
  · simp only [Bool.not_eq_true', Bool.or_eq_false_iff] at hword
    refine ⟨hword.1.1, hword.1.2, ?_⟩
    rintro rfl
    cases hword.2
  · simp only [Bool.and_eq_true, Bool.or_eq_true, beq_iff_eq] at hmeans
    rcases hmeans.1 with (rfl | rfl) | rfl <;> exact ⟨rfl, rfl, by decide⟩

/-- A plain scalar opens whatever stands behind its line. -/
theorem opensPlain_append {c : Char} {cs : List Char} (h : opensPlain c cs) (tail : List Char) :
    opensPlain c (cs ++ tail) := by
  rw [opensPlain, Bool.or_eq_true] at h ⊢
  refine h.imp_right fun hmeans => ?_
  simp only [Bool.and_eq_true, Bool.not_eq_true'] at hmeans ⊢
  exact ⟨hmeans.1, atGapOrEnd_append hmeans.2 tail⟩

/-! ### Single steps

What one step does is told for any state in which it may be made: which token it cuts, and which
state it leaves. -/

namespace Lexer

variable {l : Lexer} {c : Char} {rest : List Char}

/-- Nothing is stale where nothing is pending. -/
theorem dropStale_of_none (h : l.pending = [none]) : l.dropStale = .ok l := by
  obtain ⟨cursor, tokens, indent, indents, keyAllowed, flowDepth, pending⟩ := l
  subst h
  rfl

/-- A key may follow on the same line, up to its longest. -/
theorem dropStale_of_some {p : Pending} (h : l.pending = [some p]) (hline : l.cursor.line ≤ p.line)
    (hindex : l.cursor.index ≤ p.index + longestKey) : l.dropStale = .ok l := by
  have hstale : l.isStale p = false := by
    simp only [isStale, Bool.or_eq_false_iff, decide_eq_false_iff_not]
    omega
  obtain ⟨cursor, tokens, indent, indents, keyAllowed, flowDepth, pending⟩ := l
  subst h
  simp [dropStale, hstale]

/-- A collection that starts no further right goes on. -/
theorem unrollTo_of_le {column : Int} (h : l.indent ≤ column) : l.unrollTo column = l := by
  have hle : ¬ column < l.indent := by omega
  have hclose : closeBlocksTo column l.indents l.indent l.tokens =
      (l.indent, l.indents, l.tokens) := by
    cases l.indents <;> simp only [closeBlocksTo, if_neg hle]
  rw [unrollTo, hclose]
  exact ite_self l

/-- One round of the cutting. -/
theorem run_step {l' : Lexer} (hend : l.tokens.back? ≠ some .streamEnd)
    (hstale : l.dropStale = .ok l) (hstep : l.step = .ok l') (fuel : Nat) :
    run (fuel + 1) l = run fuel l' := by
  have hback : (l.tokens.back? == some .streamEnd) = false := beq_false_of_ne hend
  simp only [run, hback, hstale, hstep, Bool.false_eq_true, if_false]

/-- One step with a token, which stands at the next position. -/
theorem step_of_next {m : Lexer} (hnext : toNextToken (l.cursor.rest.length + 1) l = m)
    (hstale : m.dropStale = .ok m) (hrest : m.cursor.rest = c :: rest)
    (hleft : m.indent ≤ m.cursor.column) : l.step = m.token c rest := by
  rw [step, hnext, hstale]
  simp only [bind, Except.bind]
  rw [hrest, unrollTo_of_le hleft]

/-- A word is the next token where it stands. -/
theorem toNextToken_of_word {index line column : Nat}
    (hcursor : l.cursor = ⟨c :: rest, index, line, column⟩) (hgap : isGap c = false)
    (hbreak : isBreak c = false) (hcomment : c ≠ '#') (hmark : column = 0 → c ≠ byteOrderMark)
    (fuel : Nat) : toNextToken (fuel + 1) l = l := by
  obtain ⟨cursor, tokens, indent, indents, keyAllowed, flowDepth, pending⟩ := l
  subst hcursor
  have hskip : ¬ (column = 0 ∧ c = byteOrderMark) := fun h => hmark h.1 h.2
  obtain ⟨hblank, htab⟩ : c ≠ ' ' ∧ c ≠ '\t' := by simpa [isGap] using hgap
  simp [toNextToken, hskip, Cursor.skipWhile, Cursor.takeWhile, Cursor.skipComment, hblank, htab,
    hcomment, hbreak]

/-- Inside a line a word is the next token behind a blank. -/
theorem toNextToken_of_blank {index line column : Nat}
    (hcursor : l.cursor = ⟨' ' :: c :: rest, index, line, column⟩) (hgap : isGap c = false)
    (hbreak : isBreak c = false) (hcomment : c ≠ '#') (hcolumn : 0 < column) (fuel : Nat) :
    toNextToken (fuel + 1) l = { l with cursor := ⟨c :: rest, index + 1, line, column + 1⟩ } := by
  obtain ⟨cursor, tokens, indent, indents, keyAllowed, flowDepth, pending⟩ := l
  subst hcursor
  have hskip : (column == 0) = false := beq_false_of_ne (Nat.pos_iff_ne_zero.mp hcolumn)
  obtain ⟨hblank, htab⟩ : c ≠ ' ' ∧ c ≠ '\t' := by simpa [isGap] using hgap
  simp [toNextToken, hskip, Cursor.skipWhile, Cursor.takeWhile, Cursor.skipComment, hblank, htab,
    hcomment, hbreak]

/-- At the end of a line the next token is looked for in the next line. -/
theorem toNextToken_of_break {index line column : Nat}
    (hcursor : l.cursor = ⟨'\n' :: rest, index, line, column⟩) (hflow : l.flowDepth = 0)
    (hcolumn : 0 < column) (fuel : Nat) :
    toNextToken (fuel + 1) l =
      toNextToken fuel { l with cursor := ⟨rest, index + 1, line + 1, 0⟩, keyAllowed := true } := by
  obtain ⟨cursor, tokens, indent, indents, keyAllowed, flowDepth, pending⟩ := l
  subst hcursor hflow
  have hskip : (column == 0) = false := beq_false_of_ne (Nat.pos_iff_ne_zero.mp hcolumn)
  have hbreak : isBreak '\n' = true := rfl
  simp [toNextToken, hskip, Cursor.skipWhile, Cursor.takeWhile, Cursor.skipComment, hbreak, inFlow,
    Cursor.nextLine]

/-- At the end of the text nothing is left to be skipped. -/
theorem toNextToken_of_end (h : l.cursor.rest = []) (fuel : Nat) :
    toNextToken (fuel + 1) l = l := by
  obtain ⟨⟨rest, index, line, column⟩, tokens, indent, indents, keyAllowed, flowDepth, pending⟩ := l
  subst h
  simp [toNextToken, Cursor.skipWhile, Cursor.takeWhile, Cursor.skipComment]

/-- Where a plain scalar opens, no other token begins. -/
theorem token_eq_keyable (hflow : l.flowDepth = 0) (hmark : l.cursor.atDocumentMark = false)
    (hopens : opensPlain c rest) :
    l.token c rest = l.keyable fun k => do
      let (text, broken, after) ← plainScalar l.inFlow (l.indent + 1) k
      return (.scalar text .plain, broken, after) := by
  have hinFlow : l.inFlow = false := by simp [inFlow, hflow]
  rw [opensPlain, Bool.or_eq_true] at hopens
  rcases hopens with hword | hmeans
  · have hbegins : beginsPlain false c rest = true := by
      rw [beginsPlain.eq_def, hword, Bool.true_or, Bool.true_or]
    rw [Bool.not_eq_true', Bool.or_eq_false_iff, isIndicator] at hword
    obtain ⟨-, hindicator⟩ := hword
    simp only [String.reduceToList, List.contains_eq_mem, List.mem_cons, List.not_mem_nil, or_false,
      Bool.decide_or, Bool.or_eq_false_iff, decide_eq_false_iff_not, beq_eq_false_iff_ne,
      ne_eq] at hindicator
    simp [token, hmark, hindicator, hinFlow, hbegins]
  · simp only [Bool.and_eq_true, Bool.or_eq_true, beq_iff_eq, Bool.not_eq_true'] at hmeans
    obtain ⟨hc, hrest⟩ := hmeans
    have hbegins : beginsPlain false c rest = true := by
      cases rest with
      | nil => cases hrest
      | cons d rest =>
          obtain ⟨hgap, -⟩ := Bool.or_eq_false_iff.mp hrest
          rcases hc with (rfl | rfl) | rfl <;> simp [beginsPlain, hgap, hrest]
    rcases hc with (rfl | rfl) | rfl <;> simp [token, hmark, hrest, hinFlow, hbegins]

/-- **A plain scalar is cut** where one opens. -/
theorem token_of_plain {m : Lexer} {text : String} {broken : Bool} {after : Cursor}
    (hflow : l.flowDepth = 0) (hmark : l.cursor.atDocumentMark = false) (hopens : opensPlain c rest)
    (hsave : l.savePending = .ok m)
    (hread : plainScalar false (l.indent + 1) m.cursor = .ok (text, broken, after)) :
    l.token c rest =
      .ok { m.push (.scalar text .plain) with keyAllowed := broken, cursor := after } := by
  have hinFlow : l.inFlow = false := by simp [inFlow, hflow]
  rw [token_eq_keyable hflow hmark hopens, keyable, hsave, hinFlow]
  simp only [bind, Except.bind, hread, pure, Except.pure]

/-- **A scalar between quotes is cut** at its opening quote. -/
theorem token_of_quote {m : Lexer} {single : Bool} {text : String} {after : Cursor}
    (hcolumn : 0 < l.cursor.column) (hsave : l.savePending = .ok m)
    (hread : quotedScalar single m.cursor = .ok (text, after)) :
    l.token (quote single) rest =
      .ok { m.push (.scalar text .quoted) with keyAllowed := false, cursor := after } := by
  have hmark : l.cursor.atDocumentMark = false := by
    simp [Cursor.atDocumentMark, Nat.pos_iff_ne_zero.mp hcolumn]
  cases single <;>
    simp [token, quote, hmark, keyable, hsave, hread, bind, Except.bind, pure, Except.pure]

/-! ### One line

The three tokens of a line are cut one after the other, and the key is put in front of the name when
the colon is seen. Where the mapping is opened by the first key, one token more is put in. -/

/-- The cutting of a file of named scalars between two tokens: at a position, behind some tokens,
with the mapping **opened** by its first key or not yet. -/
def inFile (cursor : Cursor) (ts : List Token) (opened keyAllowed : Bool) : Lexer where
  cursor := cursor
  tokens := ts.toArray
  indent := if opened then 0 else -1
  indents := if opened then [-1] else []
  keyAllowed := keyAllowed

/-- The token that the first key puts in before it. -/
def opening (opened : Bool) : List Token :=
  if opened then [] else [.blockMappingStart]

/-- The cutting behind a name, at a position. -/
def behindName (cursor : Cursor) (ts : List Token) (name : String) (opened : Bool) (p : Pending) :
    Lexer :=
  { inFile cursor (ts ++ [.scalar name .plain]) opened false with pending := [some p] }

section

variable {ts : List Token} {opened : Bool} {name : List Char} {index line column : Nat}

/-- The place of a key. -/
def pendingKey (ts : List Token) (opened : Bool) (index line : Nat) : Pending where
  number := ts.length
  needed := opened
  index := index
  line := line
  column := 0

/-- **The name of a line** is cut as a scalar that may be a key. -/
theorem step_name {l : Lexer} (hname : ∀ d ∈ c :: name, isNameChar d) (hdash : c ≠ '-')
    (hrest : atGapOrEnd rest)
    (hnext : toNextToken (l.cursor.rest.length + 1) l =
      inFile ⟨c :: (name ++ ':' :: rest), index, line, 0⟩ ts opened true) :
    l.step = .ok (behindName ⟨':' :: rest, index + (c :: name).length, line, (c :: name).length⟩
      ts (String.ofList (c :: name)) opened (pendingKey ts opened index line)) := by
  have hindent :
      (inFile ⟨c :: (name ++ ':' :: rest), index, line, 0⟩ ts opened true).indent ≤ 0 := by
    cases opened <;> simp [inFile]
  rw [step_of_next hnext (dropStale_of_none rfl) rfl hindent]
  obtain ⟨hc, -⟩ := List.forall_mem_cons.mp hname
  obtain ⟨⟨hgap, hbreak, -⟩, hfirst⟩ := isNameChar_spec hc
  obtain ⟨hindicator, hpoint, -⟩ := hfirst hdash
  have hmark : Cursor.atDocumentMark ⟨c :: (name ++ ':' :: rest), index, line, 0⟩ = false := by
    simp [Cursor.atDocumentMark, hdash, hpoint]
  have hopens : opensPlain c (name ++ ':' :: rest) := by
    simp [opensPlain, hgap, hbreak, hindicator]
  have hsave : (inFile ⟨c :: (name ++ ':' :: rest), index, line, 0⟩ ts opened true).savePending =
      .ok { inFile ⟨c :: (name ++ ':' :: rest), index, line, 0⟩ ts opened true with
        pending := [some (pendingKey ts opened index line)] } := by
    cases opened <;> rfl
  have hread := @plainScalar_of_key
    ((inFile ⟨c :: (name ++ ':' :: rest), index, line, 0⟩ ts opened true).indent + 1)
    (c :: name) rest index line 0 (by omega) (goesOn_of_name hname) hrest
  rw [token_of_plain rfl hmark hopens hsave hread]
  simp [behindName, inFile, push]

/-- The colon behind a name makes it a key, and opens the mapping before the first one. -/
theorem colon_behindName {text : String} :
    (behindName ⟨':' :: rest, index + column, line, column⟩ ts text opened
      (pendingKey ts opened index line)).colon =
    .ok (inFile ⟨rest, index + column + 1, line, column + 1⟩
      (ts ++ opening opened ++ [.key, .scalar text .plain, .value]) true false) := by
  cases opened <;>
    simp [behindName, colon, pendingKey, insert, rollTo, inFile, inFlow, single, push, opening,
      Cursor.next]

/-- A name stays pending up to its colon if it is no longer than a key may be. -/
theorem dropStale_behindName {text : String} (hshort : column ≤ longestKey) :
    (behindName ⟨rest, index + column, line, column⟩ ts text opened
      (pendingKey ts opened index line)).dropStale =
    .ok (behindName ⟨rest, index + column, line, column⟩ ts text opened
      (pendingKey ts opened index line)) :=
  dropStale_of_some rfl (Nat.le_refl line) (Nat.add_le_add_left hshort index)

/-- **The colon of a line** is cut behind its name. -/
theorem step_colon {text : String} (hshort : column ≤ longestKey) :
    (behindName ⟨':' :: ' ' :: rest, index + column, line, column⟩ ts text opened
      (pendingKey ts opened index line)).step =
    .ok (inFile ⟨' ' :: rest, index + column + 1, line, column + 1⟩
      (ts ++ opening opened ++ [.key, .scalar text .plain, .value]) true false) := by
  have hstale := @dropStale_behindName (':' :: ' ' :: rest) ts opened index line column text hshort
  rw [← colon_behindName]
  generalize hl : behindName ⟨':' :: ' ' :: rest, index + column, line, column⟩ ts text opened
    (pendingKey ts opened index line) = l at hstale ⊢
  have hcursor : l.cursor = ⟨':' :: ' ' :: rest, index + column, line, column⟩ := by
    rw [← hl, behindName, inFile]
  have hindent : l.indent ≤ l.cursor.column := by
    rw [hcursor, ← hl]
    cases opened <;> simp [behindName, inFile]
  rw [step_of_next (toNextToken_of_word hcursor rfl rfl (by decide) (fun _ => by decide) _) hstale
    (by rw [hcursor]) hindent]
  simp [token, hcursor, Cursor.atDocumentMark, atGapOrEnd, isGap]

/-- Whether a line **begins** with a name, or is not there. -/
def BeginsName (more : List Char) : Prop :=
  ∀ d ∈ more.head?, isNameChar d ∧ d ≠ '-'

/-- A name begins a line. -/
theorem BeginsName.beginsLine {more : List Char} (h : BeginsName more) : BeginsLine more := by
  intro d hd
  obtain ⟨⟨hgap, hbreak, -⟩, -⟩ := isNameChar_spec (h d hd).1
  exact ⟨hgap, hbreak⟩

/-- The next line is looked at where it begins. -/
theorem BeginsName.toNextToken_eq {l : Lexer} (h : BeginsName l.cursor.rest) (fuel : Nat) :
    toNextToken (fuel + 1) l = l := by
  obtain ⟨⟨more, index, line, column⟩, tokens, indent, indents, keyAllowed, flowDepth, pending⟩ := l
  cases more with
  | nil => exact toNextToken_of_end rfl fuel
  | cons d more =>
      obtain ⟨hname, hdash⟩ := h d rfl
      obtain ⟨⟨hgap, hbreak, -⟩, hfirst⟩ := isNameChar_spec hname
      obtain ⟨hindicator, -, hmark⟩ := hfirst hdash
      have hcomment : d ≠ '#' := by
        rintro rfl
        cases hindicator
      exact toNextToken_of_word rfl hgap hbreak hcomment (fun _ => hmark) fuel

/-- A cutting **starts a line**: behind some tokens, of which the last is not the end of the text,
it goes on with what is left at the first column. -/
structure StartsLine (l : Lexer) (ts : List Token) (opened : Bool) (more : List Char) : Prop where
  tokens : l.tokens = ts.toArray
  pending : l.pending = [none]
  goes : ts.getLast? ≠ some .streamEnd
  next : ∃ index line,
    toNextToken (l.cursor.rest.length + 1) l = inFile ⟨more, index, line, 0⟩ ts opened true

/-- A plain scalar is cut to the end of its line. -/
theorem step_plain {s : String} {more : List Char} (hplain : IsPlainLine s.toList)
    (hmore : BeginsName more) (hcolumn : 0 < column) :
    (inFile ⟨' ' :: (s.toList ++ '\n' :: more), index, line, column⟩ ts true false).step =
      .ok (inFile ⟨more, index + 1 + s.toList.length + 1, line + 1, 0⟩
        (ts ++ [.scalar s .plain]) true true) := by
  have htext : String.ofList s.toList = s := String.ofList_toList
  generalize s.toList = characters at hplain htext ⊢
  cases characters with
  | nil => exact absurd hplain id
  | cons c cs =>
      obtain ⟨hopens, hgo, -⟩ := hplain
      obtain ⟨hgap, hbreak, hcomment⟩ := opensPlain_spec hopens
      have hnext := @toNextToken_of_blank (inFile ⟨' ' :: (c :: cs ++ '\n' :: more), index, line,
        column⟩ ts true false) c (cs ++ '\n' :: more) index line column rfl hgap hbreak hcomment
        hcolumn
      have hread := @plainScalar_of_line 1 (c :: cs) more (index + 1) line (column + 1) rfl hgo
        hmore.beginsLine
      rw [htext] at hread
      have hmark : Cursor.atDocumentMark ⟨c :: (cs ++ '\n' :: more), index + 1, line, column + 1⟩ =
          false := by
        simp [Cursor.atDocumentMark]
      have htoken := @token_of_plain (inFile ⟨c :: (cs ++ '\n' :: more), index + 1, line, column +
        1⟩ ts true false) c (cs ++ '\n' :: more) _ s true _ rfl hmark (opensPlain_append hopens _)
        rfl hread
      refine (step_of_next (hnext _) (dropStale_of_none rfl) rfl (Int.natCast_nonneg _)).trans
        (htoken.trans ?_)
      simp [push, inFile]

/-- A scalar between quotes is cut up to its closing quote. -/
theorem step_quoted {single : Bool} {s : String} {more : List Char}
    (hquoted : ∀ c ∈ s.toList, isBreak c = false) (hcolumn : 0 < column) :
    (inFile ⟨' ' :: (quotedLine single s.toList ++ '\n' :: more), index, line, column⟩ ts true
        false).step =
      .ok (inFile ⟨'\n' :: more, index + 1 + (quotedLine single s.toList).length, line,
        column + 1 + (quotedLine single s.toList).length⟩
        (ts ++ [.scalar s .quoted]) true false) := by
  have hnext := @toNextToken_of_blank (inFile ⟨' ' :: (quotedLine single s.toList ++ '\n' ::
    more), index, line, column⟩ ts true false) (quote single)
    (s.toList.flatMap (quotedChar single) ++ [quote single] ++ '\n' :: more) index line column
    rfl (by cases single <;> rfl) (by cases single <;> rfl) (by cases single <;> decide) hcolumn
  have hread := @quotedScalar_of_line single s.toList ('\n' :: more) (index + 1) line
    (column + 1) hquoted (by simp)
  rw [step_of_next (hnext _) (dropStale_of_none rfl) rfl (Int.natCast_nonneg _),
    token_of_quote (Nat.succ_pos _) rfl hread]
  simp [push, inFile]

/-- **The scalar of a line** is cut, and the next line starts behind it. -/
theorem step_value {scalar : WrittenScalar} {more : List Char} (hfits : scalar.Fits)
    (hmore : BeginsName more) (hcolumn : 0 < column) :
    ∃ l', (inFile ⟨' ' :: (scalar.characters ++ '\n' :: more), index, line, column⟩ ts true
        false).step = .ok l' ∧
      l'.StartsLine (ts ++ [.scalar scalar.text scalar.style]) true more := by
  cases scalar with
  | plain s =>
      exact ⟨_, step_plain hfits hmore hcolumn, rfl, rfl, by simp, _, _,
        BeginsName.toNextToken_eq hmore _⟩
  | quoted single s =>
      refine ⟨_, step_quoted (fun c hc => (hfits c hc).1) hcolumn, rfl, rfl, by simp, _, _,
        (toNextToken_of_break rfl rfl ?_ _).trans (BeginsName.toNextToken_eq hmore _)⟩
      exact Nat.add_pos_left (Nat.succ_pos _) _

/-- **One line is cut** into a key and its value: three tokens are cut, and the next line starts
behind them. -/
theorem StartsLine.run_line {l : Lexer} {n : NamedScalar} {more : List Char}
    (h : l.StartsLine ts opened (n.characters ++ more)) (hfits : n.Fits) (hmore : BeginsName more) :
    ∃ l', (∀ fuel, run (fuel + 3) l = run fuel l') ∧
      l'.StartsLine (ts ++ opening opened ++ n.tokens) true more := by
  obtain ⟨hname, ⟨c, cs, hcs, hdash⟩, hshort, hscalar⟩ := hfits
  obtain ⟨htokens, hpending, hgoes, index, line, hnext⟩ := h
  rw [hcs] at hname
  have htext : String.ofList (c :: cs) = n.name := by rw [← hcs, String.ofList_toList]
  have hcolumn : (c :: cs).length ≤ longestKey := by rwa [← hcs, String.length_toList]
  have hline : n.characters ++ more =
      c :: (cs ++ ':' :: ' ' :: (n.scalar.characters ++ '\n' :: more)) := by
    simp [NamedScalar.characters, hcs]
  rw [hline] at hnext
  have hkey := step_name hname hdash rfl hnext
  have hcolon := @step_colon (n.scalar.characters ++ '\n' :: more) ts opened index line
    (c :: cs).length (String.ofList (c :: cs)) hcolumn
  obtain ⟨l', hvalue, hstarts⟩ := @step_value
    (ts ++ opening opened ++ [.key, .scalar (String.ofList (c :: cs)) .plain, .value])
    (index + (c :: cs).length + 1) line ((c :: cs).length + 1) n.scalar more hscalar hmore
    (Nat.succ_pos _)
  refine ⟨l', fun fuel => ?_, ?_⟩
  · have hend : l.tokens.back? ≠ some .streamEnd := by simpa [htokens] using hgoes
    rw [run_step hend (dropStale_of_none hpending) hkey,
      run_step (by simp [behindName, inFile]) (dropStale_behindName hcolumn) hcolon,
      run_step (by simp [inFile]) (dropStale_of_none rfl) hvalue]
  · simpa [NamedScalar.tokens, htext] using hstarts

/-- **The end of the file** closes the mapping. -/
theorem StartsLine.run_end {l : Lexer} (h : l.StartsLine ts true []) (fuel : Nat) :
    run (fuel + 2) l = ⟨ts ++ [.blockEnd, .streamEnd], none⟩ := by
  obtain ⟨htokens, hpending, hgoes, index, line, hnext⟩ := h
  have hend : l.tokens.back? ≠ some .streamEnd := by simpa [htokens] using hgoes
  have hstep : l.step = .ok { inFile ⟨[], index, line, 0⟩ (ts ++ [.blockEnd, .streamEnd]) false
      true with indents := [] } := by
    rw [step, hnext, dropStale_of_none rfl]
    simp [bind, Except.bind, pure, Except.pure, inFile, finish, unrollTo, inFlow, closeBlocksTo,
      dropPending, push]
  rw [run_step hend (dropStale_of_none hpending) hstep]
  simp [run, inFile]

end

/-! ### The whole file -/

/-- A file of named scalars begins with a name, or is empty. -/
theorem beginsName_lines {ns : List NamedScalar} (hfits : ∀ n ∈ ns, n.Fits) :
    BeginsName (ns.flatMap NamedScalar.characters) := by
  cases ns with
  | nil => exact fun d hd => nomatch hd
  | cons n ns =>
      obtain ⟨hname, ⟨c, cs, hcs, hdash⟩, -, -⟩ := hfits n List.mem_cons_self
      intro d hd
      obtain rfl : d = c := by simpa [NamedScalar.characters, hcs, eq_comm] using hd
      exact ⟨hname d (hcs ▸ List.mem_cons_self), hdash⟩

/-- **The lines that are left** are cut one after another. The induction is on these. -/
theorem StartsLine.run_lines {l : Lexer} {ts : List Token} {ns : List NamedScalar}
    (h : l.StartsLine ts true (ns.flatMap NamedScalar.characters)) (hfits : ∀ n ∈ ns, n.Fits)
    (fuel : Nat) : run (3 * ns.length + (fuel + 2)) l =
      ⟨ts ++ ns.flatMap NamedScalar.tokens ++ [.blockEnd, .streamEnd], none⟩ := by
  induction ns generalizing l ts with
  | nil =>
      rw [List.length_nil, Nat.mul_zero, Nat.zero_add, h.run_end]
      simp
  | cons n ns ih =>
      obtain ⟨hn, hns⟩ := List.forall_mem_cons.mp hfits
      obtain ⟨l', hrun, hstarts⟩ := h.run_line hn (beginsName_lines hns)
      have hfuel : 3 * (n :: ns).length + (fuel + 2) = 3 * ns.length + (fuel + 2) + 3 := by
        rw [List.length_cons]
        omega
      rw [hfuel, hrun, ih hstarts hns]
      simp [opening]

end Lexer

/-- What stands between quotes may stand in a data file if the text may. -/
theorem isAllowed_of_quoted {single : Bool} {c d : Char} (h : isAllowed d)
    (hc : c ∈ quotedChar single d) : isAllowed c := by
  have hcases : c = d ∨ c = '\'' ∨ c = '\\' := by
    unfold quotedChar at hc
    split at hc <;> split at hc <;> simp only [List.mem_cons, List.not_mem_nil, or_false] at hc <;>
      tauto
  rcases hcases with rfl | rfl | rfl
  · exact h
  · rfl
  · rfl

/-- The characters of a scalar that fits may stand in a data file. -/
theorem WrittenScalar.Fits.allowed {scalar : WrittenScalar} (h : scalar.Fits) :
    ∀ c ∈ scalar.characters, isAllowed c := by
  cases scalar with
  | plain s => exact (IsPlainLine.spec h).2
  | quoted single s =>
      intro c hc
      simp only [characters, quotedLine, List.mem_cons, List.mem_append, List.mem_flatMap,
        List.not_mem_nil, or_false] at hc
      rcases hc with rfl | ⟨d, hd, hc⟩ | rfl
      · cases single <;> rfl
      · exact isAllowed_of_quoted (h d hd).2 hc
      · cases single <;> rfl

/-- What fits on a line without quotes fits between them. -/
theorem WrittenScalar.Fits.quoted {s : String} (h : (plain s).Fits) (single : Bool) :
    (WrittenScalar.quoted single s).Fits :=
  fun c hc => ⟨isBreak_of_goesOn (IsPlainLine.spec h).1 c hc, h.allowed c hc⟩

/-- The characters of a line may stand in a data file. -/
theorem NamedScalar.Fits.allowed {n : NamedScalar} (h : n.Fits) :
    ∀ c ∈ n.characters, isAllowed c := by
  intro c hc
  simp only [characters, List.mem_append, List.mem_cons, List.not_mem_nil, or_false] at hc
  rcases hc with hc | rfl | rfl | hc | rfl
  · exact (isNameChar_spec (h.name c hc)).1.2.2.2
  · rfl
  · rfl
  · exact h.scalar.allowed c hc
  · rfl

/-- A line has at least three characters. -/
theorem length_le_lines (ns : List NamedScalar) :
    3 * ns.length ≤ (ns.flatMap NamedScalar.characters).length := by
  induction ns with
  | nil => exact Nat.zero_le _
  | cons n ns ih =>
      rw [List.flatMap_cons, List.length_append, List.length_cons]
      simp only [NamedScalar.characters, List.length_append, List.length_cons, List.length_nil]
      omega

/-- The tokens of a file of named scalars. -/
def fileTokens (ns : List NamedScalar) : List Token :=
  .blockMappingStart :: (ns.flatMap NamedScalar.tokens ++ [.blockEnd, .streamEnd])

/-- **The tokens of a file of named scalars** are those of its lines, one after another. -/
theorem Scan.ofText_renderLines {ns : List NamedScalar} (hne : ns ≠ [])
    (hfits : ∀ n ∈ ns, n.Fits) : Scan.ofText (renderLines ns) = ⟨fileTokens ns, none⟩ := by
  have hallowed : (ns.flatMap NamedScalar.characters).all isAllowed = true := by
    simp only [List.all_eq_true, List.mem_flatMap]
    rintro c ⟨n, hn, hc⟩
    exact (hfits n hn).allowed c hc
  obtain ⟨extra, hextra⟩ := Nat.exists_eq_add_of_le (length_le_lines ns)
  rw [ofText, renderLines, String.toList_ofList, if_pos hallowed, hextra]
  obtain ⟨n, ns, rfl⟩ := List.exists_cons_of_ne_nil hne
  obtain ⟨hn, hns⟩ := List.forall_mem_cons.mp hfits
  have hstart : (Lexer.mk ⟨(n :: ns).flatMap NamedScalar.characters, 0, 0, 0⟩ #[] (-1) [] true 0
      [none]).StartsLine [] false (n.characters ++ ns.flatMap NamedScalar.characters) :=
    ⟨rfl, rfl, by simp, 0, 0, Lexer.BeginsName.toNextToken_eq (Lexer.beginsName_lines hfits) _⟩
  obtain ⟨l', hrun, hstarts⟩ := hstart.run_line hn (Lexer.beginsName_lines hns)
  have hfuel : 3 * (n :: ns).length + extra + 2 = 3 * ns.length + (extra + 2) + 3 := by
    rw [List.length_cons]
    omega
  rw [hfuel, hrun, hstarts.run_lines hns]
  simp [fileTokens, Lexer.opening]

end GeoBench.Yaml
