import GeoBench.Number.Decimal
import GeoBench.Yaml.Fault
import GeoBench.Yaml.Token

/-!
# Values of a data file

The values that a data file holds, when two of them count as the same key, and what a plain scalar
means: nothing, a truth value, a number, or its own text.

## Two notions of sameness

Two values count as the same key without regard to the order of their mappings, to the exclamation
mark of a tag and to the sign of a zero (`same`); two values are equal if they agree in everything
(`beq`). The first decides which entries of a mapping are refused as repeated, the second is what
proofs and tests compare by.

## Plain scalars

What a plain scalar means is tried in a fixed order: nothing, a truth value, a whole number in one
of its bases, a number with places, and at last its own text. A run of digits with a superfluous
zero in front is a text, so that numbers of houses and the like keep their zeros.

## Main results

* `Value.beq_iff` — two values are told apart entry by entry.
-/

namespace GeoBench.Yaml

open GeoBench.Number

/-- A **number**: a whole one of 64 bits with or without sign, or a binary64 one. -/
inductive Numeral where
  | whole (value : Int)
  | float (value : Binary64)
  deriving DecidableEq

/-- A **value**. The entries of a mapping keep their order. -/
inductive Value where
  | null
  | bool (value : Bool)
  | number (value : Numeral)
  | string (text : String)
  | sequence (items : List Value)
  | mapping (entries : List (Value × Value))
  | tagged (tag : String) (value : Value)
  deriving Inhabited

/-- The name of a tag, without an exclamation mark in front of more. -/
def tagName (tag : String) : String :=
  match tag.toList with
  | '!' :: c :: cs => String.ofList (c :: cs)
  | _ => tag

/-- Whether two tags have one name. -/
def sameTag (a b : String) : Bool :=
  tagName a == tagName b

/-- Whether two numbers are the same key: by kind and then by value, where the two zeros are one and
no number is itself. -/
def Numeral.same : Numeral → Numeral → Bool
  | .whole a, .whole b => a == b
  | .float (.finite s a), .float (.finite t b) => a == b && (s == t || a.val == 0)
  | .float a, .float b => a == b
  | _, _ => false

namespace Value

mutual

/-- Whether two values are the **same** key. The order of a mapping does not matter. -/
def same : Value → Value → Bool
  | .null, .null => true
  | .bool a, .bool b => a == b
  | .number a, .number b => a.same b
  | .string a, .string b => a == b
  | .sequence as, .sequence bs => sameItems as bs
  | .mapping as, .mapping bs => as.length == bs.length && sameEntries as bs
  | .tagged s a, .tagged t b => sameTag s t && same a b
  | _, _ => false

/-- Whether two sequences are the same, member by member. -/
def sameItems : List Value → List Value → Bool
  | [], [] => true
  | a :: as, b :: bs => same a b && sameItems as bs
  | _, _ => false

/-- Whether every entry of one mapping is in the other one. -/
def sameEntries : List (Value × Value) → List (Value × Value) → Bool
  | [], _ => true
  | (k, v) :: rest, bs => (bs.any fun e => same k e.1 && same v e.2) && sameEntries rest bs

end

mutual

/-- Whether two values are equal, with the entries of their mappings in the same order. -/
def beq : Value → Value → Bool
  | .null, .null => true
  | .bool a, .bool b => a == b
  | .number a, .number b => a == b
  | .string a, .string b => a == b
  | .sequence vs, .sequence ws => beqItems vs ws
  | .mapping es, .mapping fs => beqEntries es fs
  | .tagged s v, .tagged t w => s == t && beq v w
  | _, _ => false

/-- Whether two sequences are equal, member by member. -/
def beqItems : List Value → List Value → Bool
  | [], [] => true
  | v :: vs, w :: ws => beq v w && beqItems vs ws
  | _, _ => false

/-- Whether two mappings are equal, entry by entry. -/
def beqEntries : List (Value × Value) → List (Value × Value) → Bool
  | [], [] => true
  | (k, v) :: es, (l, w) :: fs => beq k l && beq v w && beqEntries es fs
  | _, _ => false

end

mutual

/-- The comparison of values decides their equality, by recursion on both. -/
theorem beq_iff : (v w : Value) → (beq v w ↔ v = w)
  | .null, w | .bool _, w | .number _, w | .string _, w => by cases w <;> simp [beq]
  | .sequence vs, w => by cases w <;> simp [beq, beqItems_iff vs]
  | .mapping es, w => by cases w <;> simp [beq, beqEntries_iff es]
  | .tagged _ v, w => by cases w <;> simp [beq, beq_iff v]

/-- The same for lists of values. -/
theorem beqItems_iff : (vs ws : List Value) → (beqItems vs ws ↔ vs = ws)
  | [], ws => by cases ws <;> simp [beqItems]
  | v :: vs, ws => by cases ws <;> simp [beqItems, beq_iff v, beqItems_iff vs]

/-- The same for entries. -/
theorem beqEntries_iff : (es fs : List (Value × Value)) → (beqEntries es fs ↔ es = fs)
  | [], fs => by cases fs <;> simp [beqEntries]
  | (k, v) :: es, fs => by
    cases fs <;> simp [beqEntries, beq_iff k, beq_iff v, beqEntries_iff es, Prod.ext_iff]

end

instance : DecidableEq Value := fun v w => decidable_of_iff _ (beq_iff v w)

/-! ### Plain scalars -/

/-- The text behind some characters that it starts with. -/
def after? (start : String) (cs : List Char) : Option (List Char) :=
  if start.toList.isPrefixOf cs then some (cs.drop start.length) else none

/-- Whether a text starts with a sign. -/
def startsWithSign : List Char → Bool
  | c :: _ => c == '+' || c == '-'
  | [] => false

/-- Digits that begin with a superfluous zero; they are no number. -/
def isPaddedDigits (cs : List Char) : Bool :=
  let digits := match cs with
    | '-' :: rest => rest
    | '+' :: rest => rest
    | rest => rest
  match digits with
  | '0' :: d :: rest => (d :: rest).all Char.isDigit
  | _ => false

/-- The bases that a mark in front announces. -/
def markedBases : List (String × Nat) :=
  [("0x", 16), ("0o", 8), ("0b", 2)]

/-- A whole number without a minus sign, below `2 ^ bits`. -/
def unsigned? (bits : Nat) (cs : List Char) : Option Nat :=
  let body := match cs with
    | '+' :: rest => rest
    | rest => rest
  let marked := markedBases.findSome? fun (mark, base) =>
    match after? mark body with
    | some digits => if startsWithSign digits then none else readUnsigned bits base digits
    | none => none
  match marked with
  | some n => some n
  | none => if startsWithSign body || isPaddedDigits cs then none else readUnsigned bits 10 body

/-- A whole number in the two's complement range of `bits` bits; the mark of a base stands behind
the minus sign. -/
def signed? (bits : Nat) (cs : List Char) : Option Int :=
  let marked := markedBases.findSome? fun (mark, base) =>
    match after? ("-" ++ mark) cs with
    | some digits => readSigned bits base ('-' :: digits)
    | none => none
  match marked with
  | some n => some n
  | none => if isPaddedDigits cs then none else readSigned bits 10 cs

/-- A truth value. -/
def bool? (s : String) : Option Bool :=
  if s = "true" || s = "True" || s = "TRUE" then some true
  else if s = "false" || s = "False" || s = "FALSE" then some false
  else none

/-- Whether a text says that there is no value. -/
def saysNull (s : String) : Bool :=
  s = "null" || s = "Null" || s = "NULL" || s = "~"

/-- A number that may have a fraction: finite, or one of the words for what is not. -/
def float? (s : String) : Option Binary64 :=
  let cs := s.toList
  let unsigned? : Option (List Char) := match cs with
    | '+' :: rest => if startsWithSign rest then none else some rest
    | rest => some rest
  match unsigned? with
  | none => none
  | some body =>
    if [".inf".toList, ".Inf".toList, ".INF".toList].contains body then some (.infinite false)
    else if ["-.inf", "-.Inf", "-.INF"].contains s then some (.infinite true)
    else if [".nan", ".NaN", ".NAN"].contains s then some .nan
    else (readSignedNumeral body).filter Binary64.isFinite

/-- What a text that looks like a whole number means, if it looks like one. Beyond 64 bits it means
nothing at all up to 128 bits. -/
def wholeOf (s : String) : Option (Except Fault Value) :=
  let cs := s.toList
  match unsigned? 64 cs with
  | some n => some (.ok (.number (.whole n)))
  | none =>
    match signed? 64 cs with
    | some n => some (.ok (.number (.whole n)))
    | none =>
      if (unsigned? 128 cs).isSome || (signed? 128 cs).isSome then some (.error .range) else none

/-- What a **plain** scalar means. -/
def ofPlain (s : String) : Except Fault Value :=
  if s = "" || saysNull s then .ok .null
  else match bool? s with
    | some b => .ok (.bool b)
    | none =>
      match wholeOf s with
      | some result => result
      | none =>
        if isPaddedDigits s.toList then .ok (.string s)
        else match float? s with
          | some x => .ok (.number (.float x))
          | none => .ok (.string s)

/-- The tags of the kinds of scalars. -/
abbrev kindTag (kind : String) : String := "tag:yaml.org,2002:" ++ kind

/-- What a scalar with a tag that names a kind means. -/
def ofKind? (tag s : String) : Option (Except Fault Value) :=
  let needed (v? : Option Value) : Except Fault Value :=
    match v? with
    | some v => .ok v
    | none => .error .kind
  if tag = kindTag "bool" then some (needed ((bool? s).map .bool))
  else if tag = kindTag "int" then
    some (match wholeOf s with
      | some (.ok v) => .ok v
      | some (.error fault) => .error fault
      | none => .error .kind)
  else if tag = kindTag "float" then
    some (needed ((float? s).map fun x => .number (.float x)))
  else if tag = kindTag "null" then some (needed (if saysNull s then some .null else none))
  else none

/-- What a scalar means. Its tag counts unless a value around it has taken it. -/
def ofScalar (tag? : Option String) (text : String) (style : ScalarStyle) : Except Fault Value :=
  match tag? with
  | none => if style = .plain then ofPlain text else .ok (.string text)
  | some tag => (ofKind? tag text).getD (.ok (.string text))

/-- The tag that makes a value a tagged one, without the exclamation mark in front of more. -/
def ownTag? (tag? : Option String) : Option String :=
  match tag? with
  | some tag => if tag.toList.head? == some '!' then some (tagName tag) else none
  | none => none

/-- The text of a number. -/
def numberText : Numeral → String
  | .whole n => toString n
  | .float .nan => ".nan"
  | .float (.infinite negative) => signText negative ++ ".inf"
  | .float (.finite negative rank) => dataText "" negative rank

end Value

end GeoBench.Yaml
