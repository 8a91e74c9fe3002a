/-!
# Characters of a data file

The classes of characters that the grammar of indented data files distinguishes: the ones it admits
at all, line breaks, spaces, the characters of names and of tags, and the ones that can be shown
without an escape.

## Main results

* `isAllowed_of_isPrintable` — what can be shown can be read.
-/

namespace GeoBench.Yaml

/-- A **line break**: a line feed, a carriage return, or one of the three wider breaks. -/
def isBreak (c : Char) : Bool :=
  c == '\n' || c == '\r' || c == '\u0085' || c == '\u2028' || c == '\u2029'

/-- A space or a tab. -/
def isGap (c : Char) : Bool :=
  c == ' ' || c == '\t'

/-- Whether the text ends here or goes on with a gap or a break. -/
def atGapOrEnd : List Char → Bool
  | [] => true
  | c :: _ => isGap c || isBreak c

/-- Whether the text ends here or goes on with a break. -/
def atBreakOrEnd : List Char → Bool
  | [] => true
  | c :: _ => isBreak c

/-- A character of a name. -/
def isNameChar (c : Char) : Bool :=
  c.isAlphanum || c == '_' || c == '-'

/-- A character of a tag besides those of names. The brackets and the comma are left out where a tag
may stand inside a collection. -/
def isTagChar (brackets : Bool) (c : Char) : Bool :=
  isNameChar c || ";/?:@&=+$.!~*'()%".toList.contains c || (brackets && ",[]".toList.contains c)

/-- A character that a data file may hold. -/
def isAllowed (c : Char) : Bool :=
  let n := c.toNat
  n == 0x9 || n == 0xA || n == 0xD || (0x20 ≤ n && n ≤ 0x7E) || n == 0x85 ||
    (0xA0 ≤ n && n ≤ 0xD7FF) || (0xE000 ≤ n && n ≤ 0xFFFD) || 0x10000 ≤ n

/-- The byte order mark. -/
abbrev byteOrderMark : Char := '\uFEFF'

/-- A character that is written as it is: no control, and not the byte order mark. -/
def isPrintable (c : Char) : Bool :=
  let n := c.toNat
  n == 0xA || (0x20 ≤ n && n ≤ 0x7E) || (0xA0 ≤ n && n ≤ 0xD7FF) ||
    (0xE000 ≤ n && n ≤ 0xFFFD && n != 0xFEFF) || 0x10000 ≤ n

/-- What can be shown can be read. -/
theorem isAllowed_of_isPrintable {c : Char} (h : isPrintable c) : isAllowed c := by
  simp only [isPrintable, isAllowed, Bool.or_eq_true, Bool.and_eq_true, beq_iff_eq,
    decide_eq_true_eq] at *
  omega

end GeoBench.Yaml
