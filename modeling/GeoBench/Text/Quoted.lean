import GeoBench.Text.Hidden

/-!
# Texts in quotes

A text is shown between double quotes so that it can be read back: quotes and backslashes get a
backslash, a few controls have letters, and every other hidden character is spelled by its number.
What goes to a terminal is treated more lightly: only what would steer the terminal is spelled out.

## Main results

* `spellQuoted_visible` — a visible character that is no mark stands for itself.
-/

namespace GeoBench.Text

/-- The digits of a code point in the least number of hexadecimal digits. -/
def codeDigits (c : Char) : String :=
  String.ofList (Nat.toDigits 16 c.toNat)

/-- A character spelled by its number. -/
def spellNumber (c : Char) : String :=
  "\\u\x7b" ++ codeDigits c ++ "\x7d"

/-- A character as it is spelled between quotes. -/
def spellQuoted (c : Char) : String :=
  if c = '"' then "\\\""
  else if c = '\\' then "\\\\"
  else if c = '\n' then "\\n"
  else if c = '\r' then "\\r"
  else if c = '\t' then "\\t"
  else if c = '\x00' then "\\0"
  else if isHidden c then spellNumber c
  else c.toString

/-- A text **in quotes**. -/
def quote (s : String) : String :=
  "\"" ++ String.join (s.toList.map spellQuoted) ++ "\""

/-- A character as it is spelled in a log line: those that steer a terminal by their numbers. -/
def spellLogged (c : Char) : String :=
  let n := c.toNat
  if n = 0x07 ∨ n = 0x08 ∨ n = 0x0C ∨ n = 0x1B ∨ n = 0x7F then
    "\\x" ++ (if n < 0x10 then "0" else "") ++ codeDigits c
  else if 0x80 ≤ n ∧ n ≤ 0x9F then spellNumber c
  else c.toString

/-- A text as it is spelled in a log line. -/
def spellLog (s : String) : String :=
  String.join (s.toList.map spellLogged)

/-- A visible character that is no mark stands for itself. -/
theorem spellQuoted_visible {c : Char} (h : isHidden c = false) (quoteMark : c ≠ '"')
    (backslash : c ≠ '\\') : spellQuoted c = c.toString := by
  have control : ∀ d : Char, d.toNat < 0x20 → c ≠ d := by
    rintro d hd rfl
    simp [isHidden_of_lt_space hd] at h
  simp [spellQuoted, quoteMark, backslash, h, control '\n' (by decide), control '\r' (by decide),
    control '\t' (by decide), control '\x00' (by decide)]

end GeoBench.Text
