/-!
# Blank characters

The characters with the Unicode property `White_Space`, and the text left when they are taken off
both ends. Readers of tables, command renderings and error texts all use this one notion of a blank.

## Main results

* `isBlank_of_isWhitespace` — every blank of plain ASCII text is a blank here.
* `trimChars_nil_iff` — trimming leaves nothing exactly when the text is all blanks.
-/

namespace GeoBench.Text

/-- A **blank**: a character of the Unicode property `White_Space`. -/
def isBlank (c : Char) : Bool :=
  let n := c.toNat
  (0x9 ≤ n && n ≤ 0xD) || n == 0x20 || n == 0x85 || n == 0xA0 || n == 0x1680 ||
    (0x2000 ≤ n && n ≤ 0x200A) || n == 0x2028 || n == 0x2029 || n == 0x202F || n == 0x205F ||
    n == 0x3000

/-- The characters of a text without the blanks at its two ends. -/
def trimChars (cs : List Char) : List Char :=
  (((cs.dropWhile isBlank).reverse).dropWhile isBlank).reverse

/-- A text without the blanks at its two ends. -/
def trim (s : String) : String :=
  String.ofList (trimChars s.toList)

/-- ASCII white space is blank. -/
theorem isBlank_of_isWhitespace {c : Char} (h : c.isWhitespace) : isBlank c := by
  simp only [Char.isWhitespace, Bool.or_eq_true, decide_eq_true_eq] at h
  rcases h with ((h | h) | h) | h <;> subst h <;> rfl

/-- Dropping a leading stretch leaves nothing exactly when the stretch is the whole list. -/
theorem dropWhile_nil_iff {α : Type} {p : α → Bool} {l : List α} :
    l.dropWhile p = [] ↔ ∀ a ∈ l, p a := by
  induction l with
  | nil => simp
  | cons a l ih => by_cases h : p a = true <;> simp [List.dropWhile, h, ih]

/-- Trimming leaves nothing exactly when every character is blank. -/
theorem trimChars_nil_iff {cs : List Char} : trimChars cs = [] ↔ ∀ c ∈ cs, isBlank c := by
  rw [trimChars, List.reverse_eq_nil_iff, dropWhile_nil_iff]
  constructor
  · intro h c hc
    rw [← List.takeWhile_append_dropWhile (p := isBlank) (l := cs)] at hc
    rcases List.mem_append.1 hc with hc | hc
    · exact List.all_eq_true.1 List.all_takeWhile c hc
    · exact h c (List.mem_reverse.2 hc)
  · intro h c hc
    exact h c ((List.dropWhile_sublist isBlank).subset (List.mem_reverse.1 hc))

end GeoBench.Text
