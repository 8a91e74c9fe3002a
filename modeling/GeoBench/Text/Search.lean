/-!
# Searching in a text

Whether one text occurs inside another, and the replacement of its occurrences.

## Main results

* `occursIn_iff` — what occurs in a text is what stands between two parts of it.
-/

namespace GeoBench.Text

/-- Whether the characters `needle` occur as one stretch of the other list. -/
def occursIn (needle : List Char) : List Char → Bool
  | [] => needle.isEmpty
  | c :: cs => needle.isPrefixOf (c :: cs) || occursIn needle cs

/-- Whether `needle` **occurs in** the text. The empty text occurs everywhere. -/
def contains (s needle : String) : Bool :=
  occursIn needle.toList s.toList

/-- An occurrence is a stretch between two other stretches. -/
theorem occursIn_iff {needle cs : List Char} :
    occursIn needle cs ↔ ∃ before after, cs = before ++ needle ++ after := by
  induction cs with
  | nil => simp [occursIn]
  | cons c cs ih =>
    rw [occursIn, Bool.or_eq_true, List.isPrefixOf_iff_prefix, ih]
    constructor
    · rintro (⟨after, h⟩ | ⟨before, after, h⟩)
      · exact ⟨[], after, by simpa using h.symm⟩
      · exact ⟨c :: before, after, by simp [h]⟩
    · rintro ⟨before, after, h⟩
      cases before with
      | nil => exact Or.inl ⟨after, by simpa using h.symm⟩
      | cons b before =>
        simp only [List.cons_append, List.cons.injEq] at h
        exact Or.inr ⟨before, after, by simpa using h.2⟩

end GeoBench.Text
