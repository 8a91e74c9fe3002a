import GeoBench.Proofs.Yaml.Keys
import Mathlib.Tactic.Common

/-!
# Entries on lines of their own

A mapping is written entry by entry, and nothing that was written is taken back. So the text of a
mapping holds each of its entries as it was written when its turn came: if key and value are strings
that are written plainly, that is the key, a colon, a space and the value, on a line of its own.

This is told for every mapping, whatever its other entries are, and whether or not the text as a
whole is read back as the same mapping. It is what a reader sees who looks for a line.

## Pens that go on

That nothing is taken back is told by `Pen.GoesOn`: the text of the later pen begins with the text
of the earlier one. The same relation carries the one thing that has to be known about columns, that
a pen at the first column stands behind a break or at the beginning of the text.

## Main results

* `Value.goesOn_write` — a value that is written is written behind what is there.
* `Value.hasLine_of_entry` — an entry of a mapping stands on its line.
-/

namespace GeoBench.Yaml

/-! ### Lines -/

/-- Characters behind which a line **begins**: none, or some that end with a break. -/
def EndsLine (cs : List Char) : Prop :=
  ∀ c ∈ cs.getLast?, isBreak c

/-- Whether a text **has a line**: the characters of the line stand in it, at the beginning or
behind a break, and with a line feed behind them. -/
def HasLine (text line : String) : Prop :=
  ∃ before after, text.toList = before ++ line.toList ++ '\n' :: after ∧ EndsLine before

namespace Pen

variable {p q r : Pen}

/-- A pen that stands at the first column only where a line **begins**. -/
def Sound (p : Pen) : Prop :=
  p.column = 0 → EndsLine p.text.toList

/-- A pen that **goes on** from another one: nothing that was written is taken back. -/
structure GoesOn (p q : Pen) : Prop where
  text : p.text.toList <+: q.text.toList
  sound : p.Sound → q.Sound

namespace GoesOn

/-- What is written already is kept. -/
theorem refl (p : Pen) : p.GoesOn p :=
  ⟨List.prefix_rfl, id⟩

/-- One stretch of writing after another. -/
theorem trans (h : p.GoesOn q) (h' : q.GoesOn r) : p.GoesOn r :=
  ⟨h.text.trans h'.text, h'.sound ∘ h.sound⟩

/-- What is kept of a pen apart from its text and its column does not matter. -/
theorem of_eq (htext : q.text = p.text) (hcolumn : q.column = p.column) : p.GoesOn q := by
  refine ⟨htext ▸ List.prefix_rfl, fun hsound hzero => ?_⟩
  rw [htext]
  exact hsound (hcolumn ▸ hzero)

end GoesOn

/-! ### What is written -/

/-- One character more. -/
theorem goesOn_put (p : Pen) (c : Char) : p.GoesOn (p.put c) := by
  refine ⟨?_, fun _ hzero => absurd hzero (Nat.succ_ne_zero _)⟩
  rw [put, String.toList_push]
  exact List.prefix_append _ _

/-- Some characters more. -/
theorem goesOn_putAll (p : Pen) (cs : List Char) : p.GoesOn (p.putAll cs) := by
  have htext : (p.putAll cs).text.toList = p.text.toList ++ cs := by
    rw [putAll, String.toList_append, String.toList_ofList]
  refine ⟨htext ▸ List.prefix_append _ _, fun hsound hzero => ?_⟩
  obtain ⟨hcolumn, hlength⟩ := Nat.add_eq_zero_iff.mp hzero
  rw [htext, List.length_eq_zero_iff.mp hlength, List.append_nil]
  exact hsound hcolumn

/-- A line that begins adds its first character. -/
theorem toList_newLine (p : Pen) (c : Char) : (p.newLine c).text.toList = p.text.toList ++ [c] := by
  rw [newLine, String.toList_push]

/-- Behind a break a line begins. -/
theorem goesOn_newLine (p : Pen) {c : Char} (h : isBreak c) : p.GoesOn (p.newLine c) := by
  refine ⟨toList_newLine p c ▸ List.prefix_append _ _, fun _ _ d hd => ?_⟩
  rw [toList_newLine, List.getLast?_concat] at hd
  rwa [← Option.some.inj hd]

/-- An indentation adds blanks. -/
theorem goesOn_indentTo (p : Pen) (indent : Nat) : p.GoesOn (p.indentTo indent) := by
  rw [indentTo]
  refine GoesOn.trans ?_ ((goesOn_putAll _ _).trans (.of_eq rfl rfl))
  split
  · exact goesOn_newLine p (by decide)
  · exact .refl p

/-- A gap adds a blank, if any. -/
theorem goesOn_gap (p : Pen) : p.GoesOn p.gap := by
  rw [gap]
  split
  · exact .refl p
  · exact goesOn_put p ' '

/-- An indicator adds its characters, behind a gap if it needs one. -/
theorem goesOn_indicator (p : Pen) (cs : List Char) (needsGap givesGap staysFresh : Bool) :
    p.GoesOn (p.indicator cs needsGap givesGap staysFresh) := by
  rw [indicator]
  refine GoesOn.trans ?_ ((goesOn_putAll _ _).trans (.of_eq rfl rfl))
  split
  · exact goesOn_gap p
  · exact .refl p

/-- Closing adds nothing. -/
theorem goesOn_closed (p : Pen) : p.GoesOn p.closed :=
  .of_eq rfl rfl

/-- A tag is written behind a gap. -/
theorem goesOn_tag (p : Pen) (t : WrittenTag) : p.GoesOn (p.tag t) := by
  rw [tag]
  split
  · exact (goesOn_gap p).trans ((goesOn_putAll _ _).trans (goesOn_closed _))
  · exact (goesOn_indicator _ _ _ _ _).trans
      ((goesOn_putAll _ _).trans (goesOn_indicator _ _ _ _ _))

/-- Lines go on line by line. The induction is on the characters that are left. -/
theorem goesOn_lines (indent : Nat) (breaks : Bool) (cs : List Char) (p : Pen) :
    p.GoesOn (p.lines indent breaks cs).1 := by
  induction cs generalizing breaks p with
  | nil => exact .refl p
  | cons c cs ih =>
      rw [lines]
      split
      next hbreak =>
        refine (goesOn_newLine p hbreak).trans (GoesOn.trans ?_ (ih true _))
        exact .of_eq rfl rfl
      · refine GoesOn.trans ?_ (ih false _)
        refine GoesOn.trans ?_ ((goesOn_put (if breaks then p.indentTo indent else p) c).trans ?_)
        · split
          · exact goesOn_indentTo p indent
          · exact .refl p
        · exact .of_eq rfl rfl

/-- A quoted scalar goes on from what is there. -/
theorem goesOn_singleQuoted (p : Pen) (indent : Nat) (cs : List Char) :
    p.GoesOn (p.singleQuoted indent cs) := by
  let doubled := cs.flatMap fun c => if c = '\'' then ['\'', '\''] else [c]
  have hlines := (goesOn_indicator p ['\''] true false false).trans
    (goesOn_lines indent false doubled (p.indicator ['\''] true false false))
  refine hlines.trans (GoesOn.trans ?_ ((goesOn_indicator _ _ _ _ _).trans (goesOn_closed _)))
  split
  · exact goesOn_indentTo _ _
  · exact .refl _

/-- So does a literal one. -/
theorem goesOn_literal (p : Pen) (indent : Nat) (cs : List Char) :
    p.GoesOn (p.literal indent cs) := by
  have hmarks := (goesOn_indicator p ['|'] true false false).trans
    ((goesOn_putAll _ (blockHints cs)).trans (goesOn_newLine _ (c := '\n') (by decide)))
  refine hmarks.trans (GoesOn.trans ?_ (goesOn_lines indent true cs _))
  exact .of_eq rfl rfl

/-- So does a scalar in any writing. -/
theorem goesOn_scalar (p : Pen) (w : Writing) (indent : Nat) (cs : List Char) :
    p.GoesOn (p.scalar w indent cs) := by
  cases w with
  | plain =>
      refine GoesOn.trans ?_ ((goesOn_putAll _ cs).trans (goesOn_closed _))
      split
      · exact .refl p
      · exact goesOn_gap p
  | single => exact goesOn_singleQuoted p indent cs
  | double =>
      exact (goesOn_indicator _ _ _ _ _).trans ((goesOn_putAll _ _).trans
        ((goesOn_indicator _ _ _ _ _).trans (goesOn_closed _)))
  | literal => exact goesOn_literal p indent cs

end Pen

namespace Value

open Pen

/-- So does a value that is a scalar. -/
theorem goesOn_writeScalar (indent : Option Nat) (simpleKey : Bool) (v : Value) (p : Pen) :
    p.GoesOn (write.writeScalar indent simpleKey v p) := by
  rw [write.writeScalar]
  split
  · exact goesOn_scalar _ _ _ _
  · exact .refl p

mutual

/-- **A value** is written behind what is there. -/
theorem goesOn_write (indent : Option Nat) (inMapping simpleKey : Bool) :
    (v : Value) → (p : Pen) → p.GoesOn (write indent inMapping simpleKey v p)
  | .tagged tag v, p => by
      rw [write]
      exact (goesOn_tag p _).trans (goesOn_write indent inMapping simpleKey v _)
  | .sequence [], p => by
      rw [write]
      exact (goesOn_indicator _ _ _ _ _).trans (goesOn_indicator _ _ _ _ _)
  | .mapping [], p => by
      rw [write]
      exact (goesOn_indicator _ _ _ _ _).trans (goesOn_indicator _ _ _ _ _)
  | .sequence (v :: vs), p => by
      rw [write]
      exact goesOn_writeItems _ (v :: vs) p
  | .mapping (e :: es), p => by
      rw [write]
      exact goesOn_writeEntries _ (e :: es) p
  | .null, p | .bool _, p | .number _, p | .string _, p => by
      rw [write]
      exact goesOn_writeScalar _ _ _ _

/-- The items of a list go on, by induction on the items. -/
theorem goesOn_writeItems (indent : Nat) :
    (vs : List Value) → (p : Pen) → p.GoesOn (writeItems indent vs p)
  | [], p => .refl p
  | v :: vs, p => by
      rw [writeItems]
      exact ((goesOn_indentTo p indent).trans (goesOn_indicator _ _ _ _ _)).trans
        ((goesOn_write _ _ _ v _).trans (goesOn_writeItems indent vs _))

/-- The entries of a mapping go on, by induction on the entries. -/
theorem goesOn_writeEntries (indent : Nat) :
    (es : List (Value × Value)) → (p : Pen) → p.GoesOn (writeEntries indent es p)
  | [], p => .refl p
  | (k, v) :: rest, p => by
      rw [writeEntries]
      refine ((goesOn_indentTo p indent).trans ?_).trans
        ((goesOn_write _ _ _ v _).trans (goesOn_writeEntries indent rest _))
      split
      · exact (goesOn_write _ _ _ k _).trans (goesOn_indicator _ _ _ _ _)
      · exact (goesOn_indicator _ _ _ _ _).trans ((goesOn_write _ _ _ k _).trans
          ((goesOn_indentTo _ _).trans (goesOn_indicator _ _ _ _ _)))

end

/-! ### Plain entries -/

/-- A string that is **written plainly**: it is not empty, would be read back as itself, and has no
character that calls for quotes. -/
structure IsPlain (s : String) : Prop where
  ne : s.toList ≠ []
  writing : stringWriting s = .plain
  shape : (Shape.of s.toList).plain

/-- A string that can be the **key** on the line of its value. -/
structure IsPlainKey (s : String) : Prop extends IsPlain s where
  simple : (Value.string s).isSimpleKey

instance (s : String) : Decidable (IsPlain s) :=
  decidable_of_iff
    (s.toList ≠ [] ∧ stringWriting s = .plain ∧ (Shape.of s.toList).plain)
    ⟨fun h => ⟨h.1, h.2.1, h.2.2⟩, fun h => ⟨h.ne, h.writing, h.shape⟩⟩

instance (s : String) : Decidable (IsPlainKey s) :=
  decidable_of_iff (IsPlain s ∧ (Value.string s).isSimpleKey)
    ⟨fun h => ⟨h.1, h.2⟩, fun h => ⟨h.toIsPlain, h.simple⟩⟩

/-- A string that is written plainly is written as it is, behind a gap. -/
theorem write_of_isPlain {s : String} (h : IsPlain s) (indent : Option Nat)
    (inMapping simpleKey : Bool) (p : Pen) :
    write indent inMapping simpleKey (.string s) p = (p.gap.putAll s.toList).closed := by
  have hempty : s.toList.isEmpty = false := List.isEmpty_eq_false_iff.mpr h.ne
  have hallowed :
      Writing.plain.allowed (Shape.of s.toList) s.toList.isEmpty simpleKey = .plain := by
    simp [Writing.allowed, h.shape, hempty]
  rw [write, write.writeScalar]
  show p.scalar ((stringWriting s).allowed _ _ _) _ _ = _
  rw [h.writing, hallowed, Pen.scalar, if_neg h.ne]

/-- Entries are written one after the other. -/
theorem writeEntries_append (indent : Nat) (es fs : List (Value × Value)) (p : Pen) :
    writeEntries indent (es ++ fs) p = writeEntries indent fs (writeEntries indent es p) := by
  induction es generalizing p with
  | nil => rw [List.nil_append, writeEntries]
  | cons e es ih =>
      obtain ⟨k, v⟩ := e
      rw [List.cons_append, writeEntries, writeEntries, ih]

/-- What is written behind a scalar begins with a line feed. -/
theorem prefix_of_closed {p : Pen} (hclosed : p.fresh = false) (es : List (Value × Value)) :
    p.text.toList ++ ['\n'] <+: ((writeEntries 0 es p).indentTo 0).text.toList := by
  have hindent : p.indentTo 0 =
      { (p.newLine '\n').putAll [] with spaced := true, fresh := true } := by
    simp [indentTo, hclosed, newLine, putAll]
  have hbreak : p.text.toList ++ ['\n'] <+: (p.indentTo 0).text.toList := by
    rw [hindent, ← toList_newLine]
    exact (goesOn_putAll (p.newLine '\n') []).text
  cases es with
  | nil => rwa [writeEntries]
  | cons e es =>
      obtain ⟨k, v⟩ := e
      refine hbreak.trans ((GoesOn.trans ?_ (goesOn_indentTo _ 0)).text)
      rw [writeEntries]
      refine GoesOn.trans ?_ ((goesOn_write _ _ _ v _).trans (goesOn_writeEntries 0 es _))
      split
      · exact (goesOn_write _ _ _ k _).trans (goesOn_indicator _ _ _ _ _)
      · exact (goesOn_indicator _ _ _ _ _).trans ((goesOn_write _ _ _ k _).trans
          ((goesOn_indentTo _ _).trans (goesOn_indicator _ _ _ _ _)))

/-! ### Lines of entries -/

section

variable {key s : String} {p : Pen}

/-- An entry of two plain strings is written as the key, a colon, a space and the value. -/
theorem write_entry_of_isPlain (hkey : IsPlainKey key) (hs : IsPlain s) (p : Pen) :
    let q := write (some 0) true false (.string s)
      ((write (some 0) true true (.string key) (p.indentTo 0)).indicator [':'] false false false)
    q.text.toList = (p.indentTo 0).text.toList ++ (key ++ ": " ++ s).toList ∧ q.fresh = false := by
  have hgap : (p.indentTo 0).gap = p.indentTo 0 := if_pos rfl
  intro q
  have hq : q = (((((p.indentTo 0).putAll key.toList).closed.indicator [':'] false false
      false).gap).putAll s.toList).closed := by
    show write _ _ _ _ _ = _
    rw [write_of_isPlain hs, write_of_isPlain hkey.toIsPlain, hgap]
  rw [hq]
  refine ⟨?_, rfl⟩
  simp [closed, putAll, indicator, gap, put, String.toList_append]

/-- **An entry of plain strings** stands on its line, whatever is written before and behind it. -/
theorem hasLine_writeEntries (hkey : IsPlainKey key) (hs : IsPlain s) (hp : p.Sound)
    {es : List (Value × Value)} (h : entryIn? key es = some (.string s)) :
    HasLine ((writeEntries 0 es p).indentTo 0).text (key ++ ": " ++ s) := by
  obtain ⟨⟨k, v⟩, hfound, hv⟩ := Option.map_eq_some_iff.mp h
  obtain rfl : v = .string s := hv
  obtain ⟨hsame, before, after, rfl, -⟩ := List.find?_eq_some_iff_append.mp hfound
  obtain rfl : k = .string key := same_string_iff.mp hsame
  let here := writeEntries 0 before p
  obtain ⟨htext, hfresh⟩ := write_entry_of_isPlain hkey hs here
  have hwritten : writeEntries 0 (before ++ (.string key, .string s) :: after) p =
      writeEntries 0 after (write (some 0) true false (.string s) ((write (some 0) true true
        (.string key) (here.indentTo 0)).indicator [':'] false false false)) := by
    rw [writeEntries_append, writeEntries]
    simp only [hkey.simple, if_true]
    rfl
  obtain ⟨rest, hrest⟩ := prefix_of_closed hfresh after
  refine ⟨(here.indentTo 0).text.toList, rest, ?_, ?_⟩
  · rw [hwritten, ← hrest, htext, List.append_assoc]
    rfl
  · have hsound := ((goesOn_writeEntries 0 before p).trans (goesOn_indentTo _ 0)).sound hp
    exact hsound (Pen.column_indentTo _ 0)

/-- **An entry of a mapping** stands on its line in the text of the mapping, whatever the other
entries are, if its key and its value are strings that are written plainly. -/
theorem hasLine_of_entry (hkey : IsPlainKey key) (hs : IsPlain s) {v : Value}
    (h : v.entry? key = some (.string s)) : HasLine v.render (key ++ ": " ++ s) := by
  have hany : ∀ (v : Value) (p : Pen), p.Sound → v.entry? key = some (.string s) →
      HasLine ((write none false false v p).indentTo 0).text (key ++ ": " ++ s) := by
    intro v
    induction v using entry?.induct with
    | case1 es =>
        intro p hp hentry
        cases es with
        | nil => cases hentry
        | cons e es =>
            rw [write]
            exact hasLine_writeEntries hkey hs hp hentry
    | case2 tag v ih =>
        intro p hp hentry
        rw [write]
        exact ih _ ((goesOn_tag p _).sound hp) hentry
    | case3 v hmapping htagged =>
        intro p _ hentry
        cases v with
        | mapping es => exact absurd rfl (hmapping es)
        | tagged tag v => exact absurd rfl (htagged tag v)
        | null | bool | number | string | sequence => cases hentry
  exact hany v {} (fun _ c hc => by cases hc) h

end

end Value

end GeoBench.Yaml
