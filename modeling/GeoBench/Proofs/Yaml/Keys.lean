import GeoBench.Proofs.Machine.Place
import GeoBench.Yaml.Document
import GeoBench.Yaml.Printer

/-!
# Keys of a data file

A mapping that was read has no key twice: a key that was there before is refused when it is read,
before its value is. So an entry of such a mapping is found by its key alone, wherever it stands.

## Which keys are the same

A key that is a string is the same as another one exactly if that is a string of the same characters
(`Value.same_string_iff`); for other keys sameness is coarser than equality. Entries are looked up
by strings here, so of several entries that could be meant there is at most one.

## Main results

* `Document.distinctKeys_entries` — the keys of the entries read so far stay distinct.
* `Document.distinctKeys_of_read` — the keys of the mapping that a text holds are distinct.
-/

namespace GeoBench.Yaml

open GeoBench.Machine

/-- Entries with **distinct keys**: no key is the same as one behind it. -/
def DistinctKeys (es : List (Value × Value)) : Prop :=
  es.Pairwise fun a b => ¬ Value.same a.1 b.1

/-- A value **reads back**: the reader finds in its text what was written. -/
def ReadsBack (v : Value) : Prop :=
  Document.read v.render = .ok v

namespace Value

/-! ### Entries -/

/-- Only a string is the same key as a string. -/
theorem same_string_iff {k : Value} {key : String} : same k (.string key) ↔ k = .string key := by
  cases k <;> simp [same]

/-- The value of an **entry** of a mapping, by a key that is a string. -/
def entryIn? (key : String) (es : List (Value × Value)) : Option Value :=
  (es.find? fun e => same e.1 (.string key)).map (·.2)

/-- An entry with the key comes first, and is found. -/
theorem entryIn?_cons_of_same {key : String} {k : Value} (h : same k (.string key)) (v : Value)
    (es : List (Value × Value)) : entryIn? key ((k, v) :: es) = some v := by
  simp [entryIn?, h]

/-- An entry with another key comes first, and is passed over. -/
theorem entryIn?_cons_of_not_same {key : String} {k : Value} (h : ¬ same k (.string key))
    (v : Value) (es : List (Value × Value)) : entryIn? key ((k, v) :: es) = entryIn? key es := by
  simp [entryIn?, h]

/-- The value of an **entry** of a value that is a mapping, whatever its tag. -/
def entry? (key : String) : Value → Option Value
  | .mapping es => entryIn? key es
  | .tagged _ v => entry? key v
  | _ => none

variable {es : List (Value × Value)}

/-! ### Scalars -/

/-- No whole text of a scalar is a mapping. -/
theorem wholeOf_ne_mapping (s : String) : wholeOf s ≠ some (.ok (.mapping es)) := by
  intro h
  unfold wholeOf at h
  dsimp only at h
  split at h
  · cases Except.ok.inj (Option.some.inj h)
  · split at h
    · cases Except.ok.inj (Option.some.inj h)
    · split at h <;> cases h

/-- No plain scalar is a mapping. -/
theorem ofPlain_ne_mapping (s : String) : ofPlain s ≠ .ok (.mapping es) := by
  intro h
  unfold ofPlain at h
  split at h
  · cases h
  · split at h
    · cases h
    · split at h
      next result hwhole => exact wholeOf_ne_mapping s (hwhole.trans (congrArg some h))
      · split at h
        · cases h
        · split at h <;> cases h

/-- No tagged scalar is a mapping. -/
theorem ofKind?_ne_mapping (tag s : String) : ofKind? tag s ≠ some (.ok (.mapping es)) := by
  intro h
  unfold ofKind? at h
  dsimp only at h
  split at h
  · cases hv : bool? s <;> rw [hv] at h <;> cases h
  · split at h
    · split at h
      next v hwhole => exact wholeOf_ne_mapping s (hwhole.trans (congrArg _ (Option.some.inj h)))
      · cases h
      · cases h
    · split at h
      · cases hv : float? s <;> rw [hv] at h <;> cases h
      · split at h
        · cases hv : saysNull s <;> rw [hv] at h <;> cases h
        · cases h

/-- A scalar is no mapping. -/
theorem ofScalar_ne_mapping (tag? : Option String) (text : String) (style : ScalarStyle) :
    ofScalar tag? text style ≠ .ok (.mapping es) := by
  intro h
  unfold ofScalar at h
  split at h
  · split at h
    · exact ofPlain_ne_mapping text h
    · cases h
  next tag =>
    cases hkind : ofKind? tag text with
    | none => rw [hkind] at h; cases h
    | some result =>
        rw [hkind] at h
        exact ofKind?_ne_mapping tag text (hkind.trans (congrArg some h))

end Value

namespace Document

variable {d : Document} {fuel depth at_ jumps : Nat}

/-- **The keys of the entries** read so far stay distinct, by induction on the readings to come. -/
theorem distinctKeys_entries {before : List (Value × Value)}
    {r : Reading (List (Value × Value))} (hbefore : DistinctKeys before.reverse)
    (h : entries d fuel depth at_ jumps before = .ok r) : DistinctKeys r.result := by
  induction fuel generalizing at_ jumps before with
  | zero =>
      unfold entries at h
      cases h
  | succ fuel ih =>
      unfold entries at h
      obtain ⟨piece, -, h⟩ := exists_of_bind_eq_ok h
      split at h
      · obtain rfl := Except.ok.inj h
        exact hbefore
      · obtain ⟨k, -, h⟩ := exists_of_bind_eq_ok h
        split at h
        · cases h
        next hfresh =>
          obtain ⟨v, -, h⟩ := exists_of_bind_eq_ok h
          refine ih ?_ h
          rw [List.reverse_cons]
          refine List.pairwise_append.mpr ⟨hbefore, List.pairwise_singleton _ _, ?_⟩
          intro e he f hf hsame
          rw [List.mem_singleton.mp hf] at hsame
          exact hfresh (List.any_eq_true.mpr ⟨e, List.mem_reverse.mp he, hsame⟩)

/-- The keys of a mapping that is read at a place are distinct. A reference leads to a mapping that
is read at another place. -/
theorem distinctKeys_value {taken : Bool} {r : Reading Value} {es : List (Value × Value)}
    (h : value d fuel taken depth at_ jumps = .ok r) (hes : r.result = .mapping es) :
    DistinctKeys es := by
  induction fuel generalizing taken at_ jumps r with
  | zero =>
      unfold value at h
      cases h
  | succ fuel ih =>
      unfold value at h
      obtain ⟨piece, -, h⟩ := exists_of_bind_eq_ok h
      have htagged : ∀ {tag : String}, (do
          let r ← value d fuel true depth at_ jumps
          return { r with result := .tagged tag r.result }) ≠ Except.ok r := by
        intro tag hrun
        obtain ⟨r', -, hr⟩ := exists_of_bind_eq_ok hrun
        rw [← Except.ok.inj hr] at hes
        cases hes
      have hnone : DistinctKeys ([] : List (Value × Value)).reverse := List.Pairwise.nil
      dsimp only at h
      cases piece with
      | nothing =>
          rw [← Except.ok.inj h] at hes
          cases hes
      | reference id =>
          obtain ⟨place, -, h⟩ := exists_of_bind_eq_ok h
          obtain ⟨r', hvalue, h⟩ := exists_of_bind_eq_ok h
          rw [← Except.ok.inj h] at hes
          exact ih hvalue hes
      | scalar tag? text style =>
          dsimp only at h
          split at h
          · exact absurd h htagged
          · obtain ⟨v, hscalar, h⟩ := exists_of_bind_eq_ok h
            obtain rfl : v = .mapping es := by rwa [← Except.ok.inj h] at hes
            exact absurd hscalar (Value.ofScalar_ne_mapping _ _ _)
      | sequenceStart tag? =>
          dsimp only at h
          split at h
          · exact absurd h htagged
          · split at h
            · cases h
            · obtain ⟨r', -, h⟩ := exists_of_bind_eq_ok h
              rw [← Except.ok.inj h] at hes
              cases hes
      | mappingStart tag? =>
          dsimp only at h
          split at h
          · exact absurd h htagged
          · split at h
            · cases h
            · obtain ⟨r', hentries, h⟩ := exists_of_bind_eq_ok h
              rw [← Except.ok.inj h] at hes
              obtain rfl : r'.result = es := Value.mapping.inj hes
              exact distinctKeys_entries hnone hentries
      | sequenceEnd | mappingEnd => cases h

/-- **The keys of the mapping** that a text holds are distinct. -/
theorem distinctKeys_of_read {text : String} {es : List (Value × Value)}
    (h : read text = .ok (.mapping es)) : DistinctKeys es := by
  unfold read at h
  obtain ⟨r, hvalue, h⟩ := exists_of_bind_eq_ok h
  obtain ⟨_, -, h⟩ := exists_of_bind_eq_ok h
  exact distinctKeys_value hvalue (Except.ok.inj h)

end Document

end GeoBench.Yaml
