import GeoBench.Proofs.Yaml.FlatDocuments

/-!
# The value of a file of named scalars

A file of named scalars holds one mapping: the names of its lines, in their order, each with what
its scalar means. The names have to be texts, all of them different.

## Names

The names are texts, so that no name counts as a number or a truth value; all of them are different,
so that none is refused as repeated. The entries are in the order of the lines, and what a scalar
means is left open: this module says nothing of plain scalars.

## Main results

* `Document.entries_lines` — the entries that lines give.
* `Document.read_renderLines` — the mapping that such a file holds.
-/

namespace GeoBench.Yaml

namespace Document

section

variable {d : Document} {at_ : Nat} {p : Piece} {ps : List Piece}

/-- The piece at a place, where the pieces from there on are known. -/
theorem piece_of_drop (h : d.pieces.toList.drop at_ = p :: ps) :
    d.piece at_ = .ok p ∧ d.pieces.toList.drop (at_ + 1) = ps := by
  have hget : d.pieces[at_]? = some p := by
    rw [← Array.getElem?_toList, ← List.head?_drop, h, List.head?_cons]
  refine ⟨by simp [Document.piece, hget], ?_⟩
  rw [← List.tail_drop, h, List.tail_cons]

/-- A scalar is a value by itself. -/
theorem value_of_scalar {s : WrittenScalar}
    (h : d.piece at_ = .ok (.scalar none s.text s.style)) (fuel depth jumps : Nat) :
    d.value (fuel + 1) false depth at_ jumps = s.value.map fun v => ⟨v, at_ + 1, jumps⟩ := by
  rw [Document.value, h]
  cases s with
  | plain text =>
      cases hvalue : Value.ofPlain text <;>
        simp [bind, Except.bind, Value.ownTag?, Value.ofScalar, WrittenScalar.text,
          WrittenScalar.style, WrittenScalar.value, hvalue, Except.map, pure, Except.pure]
  | quoted single text => rfl

end

/-- The pieces of a file of named scalars: the lines stand behind the start of the mapping. -/
theorem fileDocument_spec (ns : List NamedScalar) :
    (fileDocument ns).piece 0 = .ok (.mappingStart none) ∧
      (fileDocument ns).pieces.toList.drop 1 =
        ns.flatMap NamedScalar.pieces ++ [.mappingEnd] ∧
      ns.length < (fileDocument ns).pieces.size := by
  obtain ⟨hstart, hlines⟩ : (fileDocument ns).piece 0 = .ok (.mappingStart none) ∧
      (fileDocument ns).pieces.toList.drop 1 =
        ns.flatMap NamedScalar.pieces ++ [.mappingEnd] := piece_of_drop rfl
  refine ⟨hstart, hlines, ?_⟩
  simp only [fileDocument, List.size_toArray, List.length_cons, List.length_append,
    List.length_flatMap, NamedScalar.pieces, List.length_nil, List.map_const',
    List.sum_replicate_nat]
  omega

/-! ### Entries -/

section

variable {α : Type} {lineOf : α → NamedScalar} {valueOf : α → Value} {xs : List α}

/-- **The entries of lines** whose names are texts that were not there before. The induction is on
the lines. -/
theorem entries_lines {d : Document} {fuel at_ : Nat} {before : List (Value × Value)}
    (hpieces : d.pieces.toList.drop at_ =
      (xs.map lineOf).flatMap NamedScalar.pieces ++ [.mappingEnd])
    (hfuel : xs.length < fuel)
    (hkey : ∀ x ∈ xs, Value.ofPlain (lineOf x).name = .ok (.string (lineOf x).name))
    (hvalue : ∀ x ∈ xs, (lineOf x).scalar.value = .ok (valueOf x))
    (hnames : (xs.map fun x => (lineOf x).name).Nodup)
    (hnew : ∀ e ∈ before, ∀ x ∈ xs, Value.same e.1 (.string (lineOf x).name) = false)
    (depth jumps : Nat) :
    d.entries fuel depth at_ jumps before =
      .ok ⟨before.reverse ++ xs.map fun x => (.string (lineOf x).name, valueOf x),
        at_ + 2 * xs.length + 1, jumps⟩ := by
  obtain ⟨fuel, rfl⟩ := Nat.exists_eq_add_one_of_ne_zero (Nat.ne_zero_of_lt hfuel)
  induction xs generalizing fuel at_ before with
  | nil =>
      obtain ⟨hend, -⟩ := piece_of_drop hpieces
      rw [entries, hend]
      simp [bind, Except.bind, pure, Except.pure]
  | cons x xs ih =>
      have hless : xs.length < fuel := Nat.lt_of_succ_lt_succ hfuel
      obtain ⟨fuel, rfl⟩ := Nat.exists_eq_add_one_of_ne_zero (Nat.ne_zero_of_lt hless)
      rw [List.map_cons, List.flatMap_cons, NamedScalar.pieces, List.append_assoc] at hpieces
      obtain ⟨hname, hbehind⟩ := piece_of_drop hpieces
      obtain ⟨hscalar, hrest⟩ := piece_of_drop hbehind
      rw [List.forall_mem_cons] at hkey hvalue
      rw [List.map_cons, List.nodup_cons] at hnames
      have hread := @value_of_scalar d at_ (.plain (lineOf x).name) hname fuel depth jumps
      rw [WrittenScalar.value, hkey.1] at hread
      have hscalar := value_of_scalar hscalar fuel depth jumps
      rw [hvalue.1] at hscalar
      have hfirst : (before.any fun e => Value.same e.1 (.string (lineOf x).name)) = false := by
        rw [List.any_eq_false]
        exact fun e he => by simp [hnew e he x List.mem_cons_self]
      have hnewer : ∀ e ∈ (Value.string (lineOf x).name, valueOf x) :: before, ∀ y ∈ xs,
          Value.same e.1 (.string (lineOf y).name) = false := by
        rw [List.forall_mem_cons]
        refine ⟨fun y hy => ?_, fun e he y hy => hnew e he y (List.mem_cons_of_mem _ hy)⟩
        have hne : (lineOf x).name ≠ (lineOf y).name :=
          fun heq => hnames.1 (List.mem_map.mpr ⟨y, hy, heq.symm⟩)
        simpa [Value.same] using hne
      have hlater := ih hrest hkey.2 hvalue.2 hnames.2 hnewer fuel hless
      rw [entries, hname]
      simp only [bind, Except.bind, reduceCtorEq, if_false, hread, Except.map, hfirst,
        Bool.false_eq_true, hscalar, hlater]
      simp [Nat.mul_add, Nat.add_assoc, Nat.add_comm, Nat.add_left_comm]

/-- **The value of a file of named scalars** is one mapping with what its lines say. -/
theorem read_renderLines (hne : xs ≠ []) (hfits : ∀ x ∈ xs, (lineOf x).Fits)
    (hkey : ∀ x ∈ xs, Value.ofPlain (lineOf x).name = .ok (.string (lineOf x).name))
    (hvalue : ∀ x ∈ xs, (lineOf x).scalar.value = .ok (valueOf x))
    (hnames : (xs.map fun x => (lineOf x).name).Nodup) :
    read (renderLines (xs.map lineOf)) =
      .ok (.mapping (xs.map fun x => (.string (lineOf x).name, valueOf x))) := by
  obtain ⟨hstart, hlines, hsize⟩ := fileDocument_spec (xs.map lineOf)
  obtain ⟨fuel, hfuel⟩ : ∃ fuel, (fileDocument (xs.map lineOf)).fuel = fuel + 1 :=
    Nat.exists_eq_add_one_of_ne_zero (Nat.mul_ne_zero (Nat.succ_ne_zero _) (by decide))
  have hless : xs.length < fuel := by
    rw [List.length_map] at hsize
    simp only [Document.fuel, depthLimit] at hfuel
    omega
  have hentries := entries_lines hlines hless hkey hvalue hnames (List.forall_mem_nil _)
    (depthLimit - 1) 0
  rw [List.reverse_nil, List.nil_append] at hentries
  have hclosing : (fileDocument (xs.map lineOf)).closing = .ok () := rfl
  have hdepth : ¬ depthLimit = 0 := by decide
  rw [read, ofText_renderLines (by simpa using hne) (by simpa using hfits), hfuel, value, hstart]
  simp only [bind, Except.bind, pure, Except.pure, Value.ownTag?, Bool.false_eq_true, if_false,
    hdepth, Nat.zero_add, hentries, hclosing]

end

end Document

end GeoBench.Yaml
