import GeoBench.Proofs.Yaml.FlatFiles

/-!
# The document of a file of named scalars

The tokens of a file of named scalars follow one another as the events of one mapping, and these are
the pieces of its document: the name of each line and its scalar, between the two ends.

## Goals of a file of lines

The grammar meets a name and a scalar for each line, and comes back to the same goal behind each of
them. So what the lines give is told by induction on the lines, for any goals below, and the start
and the end of the document are put around it.

## Main results

* `Event.ofText_renderLines` — the events of such a file.
* `Document.ofText_renderLines` — the document that it holds.
-/

namespace GeoBench.Yaml

/-! ### Events -/

namespace Parse

/-- One step of a parse that gives events goes on with the goals that it leaves. -/
theorem run_succ {behind? : Option Fault} {goal : Goal} {goals : List Goal} {ts : List Token}
    {handles : Handles} {es others : List Event} {p : Parse} {fault? : Option Fault} {fuel : Nat}
    (hstep : step goal ⟨goals, ts, handles⟩ = .ok (es, p))
    (hrun : run behind? fuel p = (others, fault?)) :
    run behind? (fuel + 1) ⟨goal :: goals, ts, handles⟩ = (es ++ others, fault?) := by
  simp only [run, hstep, hrun]

section

variable {goals : List Goal} {ts : List Token} {handles : Handles} {text : String}
  {style : ScalarStyle}

/-- A key of a line. -/
theorem step_key : step .key ⟨goals, .key :: .scalar text style :: ts, handles⟩ =
    .ok ([.scalar {} text style], ⟨.value :: goals, ts, handles⟩) := rfl

/-- The value behind it. -/
theorem step_value : step .value ⟨goals, .value :: .scalar text style :: ts, handles⟩ =
    .ok ([.scalar {} text style], ⟨.key :: goals, ts, handles⟩) := rfl

end

/-- The ends of a mapping, of its document and of the text. -/
theorem run_ends (behind? : Option Fault) (handles : Handles) (fuel : Nat) :
    run behind? (fuel + 4) ⟨[.key, .documentEnd], [.blockEnd, .streamEnd], handles⟩ =
      ([.mappingEnd, .documentEnd, .streamEnd], none) := rfl

/-- The start of a document with a mapping. -/
theorem run_starts {behind? : Option Fault} {ts : List Token} {es : List Event}
    {fault? : Option Fault} {fuel : Nat}
    (h : run behind? fuel ⟨[.key, .documentEnd], ts, standardHandles⟩ = (es, fault?)) :
    run behind? (fuel + 1 + 1) { goals := [.document true], tokens := .blockMappingStart :: ts } =
      (.documentStart :: .mappingStart {} :: es, fault?) := by
  have hnode : step (.node true false) ⟨[.documentEnd], .blockMappingStart :: ts,
      standardHandles⟩ =
      .ok ([.mappingStart {}], ⟨[.key, .documentEnd], ts, standardHandles⟩) := rfl
  have hdocument : step (.document true) ⟨[], .blockMappingStart :: ts, standardHandles⟩ =
      .ok ([.documentStart], ⟨[.node true false, .documentEnd], .blockMappingStart :: ts,
        standardHandles⟩) := rfl
  exact run_succ hdocument (run_succ hnode h)

/-- **The lines of a mapping** give their names and scalars, and then come the ends of the mapping,
the document and the text. The induction is on the lines: each takes one goal for its key and one
for its value. -/
theorem run_lines (behind? : Option Fault) (handles : Handles) (ns : List NamedScalar)
    (fuel : Nat) :
    run behind? (2 * ns.length + (fuel + 4)) ⟨[.key, .documentEnd],
        ns.flatMap NamedScalar.tokens ++ [.blockEnd, .streamEnd], handles⟩ =
      (ns.flatMap NamedScalar.events ++ [.mappingEnd, .documentEnd, .streamEnd], none) := by
  induction ns with
  | nil =>
      rw [List.length_nil, Nat.mul_zero, Nat.zero_add]
      exact run_ends behind? handles fuel
  | cons n ns ih =>
      have hfuel : 2 * (n :: ns).length + (fuel + 4) = 2 * ns.length + (fuel + 4) + 1 + 1 := by
        rw [List.length_cons]
        omega
      rw [hfuel]
      have hline := run_succ (@step_key _ _ _ n.name .plain)
        (run_succ (@step_value _ _ _ n.scalar.text n.scalar.style) ih)
      exact hline

end Parse

/-- The events of a file of named scalars. -/
def fileEvents (ns : List NamedScalar) : List Event :=
  .documentStart :: .mappingStart {} ::
    (ns.flatMap NamedScalar.events ++ [.mappingEnd, .documentEnd, .streamEnd])

/-- **The events of a file of named scalars**: one document with one mapping. -/
theorem Event.ofText_renderLines {ns : List NamedScalar} (hne : ns ≠ [])
    (hfits : ∀ n ∈ ns, n.Fits) : Event.ofText (renderLines ns) = (fileEvents ns, none) := by
  have hfuel : 8 * (fileTokens ns).length + 16 =
      2 * ns.length + (30 * ns.length + 34 + 4) + 1 + 1 := by
    simp only [fileTokens, NamedScalar.tokens, List.length_cons, List.length_append,
      List.length_flatMap, List.length_nil, List.map_const', List.sum_replicate_nat]
    omega
  rw [ofText, Scan.ofText_renderLines hne hfits, hfuel]
  exact Parse.run_starts (Parse.run_lines none _ ns _)

/-! ### The document -/

/-- The document of a file of named scalars. -/
def fileDocument (ns : List NamedScalar) : Document where
  pieces := (.mappingStart none :: (ns.flatMap NamedScalar.pieces ++ [.mappingEnd])).toArray
  last := true

/-- The pieces of the lines are added one after another. The induction is on the lines. -/
theorem Document.ofEvents_lines {ps : List Piece} {es : List Event} (ns : List NamedScalar) :
    ofEvents none ⟨{ pieces := ps.toArray }, []⟩ (ns.flatMap NamedScalar.events ++ es) =
      ofEvents none ⟨{ pieces := (ps ++ ns.flatMap NamedScalar.pieces).toArray }, []⟩ es := by
  induction ns generalizing ps with
  | nil => simp
  | cons n ns ih =>
      have hline : ofEvents none ⟨{ pieces := ps.toArray }, []⟩
            (n.events ++ (ns.flatMap NamedScalar.events ++ es)) =
          ofEvents none ⟨{ pieces := (ps ++ n.pieces).toArray }, []⟩
            (ns.flatMap NamedScalar.events ++ es) := by
        simp [NamedScalar.events, NamedScalar.pieces, ofEvents, Partial.name, Partial.push]
      rw [List.flatMap_cons, List.append_assoc, hline, ih, List.append_assoc, List.flatMap_cons]

/-- **The document of a file of named scalars** is one mapping with its lines. -/
theorem Document.ofText_renderLines {ns : List NamedScalar} (hne : ns ≠ [])
    (hfits : ∀ n ∈ ns, n.Fits) : Document.ofText (renderLines ns) = fileDocument ns := by
  rw [ofText, Event.ofText_renderLines hne hfits]
  have hopened : ofEvents none {} (fileEvents ns) =
      ofEvents none ⟨{ pieces := [Piece.mappingStart none].toArray }, []⟩
        (ns.flatMap NamedScalar.events ++ [.mappingEnd, .documentEnd, .streamEnd]) := rfl
  dsimp only
  rw [hopened, ofEvents_lines]
  simp [ofEvents, Partial.push, fileDocument]

end GeoBench.Yaml
