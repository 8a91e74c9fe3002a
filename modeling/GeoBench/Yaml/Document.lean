import GeoBench.Yaml.Event
import GeoBench.Yaml.Value

/-!
# Documents

The one document of a data file: its pieces, with every reference resolved to a place among them,
and the value that they make. Two limits keep references from growing a small text into a huge
value: how deep collections may stand inside one another, and how often references are followed.

## Why there are limits

A reference stands for a whole value, and a value may refer to others that refer to others again. A
few lines can in this way stand for more than fits into any memory. So references are followed only
some hundred times for each piece of the document (`jumpsPerPiece`), and collections may stand
inside one another only so far (`depthLimit`). Both limits are counted while the value is made, and
what exceeds them is a fault of the document.

A file with several documents is refused, and so is one with a fault behind its document. Both are
told only after the value was made, and a fault of the value comes before them.
-/

namespace GeoBench.Yaml

/-- A **piece** of a document. -/
inductive Piece where
  /-- There is no document. -/
  | nothing
  | reference (id : Nat)
  | scalar (tag? : Option String) (text : String) (style : ScalarStyle)
  | sequenceStart (tag? : Option String)
  | sequenceEnd
  | mappingStart (tag? : Option String)
  | mappingEnd
  deriving DecidableEq, Repr

/-- The first **document** of a text: its pieces, the places that the ids of references lead to, the
fault behind the pieces if there is one, and whether the text ends behind the document. -/
structure Document where
  pieces : Array Piece := #[]
  places : List (Nat × Nat) := []
  fault? : Option Fault := none
  last : Bool := false

namespace Document

/-- A document whose events are still coming, with the ids of the names given so far. -/
structure Partial where
  document : Document := {}
  ids : List (String × Nat) := []

/-- A value gets its name, if it has one. A name that was given before now means the new value. -/
def Partial.name (p : Partial) (anchor? : Option String) : Partial :=
  match anchor? with
  | none => p
  | some a =>
    let id := p.ids.length
    { document := { p.document with
        places := (id, p.document.pieces.size) :: p.document.places }
      ids := (a, id) :: p.ids.filter fun e => e.1 != a }

/-- One more piece. -/
def Partial.push (p : Partial) (piece : Piece) : Partial :=
  { p with document := { p.document with pieces := p.document.pieces.push piece } }

/-- The document of the events to come, and the fault behind them. -/
def ofEvents (fault? : Option Fault) : Partial → List Event → Document
  | p, [] => { p.document with fault? := some (fault?.getD .documents) }
  | p, .documentStart :: es => ofEvents fault? p es
  | p, .documentEnd :: es => { p.document with last := es == [.streamEnd] && fault?.isNone }
  | p, .streamEnd :: _ => { (p.push .nothing).document with last := true }
  | p, .reference name :: es =>
    match p.ids.lookup name with
    | some id => ofEvents fault? (p.push (.reference id)) es
    | none => { p.document with fault? := some .reference }
  | p, .scalar props text style :: es =>
    ofEvents fault? ((p.name props.anchor?).push (.scalar props.tag? text style)) es
  | p, .sequenceStart props :: es =>
    ofEvents fault? ((p.name props.anchor?).push (.sequenceStart props.tag?)) es
  | p, .sequenceEnd :: es => ofEvents fault? (p.push .sequenceEnd) es
  | p, .mappingStart props :: es =>
    ofEvents fault? ((p.name props.anchor?).push (.mappingStart props.tag?)) es
  | p, .mappingEnd :: es => ofEvents fault? (p.push .mappingEnd) es

/-- The first document of a text. -/
def ofText (text : String) : Document :=
  let (events, fault?) := Event.ofText text
  ofEvents fault? {} events

/-- The piece at a place. Behind the last one is the fault of the text. -/
def piece (d : Document) (at_ : Nat) : Except Fault Piece :=
  match d.pieces[at_]? with
  | some p => .ok p
  | none => .error (d.fault?.getD .documents)

/-- How deep collections may stand inside one another. -/
abbrev depthLimit : Nat := 128

/-- How often references may be followed, for each piece. -/
abbrev jumpsPerPiece : Nat := 100

/-- The place that a reference leads to, when `jumps` were followed before. -/
def follow (d : Document) (id jumps : Nat) : Except Fault Nat :=
  if d.pieces.size * jumpsPerPiece < jumps + 1 then .error .repetition
  else match d.places.lookup id with
    | some place => .ok place
    | none => .error .reference

/-- What reading at a place gives: a result, the place behind it, and how many references were
followed so far. -/
structure Reading (α : Type) where
  result : α
  next : Nat
  jumps : Nat

mutual

/-- The **value** at a place; `fuel` bounds the length of a path of readings inside one another. The
tag of the value is left out of account if it is `taken`. -/
def value (d : Document) : Nat → Bool → Nat → Nat → Nat → Except Fault (Reading Value)
  | 0, _, _, _, _ => .error .repetition
  | fuel + 1, taken, depth, at_, jumps => do
    let p ← d.piece at_
    let own? (tag? : Option String) : Option String :=
      if taken then none else Value.ownTag? tag?
    let tagged (tag : String) : Except Fault (Reading Value) := do
      let r ← value d fuel true depth at_ jumps
      return { r with result := .tagged tag r.result }
    match p with
    | .nothing => return ⟨.null, at_ + 1, jumps⟩
    | .reference id =>
      let place ← d.follow id jumps
      let r ← value d fuel false depth place (jumps + 1)
      return ⟨r.result, at_ + 1, r.jumps⟩
    | .scalar tag? text style =>
      match own? tag? with
      | some tag => tagged tag
      | none =>
        let v ← Value.ofScalar (if taken then none else tag?) text style
        return ⟨v, at_ + 1, jumps⟩
    | .sequenceStart tag? =>
      match own? tag? with
      | some tag => tagged tag
      | none =>
        if depth = 0 then .error .nesting
        else
          let r ← items d fuel (depth - 1) (at_ + 1) jumps
          return ⟨.sequence r.result, r.next, r.jumps⟩
    | .mappingStart tag? =>
      match own? tag? with
      | some tag => tagged tag
      | none =>
        if depth = 0 then .error .nesting
        else
          let r ← entries d fuel (depth - 1) (at_ + 1) jumps []
          return ⟨.mapping r.result, r.next, r.jumps⟩
    | .sequenceEnd => .error .grammar
    | .mappingEnd => .error .grammar

/-- The members of a sequence from a place on. -/
def items (d : Document) : Nat → Nat → Nat → Nat → Except Fault (Reading (List Value))
  | 0, _, _, _ => .error .repetition
  | fuel + 1, depth, at_, jumps => do
    if (← d.piece at_) = .sequenceEnd then return ⟨[], at_ + 1, jumps⟩
    else
      let first ← value d fuel false depth at_ jumps
      let rest ← items d fuel depth first.next first.jumps
      return { rest with result := first.result :: rest.result }

/-- The entries of a mapping from a place on, behind the ones read before, which are reversed. A key
that was there before is refused before its value is read. -/
def entries (d : Document) :
    Nat → Nat → Nat → Nat → List (Value × Value) → Except Fault (Reading (List (Value × Value)))
  | 0, _, _, _, _ => .error .repetition
  | fuel + 1, depth, at_, jumps, before => do
    if (← d.piece at_) = .mappingEnd then return ⟨before.reverse, at_ + 1, jumps⟩
    else
      let k ← value d fuel false depth at_ jumps
      if before.any fun e => Value.same e.1 k.result then .error .duplicateKey
      else
        let v ← value d fuel false depth k.next k.jumps
        entries d fuel depth v.next v.jumps ((k.result, v.result) :: before)

end

/-- A bound for the length of a path of readings inside one another. -/
def fuel (d : Document) : Nat :=
  (d.pieces.size + 2) * (2 * depthLimit + 4)

/-- What is wrong behind the value of a document: a fault of the text, or a second document. -/
def closing (d : Document) : Except Fault Unit :=
  match d.fault? with
  | some fault => .error fault
  | none => if d.last then .ok () else .error .documents

/-- The **value** of the one document of a text. -/
def read (text : String) : Except Fault Value := do
  let d := ofText text
  let r ← d.value d.fuel false depthLimit 0 0
  d.closing
  return r.result

end Document

end GeoBench.Yaml
