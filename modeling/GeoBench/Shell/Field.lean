import GeoBench.Shell.State

/-!
# Fields

The expansion of a word gives marked octets, and these give the fields that a command is made of:
what was expanded outside quotes is split at separators, and fields with something special in them
name files.

## Marks

What was between quotes is never split and names no files, and this is no longer visible once the
quotes are gone. So an expanded word is not a text but a list of marks, each an octet and how it
came into the word. An empty text between quotes has a mark as well, and so makes a field, where an
empty value without quotes makes none.

## Main results

* `Splitting.fields_verbatim` — what stood between quotes is one field, whatever is in it.
-/

namespace GeoBench.Shell

open GeoBench.Machine

/-- How an octet came into a word. -/
inductive Ink where
  | verbatim
  | literal
  | expanded
  deriving DecidableEq, Repr

/-- A **mark** of an expanded word: an octet, the sign that something stood there, or the end of one
of several arguments. -/
inductive Mark where
  | ink (c : Char) (how : Ink)
  | anchor
  | gap
  deriving DecidableEq, Repr

namespace Mark

/-- Octets marked in one way. -/
def inked (how : Ink) (cs : Octets) : List Mark :=
  cs.map fun c => ink c how

/-- The octets of marks. -/
def text (ms : List Mark) : Octets :=
  ms.filterMap fun
    | ink c _ => some c
    | gap => some ' '
    | anchor => none

/-- The pattern that marks spell. -/
def pattern (ms : List Mark) : List Glob :=
  Glob.ofInked (ms.filterMap fun
    | ink c how => some ⟨c, how = .verbatim⟩
    | gap => some ⟨' ', true⟩
    | anchor => none)

/-- Marks as they are inside quotes. -/
def quoted (ms : List Mark) : List Mark :=
  ms.map fun
    | ink c _ => ink c .verbatim
    | other => other

/-- Marks of a word that takes the place of a value outside quotes. -/
def unquoted (ms : List Mark) : List Mark :=
  ms.map fun
    | ink c .literal => ink c .expanded
    | other => other

end Mark

/-- The fields found so far, the latest first, and the one that is under way. -/
structure Splitting where
  current : List Glob.Inked := []
  present : Bool := false
  blankBefore : Bool := false
  done : List (List Glob.Inked) := []

namespace Splitting

/-- A separator that several of count as one. -/
def isBlankSeparator (separators : Octets) (c : Char) : Bool :=
  separators.contains c && (c == ' ' || c == '\t' || c == '\n')

/-- The field under way ends. -/
def finish (s : Splitting) : Splitting :=
  if s.present then { done := s.current.reverse :: s.done } else s

/-- One more mark. -/
def step (separators : Octets) (s : Splitting) : Mark → Splitting
  | .anchor => { s with present := true, blankBefore := false }
  | .gap => { s.finish with blankBefore := false }
  | .ink c .expanded =>
    if isBlankSeparator separators c then
      if s.present then { s.finish with blankBefore := true } else s
    else if separators.contains c then
      if s.present then s.finish
      else if s.blankBefore then { s with blankBefore := false }
      else { done := [] :: s.done }
    else { s with current := ⟨c, false⟩ :: s.current, present := true, blankBefore := false }
  | .ink c how =>
    { s with current := ⟨c, how = .verbatim⟩ :: s.current, present := true, blankBefore := false }

/-- The **fields** of marks. -/
def fields (separators : Octets) (ms : List Mark) : List (List Glob.Inked) :=
  (ms.foldl (step separators) {}).finish.done.reverse

/-- What stood between quotes is one field, whatever is in it. -/
theorem fields_verbatim (separators cs : Octets) :
    fields separators (.anchor :: Mark.inked .verbatim cs) =
      [cs.map fun c => ⟨c, true⟩] := by
  have run : ∀ (cs : Octets) (current : List Glob.Inked),
      (Mark.inked .verbatim cs).foldl (step separators) { current, present := true } =
        { current := (cs.map fun c => (⟨c, true⟩ : Glob.Inked)).reverse ++ current
          present := true } := by
    intro cs
    induction cs with
    | nil => intro current; rfl
    | cons c cs ih =>
      intro current
      have := ih (⟨c, true⟩ :: current)
      simp only [Mark.inked, List.map_cons, List.foldl_cons, step] at this ⊢
      simpa using this
  simp [fields, step, run, finish]

end Splitting

/-! ### Names of files -/

/-- Marked octets between slashes. -/
def inkedSteps (cs : List Glob.Inked) : List (List Glob.Inked) :=
  go [] cs
where
  /-- The steps behind the start of one, the latest octet first. -/
  go (step : List Glob.Inked) : List Glob.Inked → List (List Glob.Inked)
    | [] => [step.reverse]
    | c :: rest => if c.char == '/' then step.reverse :: go [] rest else go (c :: step) rest

/-- The octets of marked ones. -/
def inkedText (cs : List Glob.Inked) : Octets :=
  cs.map Glob.Inked.char

/-- The paths that steps with patterns lead to, from a place that is named so far. -/
def matchingPaths (t : Tree) : List (List Glob.Inked) → Place → Octets → List Octets
  | [], _, sofar => [sofar]
  | step :: rest, place, sofar =>
    let ps := Glob.ofInked step
    let join (name : Octets) : Octets :=
      if rest.isEmpty then sofar ++ name else sofar ++ name ++ ['/']
    if step.isEmpty then matchingPaths t rest place (join [])
    else if Glob.isSpecial ps then
      let names := (Tool.namesIn t place).map fun n => (n, Octets.ofText n)
      let fitting := names.filter fun (_, o) =>
        Glob.isMatch ps o && (o.head? != some '.' || (inkedText step).head? == some '.')
      fitting.flatMap fun (n, o) =>
        if rest.isEmpty then [join o]
        else if t.isDirectoryAt (n :: place) then matchingPaths t rest (n :: place) (join o)
        else []
    else
      let name := Octets.toText (inkedText step)
      let place' := if name = "." then place else if name = ".." then place.tail else name :: place
      if (t.node? place').isSome then matchingPaths t rest place' (join (inkedText step)) else []

/-- The names of files that a field stands for, or the field itself if there is none. -/
def fileNames (t : Tree) (cwd : Place) (field : List Glob.Inked) : List Octets :=
  if Glob.isSpecial (Glob.ofInked field) then
    let found := match field with
      | ⟨'/', _⟩ :: rest => matchingPaths t (inkedSteps rest) [] ['/']
      | _ => matchingPaths t (inkedSteps field) cwd []
    if found.isEmpty then [inkedText field] else found
  else [inkedText field]

end GeoBench.Shell
