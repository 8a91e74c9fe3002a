import GeoBench.Shell.Octets

/-!
# Patterns

Patterns of the shell: a star stands for any octets, a question mark for one, and brackets for one
of a set. They choose the branch of a case, cut parts off a value, and name files.

## Main results

* `matches_exactly` — without anything special, a pattern matches its own octets alone.
-/

namespace GeoBench.Shell

/-- A member of a set in brackets. -/
inductive Member where
  | one (c : Char)
  | range (first last : Char)
  | digit
  | alpha
  | upper
  | lower
  | space
  deriving DecidableEq, Repr

/-- Whether an octet belongs to a member. -/
def Member.holds (c : Char) : Member → Bool
  | one d => c == d
  | range first last => first.toNat ≤ c.toNat && c.toNat ≤ last.toNat
  | digit => c.isDigit
  | alpha => c.isAlpha
  | upper => c.isUpper
  | lower => c.isLower
  | space => c.isWhitespace || c.toNat == 11 || c.toNat == 12

/-- A part of a **pattern**. -/
inductive Glob where
  | exactly (c : Char)
  | any
  | many
  | oneOf (negated : Bool) (members : List Member)
  deriving DecidableEq, Repr

namespace Glob

/-- Whether a part that is no star stands for an octet. -/
def accepts (c : Char) : Glob → Bool
  | exactly d => c == d
  | any => true
  | many => false
  | oneOf negated members => members.any (Member.holds c) != negated

/-- Whether a pattern **matches** octets as a whole. -/
def isMatch : List Glob → Octets → Bool
  | [], cs => cs.isEmpty
  | many :: ps, [] => isMatch ps []
  | many :: ps, c :: cs => isMatch ps (c :: cs) || isMatch (many :: ps) cs
  | _ :: _, [] => false
  | p :: ps, c :: cs => accepts c p && isMatch ps cs
termination_by ps cs => ps.length + cs.length

/-- Without anything special, a pattern matches its own octets alone. -/
theorem matches_exactly (cs ds : Octets) : isMatch (cs.map exactly) ds = (cs == ds) := by
  induction cs generalizing ds with
  | nil => cases ds <;> simp [isMatch]
  | cons c cs ih =>
    cases ds with
    | nil => simp [isMatch]
    | cons d ds =>
      have h : (d == c) = (c == d) := Bool.beq_comm
      simp only [List.map_cons, isMatch, accepts, ih, h]
      rfl

/-- An octet of a pattern, with a mark whether it stands for itself alone. -/
structure Inked where
  char : Char
  verbatim : Bool
  deriving DecidableEq, Repr

/-- The members of a set up to its closing bracket, and what follows it. A bracket that comes first
is a member. -/
def members (first : Bool) : List Inked → Option (List Member × List Inked)
  | [] => none
  | ⟨']', false⟩ :: rest => if first then
      (members false rest).map fun (ms, after) => (.one ']' :: ms, after)
    else some ([], rest)
  | ⟨'[', false⟩ :: ⟨':', _⟩ :: ⟨a, _⟩ :: ⟨b, _⟩ :: ⟨c, _⟩ :: ⟨d, _⟩ :: ⟨e, _⟩ :: ⟨':', _⟩ ::
      ⟨']', _⟩ :: rest =>
    let named : List Member := match [a, b, c, d, e] with
      | ['d', 'i', 'g', 'i', 't'] => [.digit]
      | ['a', 'l', 'p', 'h', 'a'] => [.alpha]
      | ['a', 'l', 'n', 'u', 'm'] => [.alpha, .digit]
      | ['u', 'p', 'p', 'e', 'r'] => [.upper]
      | ['l', 'o', 'w', 'e', 'r'] => [.lower]
      | ['s', 'p', 'a', 'c', 'e'] => [.space]
      | _ => []
    (members false rest).map fun (ms, after) => (named ++ ms, after)
  | a :: ⟨'-', false⟩ :: b :: rest =>
    if b.char = ']' && !b.verbatim then
      (members false (⟨'-', false⟩ :: b :: rest)).map fun (ms, after) => (.one a.char :: ms, after)
    else (members false rest).map fun (ms, after) => (.range a.char b.char :: ms, after)
  | a :: rest => (members false rest).map fun (ms, after) => (.one a.char :: ms, after)
termination_by cs => cs.length

/-- A set after its opening bracket, and what follows it. -/
def setFrom (cs : List Inked) : Option (Glob × List Inked) :=
  match cs with
  | ⟨'!', false⟩ :: rest | ⟨'^', false⟩ :: rest =>
    (members true rest).map fun (ms, after) => (oneOf true ms, after)
  | rest => (members true rest).map fun (ms, after) => (oneOf false ms, after)

/-- The pattern that marked octets spell; `fuel` bounds its length. -/
def ofInkedWith : Nat → List Inked → List Glob
  | 0, _ | _, [] => []
  | fuel + 1, ⟨c, verbatim⟩ :: rest =>
    if verbatim then exactly c :: ofInkedWith fuel rest
    else match c with
      | '*' => many :: ofInkedWith fuel rest
      | '?' => any :: ofInkedWith fuel rest
      | '[' =>
        match setFrom rest with
        | some (set, after) => set :: ofInkedWith fuel after
        | none => exactly c :: ofInkedWith fuel rest
      | '\\' =>
        match rest with
        | next :: after => exactly next.char :: ofInkedWith fuel after
        | [] => [exactly c]
      | _ => exactly c :: ofInkedWith fuel rest

/-- The **pattern** that marked octets spell. -/
def ofInked (cs : List Inked) : List Glob :=
  ofInkedWith cs.length cs

/-- Whether a pattern has a part that does not stand for one octet alone. -/
def isSpecial (ps : List Glob) : Bool :=
  ps.any fun
    | exactly _ => false
    | _ => true

/-- The lengths of the starts of octets that a pattern matches, the shortest first. -/
def startLengths (ps : List Glob) (cs : Octets) : List Nat :=
  (List.range (cs.length + 1)).filter fun n => isMatch ps (cs.take n)

/-- Octets without the shortest or the longest start that a pattern matches. -/
def dropStart (longest : Bool) (ps : List Glob) (cs : Octets) : Octets :=
  let found := startLengths ps cs
  match if longest then found.getLast? else found.head? with
  | some n => cs.drop n
  | none => cs

/-- Octets without the shortest or the longest end that a pattern matches. -/
def dropEnd (longest : Bool) (ps : List Glob) (cs : Octets) : Octets :=
  let found := (List.range (cs.length + 1)).filter fun n => isMatch ps (cs.drop n)
  match if longest then found.head? else found.getLast? with
  | some n => cs.take n
  | none => cs

end Glob

end GeoBench.Shell
