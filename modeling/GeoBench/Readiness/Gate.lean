import GeoBench.Machine.Runner
import GeoBench.Text.Lines
import GeoBench.Text.Search

/-!
# Readiness gates

A gate asks a status command how many members of the cluster are ready: it counts the lines of the
listing that hold a token. The gate is passed when the count is exactly the expected one; more
members than expected are not ready either.

## Main results

* `countMatching_append_line` — one more line adds one to the count exactly when it holds the token.
-/

namespace GeoBench.Readiness

open GeoBench.Machine GeoBench.Text

/-- What a gate counts. -/
inductive Dimension where
  | nodes
  | services
  deriving DecidableEq, Repr

namespace Dimension

/-- A dimension in words. -/
def text : Dimension → String
  | nodes => "swarm nodes"
  | services => "swarm services"

/-- A dimension as it is named among the details of a poll. -/
def detail : Dimension → String
  | nodes => "SwarmNodes"
  | services => "SwarmServices"

end Dimension

/-- The result of one check. -/
structure Check where
  dimension : Dimension
  target : Nat
  actual : Nat
  deriving DecidableEq, Repr

/-- Whether a check **passes**: the count is exactly the target. -/
def Check.passes (c : Check) : Bool :=
  c.actual == c.target

/-- A check as it is shown among the details of a poll. -/
def Check.detail (c : Check) : String :=
  "ReadinessCheck \x7b dimension: " ++ c.dimension.detail ++ ", target: " ++ toString c.target ++
    ", actual: " ++ toString c.actual ++ " \x7d"

/-- How many lines of a listing hold a token. -/
def countMatching (listing token : String) : Nat :=
  ((lines listing).filter fun l => contains l token).length

/-- A **gate**: a status command, the token of a ready member and the count to reach. -/
structure Gate where
  dimension : Dimension
  target : Nat
  status : Invocation
  token : String
  deriving DecidableEq, Repr

/-- One check of a gate. -/
def Gate.check {σ : Type} (g : Gate) (runner : Runner σ) : Session σ CallFault Check := do
  let listing ← Session.perform runner .output g.status
  return { dimension := g.dimension, target := g.target, actual := countMatching listing g.token }

/-- The lines of a list of characters whose unfinished line is closed by a line feed. -/
theorem linesFrom_append_lineFeed (unfinished cs rest : List Char) :
    linesFrom unfinished (cs ++ '\n' :: rest) =
      linesFrom unfinished (cs ++ ['\n']) ++ linesFrom [] rest := by
  induction cs generalizing unfinished with
  | nil => simp [linesFrom]
  | cons c cs ih =>
    by_cases hc : c = '\n'
    · simp [linesFrom, hc, ih]
    · simp [linesFrom, hc, ih]

/-- One more line adds one to the count exactly when it holds the token. -/
theorem countMatching_append_line {listing token line : String}
    (hlisting : ∃ cs, listing.toList = cs ++ ['\n']) (hline : line.toList ≠ [])
    (hbreak : '\n' ∉ line.toList) :
    countMatching (listing ++ line) token =
      countMatching listing token + if contains line token then 1 else 0 := by
  obtain ⟨cs, hcs⟩ := hlisting
  have single : ∀ (u l : List Char), '\n' ∉ l → (u ≠ [] ∨ l ≠ []) →
      linesFrom u l = [u.reverse ++ l] := by
    intro u l
    induction l generalizing u with
    | nil =>
      intro _ h
      have : u ≠ [] := by simpa using h
      simp [linesFrom, this]
    | cons c l ih =>
      intro hn _
      have hc : c ≠ '\n' := fun h => hn (by simp [h])
      have hl : '\n' ∉ l := fun h => hn (List.mem_cons_of_mem _ h)
      simp [linesFrom, hc, ih (c :: u) hl (Or.inl (by simp))]
  have hsplit : charLines (listing ++ line).toList =
      charLines listing.toList ++ [line.toList] := by
    rw [String.toList_append, hcs, List.append_assoc, List.singleton_append, charLines,
      linesFrom_append_lineFeed, charLines, single [] line.toList hbreak (Or.inr hline)]
    simp
  simp only [countMatching, lines, hsplit, List.map_append, List.map_cons, List.map_nil,
    List.filter_append, List.length_append, String.ofList_toList]
  by_cases h : contains line token = true <;> simp [h]

end GeoBench.Readiness
