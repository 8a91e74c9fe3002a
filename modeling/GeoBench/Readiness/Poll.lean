import GeoBench.Readiness.Gate

/-!
# Polling a gate

A poll waits, checks, and waits again, until a check passes or the budget of seconds is used up.
Each wait takes the interval, or what is left of the budget if that is less; the last check comes
after the wait that brings the budget to zero, so there is always at least one check.

## Main results

* `step_le` — a wait never takes more than is left.
* `step_pos` — while something is left, a wait takes some of it, so a poll ends.
-/

namespace GeoBench.Readiness

open GeoBench.Machine

/-- The interval and the budget of a poll, in seconds. An interval of zero counts as one. -/
structure Limits where
  interval : Nat
  budget : Nat
  deriving DecidableEq, Repr

/-- What a poll that succeeded has to tell. The checks are counted in 32 bits. -/
structure Outcome where
  check : Check
  attempts : UInt32
  waited : Nat
  deriving DecidableEq, Repr

/-- A poll that **failed**: the budget is used up, or the status command failed. -/
inductive PollFault where
  | timeout (dimension : Dimension) (expected actual budget : Nat)
  | noStatus (dimension : Dimension) (cause : CallFault)
  deriving DecidableEq, Repr

namespace PollFault

/-- The wording of a failed poll. -/
def message : PollFault → String
  | timeout dimension expected actual budget =>
    dimension.text ++ " did not converge within " ++ toString budget ++ "s: expected " ++
      toString expected ++ ", last observed " ++ toString actual
  | noStatus dimension cause => dimension.text ++ " status unavailable: " ++ cause.message

/-- The wordings of a failed poll and of what caused it. -/
def chain : PollFault → List String
  | noStatus dimension cause => message (noStatus dimension cause) :: cause.chain
  | other => [message other]

end PollFault

/-- How long the next wait takes, when some seconds of the budget are left. -/
def step (interval left : Nat) : Nat :=
  min (max interval 1) left

/-- A wait never takes more than is left. -/
theorem step_le (interval left : Nat) : step interval left ≤ left :=
  Nat.min_le_right _ _

/-- While something is left, a wait takes some of it. -/
theorem step_pos (interval : Nat) {left : Nat} (h : 0 < left) : 0 < step interval left := by
  simp only [step]
  omega

section

variable {σ : Type}

/-- A line of detail on the state of a poll. -/
def detail (dimension : Dimension) (state : String) : Session σ PollFault Unit :=
  Session.debug (dimension.text ++ ": " ++ state)

/-- The **poll** from the moment when `left` seconds of the budget are left and `attempts` checks
were made. -/
def pollFrom (dimension : Dimension) (target : Nat) (limits : Limits) (pacer : Pacer)
    (probe : Session σ CallFault Nat) (attempts : UInt32) (left : Nat) :
    Session σ PollFault Outcome := do
  let rest := left - step limits.interval left
  detail dimension ("Waiting \x7b remaining_secs: " ++ toString left ++ " \x7d")
  Session.wait pacer (step limits.interval left)
    ("waiting for " ++ dimension.text ++ " (" ++ toString left ++ "s budget left)")
  detail dimension "Checking"
  let actual ← Session.withFault (.noStatus dimension) probe
  let check : Check := { dimension, target, actual }
  if check.passes then
    detail dimension ("Satisfied(" ++ check.detail ++ ")")
    return { check, attempts := attempts + 1, waited := limits.budget - rest }
  else if h : rest = 0 then
    detail dimension ("Failed(" ++ check.detail ++ ")")
    throw (.timeout dimension target actual limits.budget)
  else
    Session.info (dimension.text ++ ": " ++ toString actual ++ "/" ++ toString target ++
      " ready, retrying (" ++ toString rest ++ "s budget left)")
    pollFrom dimension target limits pacer probe (attempts + 1) rest
termination_by left
decreasing_by
  have : 0 < step limits.interval left := step_pos limits.interval (by omega)
  omega

/-- A **poll** of any probe. -/
def poll (dimension : Dimension) (target : Nat) (limits : Limits) (pacer : Pacer)
    (probe : Session σ CallFault Nat) : Session σ PollFault Outcome :=
  pollFrom dimension target limits pacer probe 0 limits.budget

/-- A poll of a gate, with a line before it and another one after its success. -/
def Gate.await (g : Gate) (limits : Limits) (pacer : Pacer) (runner : Runner σ) :
    Session σ PollFault Outcome := do
  Session.info ("waiting for " ++ toString g.target ++ " " ++ g.dimension.text ++ " (budget " ++
    toString limits.budget ++ "s)")
  let outcome ← poll g.dimension g.target limits pacer do
    return (← g.check runner).actual
  Session.info (g.dimension.text ++ " ready: " ++ toString outcome.check.actual ++ "/" ++
    toString outcome.check.target ++ " after " ++ toString outcome.attempts ++ " check(s)")
  return outcome

end

end GeoBench.Readiness
