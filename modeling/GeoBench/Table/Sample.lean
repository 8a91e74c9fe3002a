import GeoBench.Metric
import GeoBench.Number.Arithmetic
import GeoBench.Number.Decimal
import GeoBench.Table.Row

/-!
# Samples of a metric table

A sample is the value of one data row: a whole number, or a binary64 number when the cell has a
point or names a whole number beyond 64 bits. Counters add their samples up and stay at the largest
word when the sum passes it; durations are averaged.

## Faults of a cell

A cell that is tried as a whole number and is none is read as a float, and a remark is logged that
tells the fault. The remark makes no difference to the sample.

## Main results

* `Sample.toCount_le` — a sample read from a cell counts for no more than the largest word.
-/

namespace GeoBench.Table

open GeoBench.Text GeoBench.Number

/-- The value of one data row. -/
inductive Sample where
  | integer (value : Nat)
  | float (value : Binary64)
  deriving DecidableEq

namespace Sample

/-- A sample as a binary64 number. -/
def toFloat : Sample → Binary64
  | integer n => .ofNat n
  | float x => x

/-- A sample as a count: a fraction is cut off, and what is out of range stays at its end. -/
def toCount : Sample → Nat
  | integer n => n
  | float x => x.toWord

end Sample

/-- Why a cell is no whole number of 64 bits. -/
inductive WordFault where
  | invalidDigit
  | tooLarge
  deriving DecidableEq, Repr

/-- The wording of a fault. -/
def WordFault.message : WordFault → String
  | invalidDigit => "invalid digit found in string"
  | tooLarge => "number too large to fit in target type"

/-- The whole number that ASCII digits continue, or the first fault from the left. -/
def wordFrom (value : Nat) : List Char → Except WordFault Nat
  | [] => .ok value
  | c :: cs =>
    match digitValue? 10 c with
    | none => .error .invalidDigit
    | some d => if value * 10 + d ≤ Binary64.maxWord then wordFrom (value * 10 + d) cs
        else .error .tooLarge

/-- What reading a value cell gives: a sample if it has one, and the fault that made a whole number
be read as a float. -/
structure Reading where
  sample? : Option Sample
  fault? : Option WordFault

/-- The reading of a value cell. With a point it is a float; without one it is a whole number, or a
float when it does not fit. -/
def readCell (cell : List Char) : Reading :=
  let float? := (readSignedNumeral cell).map Sample.float
  if cell.contains '.' then ⟨float?, none⟩
  else match wordFrom 0 cell with
    | .ok n => ⟨some (.integer n), none⟩
    | .error fault => ⟨float?, some fault⟩

/-- The value cells of a table, in the order of its rows. -/
def valueCells (text : String) : List (List Char) :=
  (charLines text.toList).filterMap valueCell?

/-- The **samples** of a table, in the order of its rows. A row whose cell has no reading gives
none. -/
def samples (text : String) : List Sample :=
  (valueCells text).filterMap fun cell => (readCell cell).sample?

/-- A remark for each cell of a table that was tried as a whole number and is none. -/
def remarks (text : String) : List String :=
  (valueCells text).filterMap fun cell =>
    (readCell cell).fault?.map fun fault =>
      "cell '" ++ String.ofList cell ++ "' is not a u64 (" ++ fault.message ++
        "), reading it as a float"

/-- The sum of two words, or the largest word if it is beyond. -/
def saturatingAdd (a b : Nat) : Nat :=
  min (a + b) Binary64.maxWord

/-- The **sum** of counter samples, at most the largest word. -/
def sum (ss : List Sample) : Nat :=
  ss.foldl (fun total s => saturatingAdd total s.toCount) 0

/-- The **mean** of duration samples, zero when there are none. -/
def mean (ss : List Sample) : Binary64 :=
  if ss.isEmpty then .zero false
  else Binary64.div (ss.foldl (fun total s => Binary64.add total s.toFloat) (Binary64.zero true))
    (.ofNat ss.length)

/-- A number read from the left is a word. -/
theorem wordFrom_le {value n : Nat} {cs : List Char} (hv : value ≤ Binary64.maxWord)
    (h : wordFrom value cs = .ok n) : n ≤ Binary64.maxWord := by
  induction cs generalizing value with
  | nil => simp only [wordFrom, Except.ok.injEq] at h; omega
  | cons c cs ih =>
    simp only [wordFrom] at h
    split at h
    · cases h
    · split at h
      next hle => exact ih hle h
      · cases h

/-- A sample read from a cell counts for no more than the largest word. -/
theorem Sample.toCount_le {cell : List Char} {s : Sample} (h : (readCell cell).sample? = some s) :
    s.toCount ≤ Binary64.maxWord := by
  have float_le : ∀ {x : Option Binary64}, x.map Sample.float = some s →
      s.toCount ≤ Binary64.maxWord := by
    intro x hx
    obtain ⟨y, -, rfl⟩ := Option.map_eq_some_iff.1 hx
    exact Binary64.toWord_le y
  simp only [readCell] at h
  split at h
  · exact float_le h
  · split at h
    next n hn =>
      simp only [Option.some.injEq] at h
      subst h
      exact wordFrom_le (Nat.zero_le _) hn
    next => exact float_le h

end GeoBench.Table
