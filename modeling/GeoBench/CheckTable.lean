import GeoBench.Manager
import GeoBench.Text.Quoted

/-!
# Checking a table by hand

A small program beside the manager: it reads the listing of one metric from a file and shows the
values that the manager would find in it, and what they combine to.

## Main results

* `length_lines` — a table gives one line for each value, and two around them.
-/

namespace GeoBench.CheckTable

open GeoBench.Machine GeoBench.Table GeoBench.Number

/-- Why a table **cannot be checked**. -/
inductive CheckFault where
  | unknownMetric (name : String)
  | unreadable (cause : Fault)
  deriving DecidableEq, Repr

/-- The words for the kind of a system fault that is shown when a table cannot be read. -/
def faultKind : Nat → String
  | 1 | 13 => "PermissionDenied"
  | 2 => "NotFound"
  | 20 => "NotADirectory"
  | 21 => "IsADirectory"
  | 36 => "InvalidFilename"
  | _ => "Uncategorized"

/-- A system fault with its details. -/
def faultDetail : Fault → String
  | .numbered n =>
    let wording := (Fault.wording.lookup n).getD ("Unknown error " ++ toString n)
    "Os \x7b code: " ++ toString n ++ ", kind: " ++ faultKind n ++ ", message: \"" ++ wording ++
      "\" \x7d"
  | .remark text =>
    let kind := if Fault.remark text = .notText then "InvalidData" else "InvalidInput"
    "Error \x7b kind: " ++ kind ++ ", message: \"" ++ text ++ "\" \x7d"

/-- The wording of a fault. -/
def CheckFault.message : CheckFault → String
  | unknownMetric name => "Error: " ++ Text.quote ("unknown metric '" ++ name ++ "'")
  | unreadable cause => "Error: " ++ faultDetail cause

/-- The lines that tell how the program is used. -/
def usage (program : String) : List String :=
  ["Usage: " ++ program ++ " <metric> <file>", "Metrics:"] ++
    Metric.all.map fun metric => "  " ++ metric.exportName

/-- The line for what some samples combine to. -/
def summary (metric : Metric) (found : List Sample) : String :=
  match metric.kind with
  | .counter => "sum: " ++ toString (sum found)
  | .duration => "mean: " ++ (mean found).displayTwoPlaces

/-- The lines that a table gives. -/
def lines (metric : Metric) (text : String) : List String :=
  let found := samples text
  ["Found " ++ toString found.length ++ " rows for " ++ metric.exportName ++ ":"] ++
    found.map (fun s => "  " ++ s.toFloat.display) ++ [summary metric found]

/-- A table gives one line for each value, and two around them. -/
theorem length_lines (metric : Metric) (text : String) :
    (lines metric text).length = (samples text).length + 2 := by
  simp only [lines, List.length_append, List.length_map, List.length_cons, List.length_nil]
  omega

section

variable {σ : Type}

/-- A line is written to standard error. -/
def complain {ε : Type} (line : String) : Session σ ε Unit :=
  Session.record (.complained (line ++ "\n"))

/-- A table is **checked**: the lines that it gives are shown. -/
def check (name : String) (path : Path) : Session σ CheckFault Unit := do
  match Metric.ofExportName? name with
  | none => throw (.unknownMetric name)
  | some metric =>
    let text ← Session.withFault .unreadable (Session.readText path)
    (lines metric text).forM Session.printLine

/-- The **program**, from its own name and its arguments on. The result is the exit code. -/
def program (name : String) (arguments : List String) (w : World σ) : Nat × World σ :=
  match arguments with
  | metric :: file :: _ =>
    match (check metric ⟨file⟩).run w with
    | (.ok _, w) => (0, w)
    | (.error fault, w) => (1, { w with past := .complained (fault.message ++ "\n") :: w.past })
  | _ =>
    let told : Session σ CheckFault Unit := (usage name).forM complain
    (1, (told.run w).2)

end

end GeoBench.CheckTable
