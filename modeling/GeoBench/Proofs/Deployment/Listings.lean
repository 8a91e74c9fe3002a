import GeoBench.Deployment.Context
import GeoBench.Proofs.Machine.Session
import GeoBench.Proofs.Text.Columns
import Mathlib.Algebra.Order.Ring.Nat
import Mathlib.Data.Nat.Log

/-!
# The rows that the gates count

The status commands list the members of the cluster in rows of columns. A gate looks for its token
in whole lines, so that it counts every ready member, and also the rows that hold the token in some
other way: in another column, or as a stretch of longer numbers. The rows that are counted are told
here by what they say, for every listing.

## Two kinds of mistakes

A row may hold the token in a column that is not meant, such as a name or a list of ports. And a row
may hold it in the right column as a stretch of other numbers: `1/10` holds `1/1`, and so does
`11/12`. The second kind is told by digits: the last digit of the first number and the first digit
of the second one have to be ones. With fewer than ten replicas wanted, such a row lacks none.

## Members

Services and nodes are both told as members with a row, a state in which they are ready, and a way
in which they are mistaken for ready ones. A gate counts both kinds of rows, and no row is counted
twice (`countP_ready_add_mistaken`).

## Main results

* `countMatching_of_tabulates` — what is counted, told by the columns of the rows.
* `Service.shown_iff`, `Service.wanted_le_running` — which replica numbers are counted, and when
  they are enough.
* `check_counts` — what the gates count, the ready members and the mistaken ones.
* `underreplicated_counted` — a service that lacks replicas and is counted.
-/

namespace GeoBench.Deployment

open GeoBench.Machine GeoBench.Readiness GeoBench.Text

/-! ### Tables -/

/-- The headings that some versions of the status commands add at the end. -/
def addedHeadings : List String :=
  ["PORTS", "ENGINE", "VERSION"]

/-- A listing **tabulates** rows: its lines are a heading and the rows, each cut into columns. -/
def Tabulates (listing : String) (heading : List String) (rows : List (List String)) : Prop :=
  ∃ added ⊆ addedHeadings, (lines listing).map columns = (heading ++ added) :: rows

/-- Whether some column **shows** a token. -/
def Shows (token : String) (row : List String) : Prop :=
  ∃ column ∈ row, contains column token = true

instance (token : String) (row : List String) : Decidable (Shows token row) :=
  inferInstanceAs (Decidable (∃ column ∈ row, contains column token = true))

/-- **What a gate counts** in a table are the rows with the token in some column. -/
theorem countMatching_of_tabulates {listing token : String} {heading : List String}
    {rows : List (List String)} (hne : token.toList ≠ [])
    (hblank : token.toList.any isBlank = false)
    (hheading : ¬ Shows token heading) (hadded : ¬ Shows token addedHeadings)
    (h : Tabulates listing heading rows) :
    countMatching listing token = rows.countP fun row => Shows token row := by
  obtain ⟨added, hsubset, hrows⟩ := h
  have hline : ∀ line, contains line token = decide (Shows token (columns line)) := fun line => by
    rw [Bool.eq_iff_iff, decide_eq_true_iff]
    exact contains_iff_columns hne fun c hc => by simpa using List.any_eq_false.mp hblank c hc
  have hfirst : ¬ Shows token (heading ++ added) := by
    rintro ⟨column, hcolumn, hshown⟩
    rcases List.mem_append.mp hcolumn with hmem | hmem
    · exact hheading ⟨column, hmem, hshown⟩
    · exact hadded ⟨column, hsubset hmem, hshown⟩
  calc countMatching listing token
      = (lines listing).countP fun line => Shows token (columns line) := by
        rw [countMatching, ← List.countP_eq_length_filter]
        exact List.countP_congr fun line _ => by rw [hline]
    _ = ((heading ++ added) :: rows).countP fun row => Shows token row := by
        rw [← hrows, List.countP_map]
        rfl
    _ = rows.countP fun row => Shows token row := by
        rw [List.countP_cons_of_neg (by simpa using hfirst)]

/-- The rows with a token are counted apart, the ready ones and the mistaken ones. -/
theorem countP_ready_add_mistaken {α : Type} {shown ready mistaken : α → Prop}
    [DecidablePred shown] [DecidablePred ready] [DecidablePred mistaken]
    (hready : ∀ a, ready a → shown a) (hmistaken : ∀ a, mistaken a ↔ ¬ ready a ∧ shown a)
    (rows : List α) :
    (rows.countP fun a => shown a) =
      (rows.countP fun a => ready a) + rows.countP fun a => mistaken a := by
  induction rows with
  | nil => rfl
  | cons a rows ih =>
      simp only [List.countP_cons, ih, hmistaken a, decide_eq_true_iff]
      by_cases h : ready a
      · simp only [h, hready a h, not_true, false_and, if_true, if_false]
        omega
      · simp only [h, not_false_eq_true, true_and, if_false]
        omega

/-! ### Numerals -/

/-- The first digit of a number. -/
def leadingDigit (n : Nat) : Nat :=
  n / 10 ^ Nat.log 10 n

/-- A number of one digit is its own leading digit. -/
theorem leadingDigit_of_lt {n : Nat} (h : n < 10) : leadingDigit n = n := by
  rw [leadingDigit, Nat.log_of_lt h, pow_zero, Nat.div_one]

/-- Among the digits, only the one is written as a one. -/
theorem digitChar_eq_one_iff {d : Nat} (h : d < 10) : Nat.digitChar d = '1' ↔ d = 1 := by
  revert d
  decide

/-- The first character of a numeral is a one for the numbers that begin with one. The induction
takes the last digit off. -/
theorem head_toDigits_iff (n : Nat) :
    (Nat.toDigits 10 n).head? = some '1' ↔ leadingDigit n = 1 := by
  induction n using Nat.strongRecOn with
  | ind n ih =>
      rw [Nat.toDigits_eq_if (by omega)]
      split
      next hlt =>
        rw [leadingDigit_of_lt hlt, List.head?_cons, Option.some_inj]
        exact digitChar_eq_one_iff hlt
      next hge =>
        have hlog : Nat.log 10 n = Nat.log 10 (n / 10) + 1 :=
          Nat.log_of_one_lt_of_le (by omega) (by omega)
        have hdigit : leadingDigit n = leadingDigit (n / 10) := by
          rw [leadingDigit, leadingDigit, hlog, pow_succ', Nat.div_div_eq_div_mul]
        rw [List.head?_append_of_ne_nil _ Nat.toDigits_ne_nil, hdigit]
        exact ih (n / 10) (by omega)

/-- The last character of a numeral is a one for the numbers that end with one. -/
theorem getLast_toDigits_iff (n : Nat) :
    (Nat.toDigits 10 n).getLast? = some '1' ↔ n % 10 = 1 := by
  rw [Nat.toDigits_eq_if (by omega)]
  split
  next hlt =>
    rw [Nat.mod_eq_of_lt hlt, List.getLast?_singleton, Option.some_inj]
    exact digitChar_eq_one_iff hlt
  next =>
    rw [List.getLast?_concat, Option.some_inj]
    exact digitChar_eq_one_iff (Nat.mod_lt _ (by omega))

/-- No numeral holds a slash. -/
theorem slash_notMem_toDigits (n : Nat) : '/' ∉ Nat.toDigits 10 n := fun h => by
  have hdigit := Nat.isDigit_of_mem_toDigits (by omega) (by omega) h
  revert hdigit
  decide

/-! ### Services -/

/-- One **service** of a listing. -/
structure Service where
  id : String
  name : String
  mode : String
  /-- How many replicas run. -/
  running : Nat
  /-- How many replicas there should be. -/
  wanted : Nat
  image : String
  /-- What newer versions add behind the image. -/
  ports : List String
  deriving DecidableEq, Repr

namespace Service

variable (s : Service)

/-- The headings above the services. -/
def headings : List String :=
  ["ID", "NAME", "MODE", "REPLICAS", "IMAGE"]

/-- The column for the replicas. -/
def replicas : String :=
  toString s.running ++ "/" ++ toString s.wanted

/-- The columns without the one for the replicas. -/
def otherColumns : List String :=
  s.id :: s.name :: s.mode :: s.image :: s.ports

/-- The row of a service. -/
def row : List String :=
  s.id :: s.name :: s.mode :: s.replicas :: s.image :: s.ports

/-- A service is **ready** with its one replica. -/
def Ready : Prop :=
  s.replicas = "1/1"

/-- A service is **mistaken** for a ready one if its numbers meet at two ones, or if another column
holds the token. -/
def Mistaken : Prop :=
  ¬ s.Ready ∧ (s.running % 10 = 1 ∧ leadingDigit s.wanted = 1 ∨ Shows "1/1" s.otherColumns)

instance : Decidable s.Ready :=
  inferInstanceAs (Decidable (s.replicas = "1/1"))

instance : Decidable s.Mistaken :=
  inferInstanceAs (Decidable (¬ s.Ready ∧ (_ ∧ _ ∨ _)))

/-- The column for the replicas shows the token when its two ones meet at the slash. -/
theorem contains_replicas_iff :
    contains s.replicas "1/1" = true ↔ s.running % 10 = 1 ∧ leadingDigit s.wanted = 1 := by
  have hreplicas : s.replicas.toList =
      Nat.toDigits 10 s.running ++ '/' :: Nat.toDigits 10 s.wanted := by
    simp [replicas, String.toList_append, Nat.toString_eq_repr, Nat.toList_repr]
  calc contains s.replicas "1/1" = true
      ↔ occursIn ['1', '/', '1'] s.replicas.toList = true := by rw [contains]; rfl
    _ ↔ (Nat.toDigits 10 s.running).getLast? = some '1' ∧
          (Nat.toDigits 10 s.wanted).head? = some '1' := by
        rw [hreplicas, occursIn_pair_iff (slash_notMem_toDigits _) (slash_notMem_toDigits _)]
    _ ↔ s.running % 10 = 1 ∧ leadingDigit s.wanted = 1 := by
        rw [getLast_toDigits_iff, head_toDigits_iff]

/-- The row of a ready service shows the token. -/
theorem shown_of_ready (h : s.Ready) : Shows "1/1" s.row :=
  ⟨s.replicas, by simp [row], by rw [show s.replicas = "1/1" from h]; decide⟩

/-- **The row of a service shows the token** by its replica numbers or in another column. -/
theorem shown_iff :
    Shows "1/1" s.row ↔
      s.running % 10 = 1 ∧ leadingDigit s.wanted = 1 ∨ Shows "1/1" s.otherColumns := by
  rw [← contains_replicas_iff]
  simp only [Shows, row, otherColumns, List.mem_cons, exists_eq_or_imp, or_left_comm]

/-- Among services that want fewer than ten replicas and hold the token nowhere else, none that is
counted lacks a replica. -/
theorem wanted_le_running (hother : ¬ Shows "1/1" s.otherColumns) (hwanted : s.wanted < 10)
    (h : Shows "1/1" s.row) : s.wanted ≤ s.running := by
  obtain ⟨hrunning, hleading⟩ := s.shown_iff.mp h |>.resolve_right hother
  rw [leadingDigit_of_lt hwanted] at hleading
  omega

end Service

/-! ### Nodes -/

/-- One **node** of a listing. -/
structure Node where
  id : String
  /-- Whether the status command ran on this node, which a column with a star tells. -/
  current : Bool
  hostname : String
  status : String
  availability : String
  /-- What stands behind the availability: the part of a manager and the version of the engine. -/
  details : List String
  deriving DecidableEq, Repr

namespace Node

variable (n : Node)

/-- The headings above the nodes. -/
def headings : List String :=
  ["ID", "HOSTNAME", "STATUS", "AVAILABILITY", "MANAGER", "STATUS"]

/-- The columns before the host name. -/
def marks : List String :=
  n.id :: if n.current then ["*"] else []

/-- The row of a node. -/
def row : List String :=
  n.marks ++ n.hostname :: n.status :: n.availability :: n.details

/-- A node is **ready** by its status. -/
def Ready : Prop :=
  n.status = "Ready"

/-- A node is **mistaken** for a ready one if some column holds the token. -/
def Mistaken : Prop :=
  ¬ n.Ready ∧ Shows "Ready" n.row

instance : Decidable n.Ready :=
  inferInstanceAs (Decidable (n.status = "Ready"))

instance : Decidable n.Mistaken :=
  inferInstanceAs (Decidable (¬ n.Ready ∧ Shows "Ready" n.row))

/-- The row of a ready node shows the token. -/
theorem shown_of_ready (h : n.Ready) : Shows "Ready" n.row :=
  ⟨n.status, by simp [row], by rw [show n.status = "Ready" from h]; decide⟩

end Node

/-! ### The gates -/

variable {σ : Type}

/-- The services that their gate counts. -/
theorem countMatching_services {listing : String} {services : List Service}
    (h : Tabulates listing Service.headings (services.map Service.row)) :
    countMatching listing "1/1" =
      services.countP (fun s => s.Ready) + services.countP fun s => s.Mistaken := by
  rw [countMatching_of_tabulates (by decide) (by decide) (by decide) (by decide) h,
    List.countP_map]
  exact countP_ready_add_mistaken Service.shown_of_ready
    (fun s => and_congr_right fun _ => s.shown_iff.symm) services

/-- The nodes that their gate counts. -/
theorem countMatching_nodes {listing : String} {nodes : List Node}
    (h : Tabulates listing Node.headings (nodes.map Node.row)) :
    countMatching listing "Ready" =
      nodes.countP (fun n => n.Ready) + nodes.countP fun n => n.Mistaken := by
  rw [countMatching_of_tabulates (by decide) (by decide) (by decide) (by decide) h,
    List.countP_map]
  exact countP_ready_add_mistaken Node.shown_of_ready (fun _ => Iff.rfl) nodes

/-- **What the gates count** in any listing are the ready members and those that are mistaken for
ready ones. -/
theorem check_counts (c : Config) (runner : Runner σ) (w : World σ) (listing : String) :
    (∀ services : List Service,
      Tabulates listing Service.headings (services.map Service.row) →
      (Session.exchangeOf runner .output (servicesGate c).status w).reply = .ok listing →
      (((servicesGate c).check runner).run w).1 = .ok
        { dimension := .services
          target := c.swarmServices
          actual := services.countP (fun s => s.Ready) + services.countP fun s => s.Mistaken }) ∧
    (∀ nodes : List Node,
      Tabulates listing Node.headings (nodes.map Node.row) →
      (Session.exchangeOf runner .output (nodesGate c).status w).reply = .ok listing →
      (((nodesGate c).check runner).run w).1 = .ok
        { dimension := .nodes
          target := c.swarmNodes
          actual := nodes.countP (fun n => n.Ready) + nodes.countP fun n => n.Mistaken }) := by
  have hcheck : ∀ g : Gate,
      (Session.exchangeOf runner .output g.status w).reply = .ok listing →
      ((g.check runner).run w).1 = .ok
        { dimension := g.dimension, target := g.target,
          actual := countMatching listing g.token } := by
    intro g hreply
    rw [Gate.check, Session.run_bind, Session.run_perform, hreply]
    rfl
  constructor
  · intro services hlisting hreply
    rw [hcheck (servicesGate c) hreply, ← countMatching_services hlisting]
    rfl
  · intro nodes hlisting hreply
    rw [hcheck (nodesGate c) hreply, ← countMatching_nodes hlisting]
    rfl

/-- Services of which one lacks nine replicas of ten. -/
def lackingServices : List Service :=
  [⟨"x1", "redis", "replicated", 1, 1, "redis:6", []⟩,
   ⟨"x2", "posts", "replicated", 1, 10, "dsb:1", []⟩]

/-- The listing of the services of which one lacks replicas. -/
def lackingListing : String :=
  "ID NAME MODE REPLICAS IMAGE\n" ++
  "x1 redis replicated 1/1 redis:6\n" ++
  "x2 posts replicated 1/10 dsb:1\n"

/-- A service that **lacks replicas is counted**: two services are counted where one is ready. -/
theorem underreplicated_counted :
    Tabulates lackingListing Service.headings (lackingServices.map Service.row) ∧
    (lackingServices.countP fun s => s.Ready) = 1 ∧
    (lackingServices.countP fun s => s.running < s.wanted) = 1 ∧
    countMatching lackingListing "1/1" = 2 := by
  have hlisting : Tabulates lackingListing Service.headings (lackingServices.map Service.row) :=
    ⟨[], by decide, by decide +kernel⟩
  refine ⟨hlisting, by decide +kernel, by decide, ?_⟩
  rw [countMatching_services hlisting]
  decide +kernel

end GeoBench.Deployment
