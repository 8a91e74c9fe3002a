import GeoBench.Deployment.Context
import GeoBench.Deployment.Inventory
import GeoBench.Proofs.Machine.Session
import GeoBench.Proofs.Text.Columns
import GeoBench.Proofs.Text.Pieces

/-!
# The machines of an inventory

An inventory is read line by line. A line in brackets opens a group; of every other line that is not
blank, the first column is the name of a machine, and the others say something of it, a key and a
value with an equals sign between them. The addresses come from lookups, each of which finds the
first line of an answer that is not blank.

## What can be read back

A reader of inventories is written beside the writer and takes any text apart: groups in brackets,
machines by their names, facts with or without quotes. It knows nothing of the machines of a
deployment. An inventory is read back if its addresses and its user have no characters that the
format gives a meaning to (`Plain`), and then different addresses or users make different
inventories.

## Addresses

An answer of a lookup may have blank lines in front and blanks around the address. Which line is
taken, and that there is an answer without one, is told for every text and for every character that
counts as blank.

## Main results

* `addLine_machineLine` — the line of a machine is read back.
* `readInventory_render` — the whole inventory is read back.
* `firstLine?_eq_some_iff`, `firstLine?_eq_none_iff` — which line of an answer is found, and when
  none is.
* `inventory_told` — what the inventory says of the machines, and what their addresses are.
-/

namespace GeoBench.Deployment

open GeoBench.Machine GeoBench.Text GeoBench.Cloud
open scoped GeoBench.Text.Characters

namespace Inventory

/-! ### The reader -/

/-- A **machine** as an inventory describes it: its name, and what is said of it. -/
structure Machine where
  name : String
  facts : List (String × String)
  deriving DecidableEq

/-- A **group** of machines. -/
structure Group where
  name : String
  machines : List Machine
  deriving DecidableEq

/-- A value without the quotes around it. -/
def unquote (value : List Char) : String :=
  match value with
  | '"' :: cs => String.ofList (if cs.getLast? = some '"' then cs.dropLast else value)
  | _ => String.ofList value

/-- What a column says of a machine: a key, and the value behind the first equals sign. -/
def readFact (column : String) : Option (String × String) :=
  match column.toList.dropWhile (· != '=') with
  | _ :: value => some (String.ofList (column.toList.takeWhile (· != '=')), unquote value)
  | [] => none

/-- The name of the group that a line opens. -/
def heading? (line : String) : Option String :=
  match line.toList with
  | '[' :: cs => if cs.getLast? = some ']' then some (String.ofList cs.dropLast) else none
  | _ => none

/-- A line in front of the machines and the groups that were read behind it. -/
def addLine (line : String) (behind : List Machine × List Group) :
    Option (List Machine × List Group) :=
  match heading? line with
  | some name => some ([], ⟨name, behind.1⟩ :: behind.2)
  | none =>
    match columns line with
    | [] => some behind
    | name :: words =>
      (words.mapM readFact).map fun facts => (⟨name, facts⟩ :: behind.1, behind.2)

/-- Lines: the machines that are in no group, and the groups. -/
def readLines : List String → Option (List Machine × List Group)
  | [] => some ([], [])
  | line :: others => (readLines others).bind (addLine line)

/-- The **groups** of an inventory, if every machine is in one. -/
def readInventory (text : String) : Option (List Group) :=
  match readLines (lines text) with
  | some ([], groups) => some groups
  | _ => none

/-! ### What an inventory says -/

/-- A text is **plain** if it can be the value of a key: it is not empty and holds neither a blank
nor a quote. It may hold an equals sign, since only the first one of a column ends the key. -/
structure Plain (text : String) : Prop where
  ne_nil : text.toList ≠ []
  chars : ∀ c ∈ text.toList, isBlank c = false ∧ c ≠ '"'

/-- The addresses are all plain. -/
structure PlainHosts (h : Hosts) : Prop where
  storeManager : Plain h.storeManager
  storeEurope : Plain h.storeEurope
  storeAmerica : Plain h.storeAmerica
  appWorkload : Plain h.appWorkload
  appEurope : Plain h.appEurope
  appAmerica : Plain h.appAmerica

/-- A machine with its address and the user that it is reached as. -/
def reached (name host user : String) (more : List (String × String)) : Machine :=
  ⟨name, ("ansible_host", host) :: ("user", user) :: more⟩

/-- The four **groups** with the six machines; of the two that run the application it is also said
where they are and on which port. -/
def groupsOf (h : Hosts) (user : String) : List Group :=
  [⟨"swarm_manager", [reached "weaver-dsb-db-manager" h.storeManager user []]⟩,
   ⟨"swarm_workers",
    [reached "weaver-dsb-db-eu" h.storeEurope user [],
     reached "weaver-dsb-db-us" h.storeAmerica user []]⟩,
   ⟨"app_wrk2", [reached "weaver-dsb-app-wrk2" h.appWorkload user []]⟩,
   ⟨"app_services",
    [reached "weaver-dsb-app-eu" h.appEurope user [("region", "eu"), ("app_port", "9000")],
     reached "weaver-dsb-app-us" h.appAmerica user [("region", "us"), ("app_port", "9001")]]⟩]

/-- The groups tell the addresses and the user. -/
theorem groupsOf_injective {h h' : Hosts} {user user' : String}
    (heq : groupsOf h user = groupsOf h' user') : h = h' ∧ user = user' := by
  cases h
  cases h'
  simp only [groupsOf, reached, List.cons.injEq, Group.mk.injEq, Machine.mk.injEq,
    Prod.mk.injEq] at heq
  simp only [Hosts.mk.injEq]
  tauto

/-! ### Reading it back -/

/-- A plain value has no quotes around it. -/
theorem unquote_of_plain {value : String} (h : Plain value) : unquote value.toList = value := by
  rw [unquote.eq_def]
  split
  next cs heq => exact absurd rfl (h.chars '"' (heq ▸ List.mem_cons_self)).2
  next => exact String.ofList_toList

/-- A key and its plain value are read back. -/
theorem readFact_append {key value : String} (hkey : '=' ∉ key.toList) (hvalue : Plain value) :
    readFact (key ++ "=" ++ value) = some (key, value) := by
  have hword : ∀ c ∈ key.toList, (c != '=') = true := fun c hc =>
    bne_iff_ne.mpr fun heq => hkey (heq ▸ hc)
  have hshape : (key ++ "=" ++ value).toList = key.toList ++ '=' :: value.toList := by
    simp [String.toList_append]
  rw [readFact, hshape, List.dropWhile_append_of_pos hword, List.takeWhile_append_of_pos hword,
    List.dropWhile_cons_of_neg (by simp), List.takeWhile_cons_of_neg (by simp)]
  simp only [List.append_nil, String.ofList_toList, unquote_of_plain hvalue]

/-- A key and its plain value, with a blank in front, are one column. -/
theorem columns_fact {key value more : String} (hkey : ∀ c ∈ key.toList, isBlank c = false)
    (hvalue : Plain value) (hmore : ∀ c ∈ more.toList.head?, isBlank c = true) :
    columns (" " ++ (key ++ value ++ more)) = (key ++ value) :: columns more := by
  have hblank : ∀ c ∈ " ".toList, isBlank c = true := by decide
  have hne : (key ++ value).toList ≠ [] := by
    rw [String.toList_append]
    exact List.append_ne_nil_of_right_ne_nil _ hvalue.ne_nil
  have hword : ∀ c ∈ (key ++ value).toList, isBlank c = false := by
    intro c hc
    rw [String.toList_append] at hc
    exact (List.mem_append.mp hc).elim (hkey c) fun hc => (hvalue.chars c hc).1
  rw [columns_append_of_blank hblank, columns_append hne hword hmore]

/-- The columns of the line of a machine: its name without what it is padded with, and what is said
of it. -/
theorem columns_machineLine {name blanks host user more : String} (hne : name.toList ≠ [])
    (hname : ∀ c ∈ name.toList, isBlank c = false) (hblanks : ∀ c ∈ blanks.toList, isBlank c = true)
    (hhost : Plain host) (huser : Plain user) (hmore : ∀ c ∈ more.toList.head?, isBlank c = true) :
    columns (machineLine (name ++ blanks) host user more) =
      name :: ("ansible_host=" ++ host) :: ("user=" ++ user) :: columns more := by
  have hspace : ∀ rest : String, ∀ c ∈ (" " ++ rest).toList.head?, isBlank c = true := by
    intro rest c hc
    rw [String.toList_append] at hc
    cases hc
    rfl
  have hpadding : ∀ rest : String, ∀ c ∈ (blanks ++ (" " ++ rest)).toList.head?,
      isBlank c = true := by
    intro rest c hc
    rw [String.toList_append, List.head?_append, Option.mem_def, Option.or_eq_some_iff] at hc
    rcases hc with hc | ⟨-, hc⟩
    · exact hblanks c (List.mem_of_head? hc)
    · exact hspace rest c hc
  have hline : machineLine (name ++ blanks) host user more =
      name ++ (blanks ++ (" " ++
        ("ansible_host=" ++ host ++ (" " ++ ("user=" ++ user ++ more))))) := by
    rw [← String.toList_inj]
    simp [machineLine, String.toList_append]
  rw [hline, columns_append hne hname (hpadding _), columns_append_of_blank hblanks,
    columns_fact (by decide) hhost (hspace _), columns_fact (by decide) huser hmore]

/-- How the line of a machine is **laid out**: its name is one column that is padded with blanks,
and behind the address and the user some facts follow. -/
def LaidOut (padded name blanks more : String) (facts : List (String × String)) : Prop :=
  padded = name ++ blanks ∧ name.toList ≠ [] ∧
    (∀ c ∈ name.toList, isBlank c = false ∧ c ≠ '[') ∧ (∀ c ∈ blanks.toList, isBlank c = true) ∧
    (∀ c ∈ more.toList.head?, isBlank c = true) ∧ (columns more).mapM readFact = some facts

instance (padded name blanks more : String) (facts : List (String × String)) :
    Decidable (LaidOut padded name blanks more facts) :=
  inferInstanceAs (Decidable (_ ∧ _))

/-- **The line of a machine** is read back, in front of the machines behind it. -/
theorem addLine_machineLine {padded name blanks host user more : String}
    {facts : List (String × String)} (hlaid : LaidOut padded name blanks more facts)
    (hhost : Plain host) (huser : Plain user) (machines : List Machine) (groups : List Group) :
    addLine (machineLine padded host user more) (machines, groups) =
      some (reached name host user facts :: machines, groups) := by
  obtain ⟨rfl, hne, hname, hblanks, hmore, hfacts⟩ := hlaid
  have hheading : heading? (machineLine (name ++ blanks) host user more) = none := by
    obtain ⟨c, cs, hcs⟩ := List.exists_cons_of_ne_nil hne
    have hfirst : ∀ rest, (machineLine (name ++ blanks) host user more).toList ≠ '[' :: rest := by
      intro rest heq
      simp only [machineLine, String.toList_append, hcs, List.cons_append, List.cons.injEq] at heq
      exact (hname c (hcs ▸ List.mem_cons_self)).2 heq.1
    rw [heading?.eq_def]
    split
    next rest heq => exact absurd heq (hfirst rest)
    next => rfl
  have hhostFact : readFact ("ansible_host=" ++ host) = some ("ansible_host", host) :=
    @readFact_append "ansible_host" _ (by decide) hhost
  have huserFact : readFact ("user=" ++ user) = some ("user", user) :=
    @readFact_append "user" _ (by decide) huser
  rw [addLine, hheading,
    columns_machineLine hne (fun c hc => (hname c hc).1) hblanks hhost huser hmore]
  simp [hhostFact, huserFact, hfacts, reached]

/-- A line in brackets opens a group with the machines behind it. -/
theorem addLine_heading {line name : String} (h : heading? line = some name)
    (behind : List Machine × List Group) :
    addLine line behind = some ([], ⟨name, behind.1⟩ :: behind.2) := by
  rw [addLine, h]

/-- An empty line says nothing. -/
theorem addLine_empty (behind : List Machine × List Group) : addLine "" behind = some behind :=
  rfl

/-- No line of an inventory holds a line feed or a carriage return. -/
theorem ends_notMem_inventoryLines {h : Hosts} {user : String} (hhosts : PlainHosts h)
    (huser : Plain user) : ∀ l ∈ inventoryLines h user, ∀ c ∈ l.toList, c ≠ '\n' ∧ c ≠ '\r' := by
  have hplain : ∀ {text : String}, Plain text → ∀ c ∈ text.toList, c ≠ '\n' ∧ c ≠ '\r' := by
    intro text htext c hc
    constructor <;> rintro rfl <;> cases (htext.chars _ hc).1
  have hmachine : ∀ {name host more : String}, Plain host →
      (∀ c ∈ name.toList, c ≠ '\n' ∧ c ≠ '\r') → (∀ c ∈ more.toList, c ≠ '\n' ∧ c ≠ '\r') →
      ∀ c ∈ (machineLine name host user more).toList, c ≠ '\n' ∧ c ≠ '\r' := by
    intro name host more hhost hname hmore c hc
    simp only [machineLine, String.toList_append, List.mem_append, or_assoc] at hc
    rcases hc with hc | hc | hc | hc | hc | hc
    · exact hname c hc
    · exact (by decide : ∀ c ∈ " ansible_host=".toList, c ≠ '\n' ∧ c ≠ '\r') c hc
    · exact hplain hhost c hc
    · exact (by decide : ∀ c ∈ " user=".toList, c ≠ '\n' ∧ c ≠ '\r') c hc
    · exact hplain huser c hc
    · exact hmore c hc
  simp only [inventoryLines, List.forall_mem_cons]
  refine ⟨by decide, hmachine hhosts.storeManager (by decide) (by decide), by decide, by decide,
    hmachine hhosts.storeEurope (by decide) (by decide),
    hmachine hhosts.storeAmerica (by decide) (by decide), by decide, by decide,
    hmachine hhosts.appWorkload (by decide) (by decide), by decide, by decide,
    hmachine hhosts.appEurope (by decide) (by decide),
    hmachine hhosts.appAmerica (by decide) (by decide), by simp⟩

/-- **The inventory is read back**: the groups with the machines, and nothing else. -/
theorem readInventory_render {h : Hosts} {user : String} (hhosts : PlainHosts h)
    (huser : Plain user) : readInventory (renderInventory h user) = some (groupsOf h user) := by
  have hlines : lines (renderInventory h user) = inventoryLines h user :=
    lines_join (ends_notMem_inventoryLines hhosts huser)
  have hstoreManager := addLine_machineLine
    (show LaidOut "weaver-dsb-db-manager" "weaver-dsb-db-manager" "" "" [] by decide)
    hhosts.storeManager huser
  have hstoreEurope := addLine_machineLine
    (show LaidOut "weaver-dsb-db-eu     " "weaver-dsb-db-eu" "     " "" [] by decide)
    hhosts.storeEurope huser
  have hstoreAmerica := addLine_machineLine
    (show LaidOut "weaver-dsb-db-us     " "weaver-dsb-db-us" "     " "" [] by decide)
    hhosts.storeAmerica huser
  have hworkload := addLine_machineLine
    (show LaidOut "weaver-dsb-app-wrk2  " "weaver-dsb-app-wrk2" "  " "" [] by decide)
    hhosts.appWorkload huser
  have happEurope := addLine_machineLine
    (show LaidOut "weaver-dsb-app-eu    " "weaver-dsb-app-eu" "    " (appFacts "eu" portEurope)
      [("region", "eu"), ("app_port", "9000")] by decide)
    hhosts.appEurope huser
  have happAmerica := addLine_machineLine
    (show LaidOut "weaver-dsb-app-us    " "weaver-dsb-app-us" "    " (appFacts "us" portAmerica)
      [("region", "us"), ("app_port", "9001")] by decide)
    hhosts.appAmerica huser
  have hread : readLines (inventoryLines h user) = some ([], groupsOf h user) := by
    simp only [inventoryLines, readLines, Option.bind_some, happAmerica, happEurope, hworkload,
      hstoreAmerica, hstoreEurope, hstoreManager, addLine_empty,
      @addLine_heading "[swarm_manager]" _ rfl, @addLine_heading "[swarm_workers]" _ rfl,
      @addLine_heading "[app_wrk2]" _ rfl, @addLine_heading "[app_services]" _ rfl]
    rfl
  rw [readInventory, hlines, hread]

end Inventory

/-! ### Addresses -/

/-- A text is **blank** if it holds nothing but blanks. -/
def IsBlankText (text : String) : Prop :=
  ∀ c ∈ text.toList, isBlank c = true

instance (text : String) : Decidable (IsBlankText text) :=
  inferInstanceAs (Decidable (∀ c ∈ text.toList, isBlank c = true))

/-- Trimming leaves nothing of a blank text, and of no other. -/
theorem trim_eq_empty_iff {text : String} : trim text = "" ↔ IsBlankText text := by
  rw [trim, String.ofList_eq_empty_iff, trimChars_nil_iff, IsBlankText]

/-- What is left by trimming was there before. -/
theorem mem_of_mem_trim {text : String} {c : Char} (h : c ∈ (trim text).toList) :
    c ∈ text.toList := by
  rw [trim, String.toList_ofList, trimChars, List.mem_reverse] at h
  exact (List.dropWhile_sublist isBlank).subset
    (List.mem_reverse.mp ((List.dropWhile_sublist isBlank).subset h))

namespace Context

/-- **The line that is found** in an answer is the first one that is not blank, and is trimmed. -/
theorem firstLine?_eq_some_iff {answer host : String} :
    firstLine? answer = some host ↔ ∃ before line after, lines answer = before ++ line :: after ∧
      (∀ l ∈ before, IsBlankText l) ∧ ¬ IsBlankText line ∧ host = trim line := by
  rw [firstLine?, List.find?_map, Option.map_eq_some_iff]
  simp only [List.find?_eq_some_iff_append, Function.comp_apply, decide_not, Bool.not_not,
    Bool.not_eq_true', decide_eq_false_iff_not, decide_eq_true_eq, trim_eq_empty_iff]
  constructor
  · rintro ⟨line, ⟨hline, before, after, hlines, hbefore⟩, rfl⟩
    exact ⟨before, line, after, hlines, hbefore, hline, rfl⟩
  · rintro ⟨before, line, after, hlines, hbefore, hline, rfl⟩
    exact ⟨line, ⟨hline, before, after, hlines, hbefore⟩, rfl⟩

/-- **No line is found** exactly if the whole answer is blank. -/
theorem firstLine?_eq_none_iff {answer : String} :
    firstLine? answer = none ↔ IsBlankText answer := by
  have hlines : (∀ line ∈ lines answer, IsBlankText line) ↔ IsBlankText answer := by
    rw [IsBlankText, ← forall_mem_charLines_iff (q := fun c => isBlank c = true) rfl rfl]
    simp [lines, IsBlankText]
  rw [← hlines, firstLine?, List.find?_eq_none]
  simp [trim_eq_empty_iff]

/-- A line that is found is not empty, and is one line. -/
theorem usable_of_firstLine? {answer host : String} (h : firstLine? answer = some host) :
    host ≠ "" ∧ '\n' ∉ host.toList := by
  obtain ⟨before, line, after, hlines, -, hline, rfl⟩ := firstLine?_eq_some_iff.mp h
  refine ⟨fun hempty => hline (trim_eq_empty_iff.mp hempty), fun hfeed => ?_⟩
  have hmem : line ∈ lines answer := by
    rw [hlines]
    simp
  obtain ⟨cs, hcs, rfl⟩ := List.mem_map.mp hmem
  have hfeed := mem_of_mem_trim hfeed
  rw [String.toList_ofList] at hfeed
  exact newline_notMem_of_mem_charLines hcs hfeed

variable {σ : Type} (ctx : Context σ)

/-- What a lookup gives, by the answer to its call. -/
theorem run_publicHost (p : Profile) (i : Instance) (w : World σ) :
    ((ctx.publicHost p i).run w).1 =
      match (Session.exchangeOf ctx.runner .output (describeCall p i) w).reply with
      | .error e => .error (.call e)
      | .ok answer =>
        match firstLine? answer with
        | some host => .ok host
        | none => .error (.config (.noAddress i.name)) := by
  rw [publicHost, Session.run_bind, output, Session.run_withFault, Session.run_perform]
  cases (Session.exchangeOf ctx.runner .output (describeCall p i) w).reply with
  | error e => rfl
  | ok answer =>
      simp only [Except.mapError]
      cases firstLine? answer <;> rfl

end Context

/-- What a lookup **tells**, by the answer to its call. -/
structure AddressTold (machine : String) (reply : Except CallFault String)
    (result : Except CommandFault String) : Prop where
  /-- The address is the first line of the answer that is not blank, trimmed. -/
  host_iff : ∀ host, result = .ok host ↔ ∃ answer before line after, reply = .ok answer ∧
    lines answer = before ++ line :: after ∧ (∀ l ∈ before, IsBlankText l) ∧
      ¬ IsBlankText line ∧ host = trim line
  /-- It is not empty, and is one line. -/
  usable : ∀ host, result = .ok host → host ≠ "" ∧ '\n' ∉ host.toList
  /-- There is none exactly if the whole answer is blank. -/
  noAddress_iff : ∀ name, result = .error (.config (.noAddress name)) ↔
    name = machine ∧ ∃ answer, reply = .ok answer ∧ IsBlankText answer
  /-- A call that fails is the failure of the lookup. -/
  call_iff : ∀ e, result = .error (.call e) ↔ reply = .error e

/-- **A lookup** tells the address for every answer. -/
theorem addressTold_publicHost {σ : Type} (ctx : Context σ) (p : Profile) (i : Instance)
    (w : World σ) :
    AddressTold i.name
      (Session.exchangeOf ctx.runner .output (Context.describeCall p i) w).reply
      ((ctx.publicHost p i).run w).1 := by
  rw [ctx.run_publicHost]
  cases (Session.exchangeOf ctx.runner .output (Context.describeCall p i) w).reply with
  | error e => exact ⟨by simp, by simp, by simp, by simp⟩
  | ok answer =>
      dsimp only
      cases hfound : Context.firstLine? answer with
      | none =>
          have hblank := Context.firstLine?_eq_none_iff.mp hfound
          refine ⟨fun host => ⟨by simp, ?_⟩, by simp, by simp [hblank, eq_comm], by simp⟩
          rintro ⟨_, before, line, after, ⟨⟩, hline⟩
          have hsome := Context.firstLine?_eq_some_iff.mpr ⟨before, line, after, hline⟩
          rw [hfound] at hsome
          cases hsome
      | some found =>
          have hblank : ¬ IsBlankText answer := fun hblank => by
            rw [Context.firstLine?_eq_none_iff.mpr hblank] at hfound
            cases hfound
          refine ⟨fun host => ?_, ?_, by simp [hblank], by simp⟩
          · have hhost := @Context.firstLine?_eq_some_iff answer host
            rw [hfound, Option.some.injEq] at hhost
            simpa using hhost
          · rintro _ ⟨⟩
            exact Context.usable_of_firstLine? hfound

/-- **The inventory tells the machines**: what is read of it are the groups with the six machines,
each with its own address and the user, so that no two of them are written alike; and the addresses
that it is written with are what the lookups found. -/
theorem inventory_told :
    (∀ (h : Hosts) (user : String), Inventory.PlainHosts h → Inventory.Plain user →
      Inventory.readInventory (renderInventory h user) = some (Inventory.groupsOf h user)) ∧
    (∀ (h h' : Hosts) (user user' : String), Inventory.PlainHosts h → Inventory.Plain user →
      Inventory.PlainHosts h' → Inventory.Plain user' →
        renderInventory h user = renderInventory h' user' → h = h' ∧ user = user') ∧
    ∀ (σ : Type) (ctx : Context σ) (p : Profile) (i : Instance) (w : World σ),
      AddressTold i.name
        (Session.exchangeOf ctx.runner .output (Context.describeCall p i) w).reply
        ((ctx.publicHost p i).run w).1 := by
  refine ⟨fun _ _ => Inventory.readInventory_render, ?_, fun _ => addressTold_publicHost⟩
  intro h h' user user' hhosts huser hhosts' huser' heq
  have hread := Inventory.readInventory_render hhosts huser
  rw [heq, Inventory.readInventory_render hhosts' huser', Option.some.injEq] at hread
  obtain ⟨rfl, rfl⟩ := Inventory.groupsOf_injective hread
  exact ⟨rfl, rfl⟩

/-- Six addresses, and the same ones with those of the two regions exchanged. -/
theorem inventory_told_regions :
    let h : Hosts := ⟨"1.1.1.1", "2.2.2.2", "3.3.3.3", "4.4.4.4", "[5::5]", "app-6.us"⟩
    let h' : Hosts := { h with storeEurope := h.storeAmerica, storeAmerica := h.storeEurope }
    Inventory.PlainHosts h ∧ Inventory.PlainHosts h' ∧ Inventory.Plain "bench" ∧
      Inventory.readInventory (renderInventory h "bench") = some (Inventory.groupsOf h "bench") ∧
      renderInventory h "bench" ≠ renderInventory h' "bench" := by
  intro h h'
  obtain ⟨hread, halike, -⟩ := inventory_told
  have huser : Inventory.Plain "bench" := ⟨by decide, by decide⟩
  have hhosts : Inventory.PlainHosts h :=
    ⟨⟨by decide, by decide⟩, ⟨by decide, by decide⟩, ⟨by decide, by decide⟩,
      ⟨by decide, by decide⟩, ⟨by decide, by decide⟩, ⟨by decide, by decide⟩⟩
  have hhosts' : Inventory.PlainHosts h' :=
    { hhosts with storeEurope := hhosts.storeAmerica, storeAmerica := hhosts.storeEurope }
  exact ⟨hhosts, hhosts', huser, hread h _ hhosts huser, fun heq =>
    absurd (halike h h' _ _ hhosts huser hhosts' huser heq).1 (by decide)⟩

end GeoBench.Deployment
