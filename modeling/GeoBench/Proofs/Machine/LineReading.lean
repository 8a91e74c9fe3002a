import GeoBench.Machine.Invocation
import GeoBench.Proofs.Text.Pieces
import Mathlib.Data.List.TakeWhile
import Mathlib.Tactic.Common

/-!
# Reading back the line of an invocation

The line of an invocation is read from the left. A stretch up to a space is an addition to the
environment if there is an equals sign in it, and the program otherwise. Behind the program each
space opens an argument, which reaches to the closing quote if a quote comes first, and to the next
space otherwise; so an argument without any characters is read as such.

## Conditions

The line of an invocation is made to be read by people and not all lines can be read back. A program
without an equals sign or a blank, names of variables without an equals sign and values without a
blank are supposed, and arguments without a single quote (`Invocation.Plain`). Blanks inside of
arguments, and arguments without any characters, make no difference: these are put in quotes.

## Main results

* `readArguments_join` — the arguments are read back.
* `readLine_line` — the whole line is read back, but for the directory, which is not on it.
-/

namespace GeoBench.Machine

open GeoBench.Text
open scoped GeoBench.Text.Characters

/-! ### The reader -/

/-- An argument behind its space, and what follows it. -/
def readArgument : List Char → List Char × List Char
  | '\'' :: cs => (cs.takeWhile (· != '\''), (cs.dropWhile (· != '\'')).tail)
  | cs => (cs.takeWhile (· != ' '), cs.dropWhile (· != ' '))

/-- An argument takes nothing from behind the line. -/
theorem length_readArgument_le (cs : List Char) : (readArgument cs).2.length ≤ cs.length := by
  rw [readArgument.eq_def]
  split
  · next cs =>
      have hdrop := (List.dropWhile_suffix (l := cs) (· != '\'')).length_le
      rw [List.length_tail, List.length_cons]
      omega
  · exact (List.dropWhile_suffix _).length_le

/-- The arguments behind the program, each behind its space. -/
def readArguments : List Char → List String
  | [] => []
  | _ :: cs =>
    String.ofList (readArgument cs).1 :: readArguments (readArgument cs).2
termination_by cs => cs.length
decreasing_by
  have := length_readArgument_le cs
  rw [List.length_cons]
  omega

/-- A stretch with an equals sign in it is not empty, so it takes something from the line. -/
theorem length_behind_lt {cs : List Char} (h : '=' ∈ cs.takeWhile (· != ' ')) :
    (cs.dropWhile (· != ' ')).tail.length < cs.length := by
  have hword := List.length_pos_of_mem h
  have hsplit := congrArg List.length (List.takeWhile_append_dropWhile (p := (· != ' ')) (l := cs))
  rw [List.length_append] at hsplit
  rw [List.length_tail]
  omega

/-- The invocation on a line, in no directory. -/
def readFrom (cs : List Char) : Invocation :=
  let word := cs.takeWhile (· != ' ')
  let rest := cs.dropWhile (· != ' ')
  if '=' ∈ word then
    let value := (word.dropWhile (· != '=')).tail
    let others := readFrom rest.tail
    { others with
      environment :=
        (String.ofList (word.takeWhile (· != '=')), String.ofList value) :: others.environment }
  else { program := String.ofList word, arguments := readArguments rest }
termination_by cs.length
decreasing_by exact length_behind_lt (by assumption)

/-- The **invocation** that a line shows. -/
def readLine (line : String) : Invocation :=
  readFrom line.toList

/-! ### Stretches -/

section

variable {p : Char → Bool} {word rest : List Char}

/-- A stretch reaches to the first character that stops it. -/
theorem takeWhile_append_stop (hword : ∀ c ∈ word, p c = true)
    (hrest : ∀ c ∈ rest.head?, p c = false) : (word ++ rest).takeWhile p = word := by
  rw [List.takeWhile_append_of_pos hword]
  cases rest with
  | nil => exact List.append_nil word
  | cons c cs =>
      rw [List.takeWhile_cons_of_neg (by simp [hrest c rfl]), List.append_nil]

/-- Behind a word the rest begins where the word stops. -/
theorem dropWhile_append_stop (hword : ∀ c ∈ word, p c = true)
    (hrest : ∀ c ∈ rest.head?, p c = false) : (word ++ rest).dropWhile p = rest := by
  rw [List.dropWhile_append_of_pos hword]
  cases rest with
  | nil => rfl
  | cons c cs => rw [List.dropWhile_cons_of_neg (by simp [hrest c rfl])]

end

/-- What holds no blank holds no space. -/
theorem bne_space_of_not_isBlank {cs : List Char} (h : ∀ c ∈ cs, isBlank c = false) :
    ∀ c ∈ cs, (c != ' ') = true := by
  intro c hc
  rw [bne_iff_ne]
  rintro rfl
  cases h ' ' hc

/-! ### What can be read back -/

/-- An invocation is **plain** if its parts hold none of the characters that separate them: no blank
in the environment and the program, no equals sign in a key and in the program, and no quote in an
argument. -/
structure Invocation.Plain (i : Invocation) : Prop where
  keys : ∀ e ∈ i.environment, ∀ c ∈ e.1.toList, isBlank c = false ∧ c ≠ '='
  values : ∀ e ∈ i.environment, ∀ c ∈ e.2.toList, isBlank c = false
  program : ∀ c ∈ i.program.toList, isBlank c = false ∧ c ≠ '='
  arguments : ∀ a ∈ i.arguments, '\'' ∉ a.toList

/-- **An argument** is read back, whether it is between quotes or not. -/
theorem readArgument_render {argument : String} (h : '\'' ∉ argument.toList) {rest : List Char}
    (hrest : ∀ c ∈ rest.head?, c = ' ') :
    readArgument ((Invocation.renderArgument argument).toList ++ rest) =
      (argument.toList, rest) := by
  rw [Invocation.renderArgument]
  split
  next hblank =>
    have hquote : ∀ c ∈ argument.toList, (c != '\'') = true := fun c hc =>
      bne_iff_ne.mpr fun heq => h (heq ▸ hc)
    have hshape : ("'" ++ argument ++ "'").toList ++ rest =
        '\'' :: (argument.toList ++ '\'' :: rest) := by
      simp [String.toList_append]
    rw [hshape, readArgument, takeWhile_append_stop hquote (by simp),
      dropWhile_append_stop hquote (by simp), List.tail_cons]
  next hblank =>
    have hplain : ∀ c ∈ argument.toList, isBlank c = false := by simpa using hblank
    have hspace := bne_space_of_not_isBlank hplain
    have hstop : ∀ c ∈ rest.head?, (c != ' ') = false := fun c hc => by simp [hrest c hc]
    have hfirst : ∀ cs, argument.toList ++ rest ≠ '\'' :: cs := by
      intro cs heq
      cases hargument : argument.toList with
      | nil =>
          rw [hargument, List.nil_append] at heq
          cases hrest '\'' (by rw [heq]; rfl)
      | cons c more =>
          rw [hargument] at heq h
          obtain rfl := (List.cons.inj heq).1
          exact h List.mem_cons_self
    rw [readArgument.eq_2 _ hfirst, takeWhile_append_stop hspace hstop,
      dropWhile_append_stop hspace hstop]

/-- What is rendered behind the program is empty or begins with a space. -/
theorem head?_join_arguments (arguments : List String) :
    ∀ c ∈ (String.join (arguments.map fun a =>
      " " ++ Invocation.renderArgument a)).toList.head?, c = ' ' := by
  cases arguments with
  | nil => simp
  | cons argument others => simp [String.toList_append]

/-- **The arguments** are read back. The induction is on the arguments. -/
theorem readArguments_join {arguments : List String} (h : ∀ a ∈ arguments, '\'' ∉ a.toList) :
    readArguments (String.join (arguments.map fun a =>
      " " ++ Invocation.renderArgument a)).toList = arguments := by
  induction arguments with
  | nil => simp [readArguments]
  | cons argument others ih =>
      obtain ⟨hargument, hothers⟩ := List.forall_mem_cons.mp h
      have hshape : (String.join ((argument :: others).map fun a =>
          " " ++ Invocation.renderArgument a)).toList =
          ' ' :: ((Invocation.renderArgument argument).toList ++
            (String.join (others.map fun a => " " ++ Invocation.renderArgument a)).toList) := by
        simp [String.toList_append]
      rw [hshape, readArguments, readArgument_render hargument (head?_join_arguments others),
        ih hothers, String.ofList_toList]

/-- The program and the arguments are read back, where no addition to the environment comes
first. -/
theorem readFrom_program {i : Invocation} (h : i.Plain) :
    readFrom (i.program ++ String.join (i.arguments.map fun a =>
      " " ++ Invocation.renderArgument a)).toList =
      { program := i.program, arguments := i.arguments } := by
  have hspace := bne_space_of_not_isBlank fun c hc => (h.program c hc).1
  have hstop : ∀ c ∈ (String.join (i.arguments.map fun a =>
      " " ++ Invocation.renderArgument a)).toList.head?, (c != ' ') = false := fun c hc => by
    simp [head?_join_arguments i.arguments c hc]
  have hequals : '=' ∉ i.program.toList := fun hmem => (h.program _ hmem).2 rfl
  rw [String.toList_append, readFrom, takeWhile_append_stop hspace hstop,
    dropWhile_append_stop hspace hstop, if_neg hequals, String.ofList_toList,
    readArguments_join h.arguments]

/-- An addition to the environment is read in front of what follows it. -/
theorem readFrom_addition {key value : String} {rest : List Char}
    (hkey : ∀ c ∈ key.toList, isBlank c = false ∧ c ≠ '=')
    (hvalue : ∀ c ∈ value.toList, isBlank c = false) :
    readFrom ((key ++ "=" ++ value ++ " ").toList ++ rest) =
      { readFrom rest with environment := (key, value) :: (readFrom rest).environment } := by
  have hword : ∀ c ∈ key.toList ++ '=' :: value.toList, (c != ' ') = true := by
    refine bne_space_of_not_isBlank fun c hc => ?_
    rcases List.mem_append.mp hc with hc | hc
    · exact (hkey c hc).1
    · rcases List.mem_cons.mp hc with rfl | hc
      · rfl
      · exact hvalue c hc
  have hequals : ∀ c ∈ key.toList, (c != '=') = true := fun c hc =>
    bne_iff_ne.mpr (hkey c hc).2
  have hshape : (key ++ "=" ++ value ++ " ").toList ++ rest =
      (key.toList ++ '=' :: value.toList) ++ ' ' :: rest := by
    simp [String.toList_append]
  rw [hshape, readFrom, takeWhile_append_stop hword (by simp),
    dropWhile_append_stop hword (by simp), if_pos (by simp),
    takeWhile_append_stop hequals (by simp), dropWhile_append_stop hequals (by simp)]
  simp only [List.tail_cons, String.ofList_toList]

/-- An addition to the environment stands in front of the line. -/
theorem Invocation.line_addition (i : Invocation) (key value : String)
    (others : List (String × String)) :
    { i with environment := (key, value) :: others }.line =
      key ++ "=" ++ value ++ " " ++ { i with environment := others }.line := by
  rw [← String.toList_inj]
  simp [line, String.toList_append]

/-- **A line is read back**: the environment, the program and the arguments. The induction is on the
environment. -/
theorem readLine_line {i : Invocation} (h : i.Plain) :
    readLine i.line = { i with directory? := none } := by
  obtain ⟨program, arguments, environment, directory?⟩ := i
  induction environment with
  | nil =>
      have hline : (Invocation.mk program arguments [] directory?).line =
          program ++ String.join (arguments.map fun a => " " ++ Invocation.renderArgument a) := by
        simp [Invocation.line]
      rw [hline]
      exact readFrom_program h
  | cons addition others ih =>
      obtain ⟨hkey, hkeys⟩ := List.forall_mem_cons.mp h.keys
      obtain ⟨hvalue, hvalues⟩ := List.forall_mem_cons.mp h.values
      have hothers := ih ⟨hkeys, hvalues, h.program, h.arguments⟩
      rw [readLine] at hothers ⊢
      rw [Invocation.line_addition ⟨program, arguments, others, directory?⟩, String.toList_append,
        readFrom_addition hkey hvalue, hothers]

/-- **A line can be read back.** What is read of the line of a plain invocation is that invocation,
but for the directory; so two plain invocations have one line exactly if they differ in nothing but
the directory. -/
theorem line_read_back {i : Invocation} (h : i.Plain) :
    readLine i.line = { i with directory? := none } ∧
    ∀ j : Invocation, j.Plain →
      (i.line = j.line ↔
        i.environment = j.environment ∧ i.program = j.program ∧ i.arguments = j.arguments) := by
  refine ⟨readLine_line h, fun j hj => ⟨fun hline => ?_, ?_⟩⟩
  · have hread : { i with directory? := none } = { j with directory? := none } := by
      rw [← readLine_line h, ← readLine_line hj, hline]
    obtain ⟨hprogram, harguments, henvironment, -⟩ := Invocation.mk.inj hread
    exact ⟨henvironment, hprogram, harguments⟩
  · rintro ⟨henvironment, hprogram, harguments⟩
    simp only [Invocation.line, henvironment, hprogram, harguments]

/-- A line with empty arguments, an argument that looks like an addition to the environment, one
with blanks of several kinds, and an equals sign in a value. The order of the arguments is seen on
it. -/
theorem line_read_back_gate :
    let i : Invocation := {
      program := "gcloud"
      arguments := ["", "A=b", "sudo docker\n\u2003node ls", "", "--x=\"1\""]
      environment := [("HOST", "http://h?a=b"), ("", "")]
      directory? := some ⟨"/srv"⟩ }
    let j : Invocation := { i with arguments := ["A=b", "", "sudo docker\n\u2003node ls", ""] }
    i.Plain ∧ j.Plain ∧ readLine i.line = { i with directory? := none } ∧ i.line ≠ j.line := by
  intro i j
  have h : i.Plain := ⟨by decide, by decide, by decide, by decide⟩
  have hj : j.Plain := ⟨by decide, by decide, by decide, by decide⟩
  obtain ⟨hread, hlines⟩ := line_read_back h
  exact ⟨h, hj, hread, fun hline => absurd ((hlines j hj).mp hline).2.2 (by decide)⟩

end GeoBench.Machine
