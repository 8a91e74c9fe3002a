import GeoBench.Deployment.Workload
import GeoBench.Proofs.CommandLine.Refusal
import GeoBench.Proofs.Number.Reading
import GeoBench.Proofs.Text.Pieces
import Mathlib.Data.List.Forall2

/-!
# The parameters of a workload on the command line

The four numbers of a workload are read from the arguments behind the name of its command, and are
written again among the arguments of the load generator. Nothing happens to them on the way: what
the load generator is told is what was asked for, in whatever order and spelling, and the usual
number where none was. A number that does not fit the width of its option is refused as a number.

## Conventions

A number is written in ASCII digits, with any number of zeros in front. The options of a workload
may stand anywhere among those that say how to run, so the arguments are given by what is left when
the four options are taken out of them.

## From the words to the words

The statement begins with words on the command line and ends with words of a call, and the numbers
in between are hidden in a record. It therefore goes through three layers: what the arguments spell,
which settings they come to, and where the settings are put in the call. `Carries` states the last
one for a word behind an option of the load generator.

That different numbers give different calls follows, since the numerals in the call can be read
back.

## Main results

* `Asks.exists_given` — what the arguments with parameters of a workload give.
* `parameters_carried` — the numbers that are asked for reach the load generator, or are refused.
-/

namespace GeoBench.CommandLine

open GeoBench.Machine GeoBench.Deployment GeoBench.Number
open scoped GeoBench.Text.Characters

/-! ### Numbers -/

/-- A text is a **decimal** of a number: ASCII digits, perhaps with zeros in front. -/
structure Decimal (text : String) (n : Nat) : Prop where
  ne_nil : text.toList ≠ []
  digits : ∀ c ∈ text.toList, c.isDigit
  value : Nat.ofDigitChars 10 text.toList 0 = n

/-- A number is written as a decimal. -/
theorem decimal_toString (n : Nat) : Decimal (toString n) n := by
  have htext : (toString n).toList = Nat.toDigits 10 n := Nat.toList_repr
  constructor
  · rw [htext]
    exact Nat.toDigits_ne_nil
  · rw [htext]
    exact isDigit_toDigits n
  · rw [htext, Nat.ofDigitChars_toDigits (by decide) (by decide)]

/-- Numbers that are written alike are the same. -/
theorem eq_of_toString_eq {m n : Nat} (h : toString m = toString n) : m = n := by
  rw [← (decimal_toString m).value, h, (decimal_toString n).value]

/-- What begins with something else than a digit is no decimal. -/
theorem Decimal.ne_of_head {text other : String} {n : Nat} (h : Decimal text n) {c : Char}
    (hc : c.isDigit = false) (hother : other.toList.head? = some c) : text ≠ other := by
  rintro rfl
  obtain ⟨rest, htext⟩ := List.head?_eq_some_iff.mp hother
  exact ne_sign_of_digits h.digits hc rest htext

/-- A decimal looks neither like an option nor like the mark. -/
theorem Decimal.shape {text : String} {n : Nat} (h : Decimal text n) :
    Shape.of text = .other := by
  have hdash := ne_sign_of_digits h.digits (show '-'.isDigit = false from rfl)
  rw [Shape.of]
  split
  next htext => exact absurd htext (hdash _)
  next htext => exact absurd htext (hdash _)
  next htext => exact absurd htext (hdash _)
  next => rfl

/-- How many numbers an option of a workload tells apart. -/
def Key.bound (k : Key) : Nat :=
  match k.valueKind with
  | .word32 => twoTo 32
  | _ => twoTo 64

/-- **What a decimal comes to** for an option of a workload: its number if that fits the width of
the option. -/
theorem Decimal.readValue_eq {text : String} {n : Nat} (h : Decimal text n) {k : Key}
    (hk : k ∈ commandKeys .workload) :
    readValue k.valueKind text =
      if n < k.bound then .ok (.number n) else .error .badNumber := by
  have hwide : readValue .word64 text =
      if n < twoTo 64 then .ok (.number n) else .error .badNumber := by
    rw [readValue, readUnsigned_of_digits h.ne_nil h.digits, h.value]
    by_cases hn : n < twoTo 64
    · rw [if_pos hn, if_pos hn]
    · rw [if_neg hn, if_neg hn]
  have hnarrow : readValue .word32 text =
      if n < twoTo 32 then .ok (.number n) else .error .badNumber := by
    rw [readValue, readSigned_of_digits h.ne_nil h.digits, h.value]
    by_cases hsigned : n < twoTo (64 - 1)
    · rw [if_pos hsigned]
    · have hwide : ¬ n < twoTo 32 := fun hn => hsigned (hn.trans (by decide))
      rw [if_neg hsigned, if_neg hwide]
  have hkeys : commandKeys .workload = [.threads, .connections, .duration, .rate] := rfl
  rw [hkeys] at hk
  simp only [List.mem_cons, List.not_mem_nil, or_false] at hk
  rcases hk with rfl | rfl | rfl | rfl
  · exact hnarrow
  · exact hnarrow
  · exact hwide
  · exact hwide

/-! ### Options

A parameter is written in one of five ways, and each of them gives its option with the text of the
number and nothing more, wherever it stands. -/

/-- The arguments that **write** a parameter of a workload, with the text of its number. -/
inductive WrittenParameter (k : Key) (text : String) : List String → Prop
  | apart {name : String} (hname : (name, k) ∈ commandLong .workload) :
      WrittenParameter k text ["--" ++ name, text]
  | attached {name : String} (hname : (name, k) ∈ commandLong .workload) :
      WrittenParameter k text ["--" ++ name ++ "=" ++ text]
  | short {c : Char} (hname : (c, k) ∈ commandShort .workload) :
      WrittenParameter k text [String.ofList ['-', c], text]
  | joined {c : Char} (hname : (c, k) ∈ commandShort .workload) :
      WrittenParameter k text [String.ofList ('-' :: c :: text.toList)]
  | joinedEquals {c : Char} (hname : (c, k) ∈ commandShort .workload) :
      WrittenParameter k text [String.ofList ('-' :: c :: '=' :: text.toList)]

/-- Arguments **ask** for numbers of a workload. What is left of them without these options are
options that say how to run. -/
inductive Asks : List String → List (Key × Nat) → List String → Prop
  | nil : Asks [] [] []
  | parameter {k : Key} {text : String} {n : Nat} {tokens behind others : List String}
      {chosen : List (Key × Nat)} (written : WrittenParameter k text tokens)
      (decimal : Decimal text n) (h : Asks behind chosen others) :
      Asks (tokens ++ behind) ((k, n) :: chosen) others
  | shared {k : Key} {value? : Option String} {tokens behind others : List String}
      {chosen : List (Key × Nat)} (written : Written k value? tokens)
      (h : Asks behind chosen others) : Asks (tokens ++ behind) chosen (tokens ++ others)

/-- The names of the parameters are plain and known behind the name of the command. -/
theorem workloadLong_known : ∀ e ∈ commandLong .workload,
    (Names.of (some .workload)).long.lookup e.1 = some e.2 ∧ '=' ∉ e.1.toList ∧
      e.1.toList ≠ [] ∧ e.2.takesValue = true ∧ e.2 ∈ commandKeys .workload := by
  decide

/-- Each letter of the options of a workload stands for one key of its own, which takes a value. -/
theorem workloadShort_known : ∀ e ∈ commandShort .workload,
    (Names.of (some .workload)).short.lookup e.1 = some e.2 ∧ e.1 ≠ '-' ∧
      e.2.takesValue = true ∧ e.2 ∈ commandKeys .workload := by
  decide

/-- What a decimal behind a short option gives, with an equals sign before it or without. -/
theorem attachedValue_decimal {text : String} {n : Nat} (h : Decimal text n) :
    String.ofList (attachedValue text.toList) = text ∧
      String.ofList (attachedValue ('=' :: text.toList)) = text := by
  refine ⟨?_, String.ofList_toList⟩
  rw [attachedValue.eq_2 _ (ne_sign_of_digits h.digits rfl), String.ofList_toList]

section

variable {k : Key} {text : String} {n : Nat} {tokens : List String}

/-- Only the four options of a workload are written so. -/
theorem WrittenParameter.mem_commandKeys (h : WrittenParameter k text tokens) :
    k ∈ commandKeys .workload := by
  cases h with
  | apart hname | attached hname => exact (workloadLong_known _ hname).2.2.2.2
  | short hname | joined hname | joinedEquals hname => exact (workloadShort_known _ hname).2.2.2

/-- **A parameter by itself**: its arguments give it and nothing more. -/
theorem WrittenParameter.spells (h : WrittenParameter k text tokens) (hdecimal : Decimal text n) :
    Spells (Names.of (some .workload)) .free tokens [(k, some text)] .free := by
  cases h with
  | @apart name hname =>
      obtain ⟨hknown, hplain, hne, htakes, -⟩ := workloadLong_known _ hname
      exact .opens (.long (shape_long hne)
        (.apart hplain (by rw [String.ofList_toList, hknown]) htakes)) (.value hdecimal.shape .nil)
  | @attached name hname =>
      obtain ⟨hknown, hplain, -, htakes, -⟩ := workloadLong_known _ hname
      have hopens := Opens.long (shape_long_attached name text)
        (.attached hplain (by rw [String.ofList_toList, hknown]) htakes)
      rw [String.ofList_toList] at hopens
      exact .opens hopens .nil
  | @short c hname =>
      obtain ⟨hknown, hdash, htakes, -⟩ := workloadShort_known _ hname
      exact .opens (.short (shape_short hdash []) (.apart hknown htakes))
        (.value hdecimal.shape .nil)
  | @joined c hname =>
      obtain ⟨hknown, hdash, htakes, -⟩ := workloadShort_known _ hname
      have hopens := Opens.short (shape_short hdash _) (.attached hknown htakes hdecimal.ne_nil)
      rw [(attachedValue_decimal hdecimal).1] at hopens
      exact .opens hopens .nil
  | @joinedEquals c hname =>
      obtain ⟨hknown, hdash, htakes, -⟩ := workloadShort_known _ hname
      have hopens := Opens.short (shape_short hdash ('=' :: text.toList))
        (.attached hknown htakes (List.cons_ne_nil _ _))
      rw [(attachedValue_decimal hdecimal).2] at hopens
      exact .opens hopens .nil

end

/-- An option is given **for** a number of a workload. -/
structure GivenFor (g : Given) (e : Key × Nat) : Prop where
  key : g.1 = e.1
  mem : e.1 ∈ commandKeys .workload
  decimal : ∃ text, g.2 = some text ∧ Decimal text e.2

/-- What is given for numbers of a workload **joins** what is given otherwise. -/
structure Joins (texts : List Given) (chosen : List (Key × Nat)) (old given : List Given) :
    Prop where
  perm : given.Perm (texts ++ old)
  givenFor : List.Forall₂ GivenFor texts chosen
  shared : ∀ g ∈ old, g.1 ∈ sharedLong.map Prod.snd

/-- **What arguments that ask for numbers give**: these numbers, and what the others give by
themselves. The induction is on the arguments. -/
theorem Asks.exists_given {behind others : List String} {chosen : List (Key × Nat)}
    (h : Asks behind chosen others) {old : List Given} {st : Standing}
    (hothers : Spells (Names.of (some .workload)) .free others old st) :
    ∃ texts given, Joins texts chosen old given ∧
      Spells (Names.of (some .workload)) .free behind given st := by
  induction h generalizing old with
  | nil =>
      cases hothers
      exact ⟨[], [], ⟨.nil, .nil, by simp⟩, .nil⟩
  | @parameter k text n _ _ _ _ written decimal _ ih =>
      obtain ⟨texts, given, hjoins, hgiven⟩ := ih hothers
      have hfor : GivenFor (k, some text) (k, n) :=
        ⟨rfl, written.mem_commandKeys, text, rfl, decimal⟩
      exact ⟨(k, some text) :: texts, (k, some text) :: given,
        ⟨hjoins.perm.cons _, .cons hfor hjoins.givenFor, hjoins.shared⟩,
        Spells.append_iff.mpr ⟨_, given, .free, rfl, written.spells decimal, hgiven⟩⟩
  | @shared k value? _ _ _ _ written _ ih =>
      obtain ⟨_, old, _, rfl, htokens, hrest⟩ := Spells.append_iff.mp hothers
      obtain ⟨-, rfl, rfl, hanywhere⟩ := written.spells htokens
      obtain ⟨texts, given, hjoins, hgiven⟩ := ih hrest
      exact ⟨texts, (k, value?) :: given,
        ⟨(hjoins.perm.cons _).trans List.perm_middle.symm, hjoins.givenFor,
          List.forall_mem_cons.mpr ⟨written.mem_sharedKeys, hjoins.shared⟩⟩,
        Spells.append_iff.mpr ⟨_, given, .free, rfl, hanywhere _, hgiven⟩⟩

/-! ### Settings

What is asked for and what is left are settled side by side, since they have no option in common. A
number that does not fit is the only thing that can go wrong with the first of them. -/

section

variable {g : Given} {e : Key × Nat}

/-- What is given for a number is set to it if it fits the width of the option. -/
theorem GivenFor.setting?_eq (h : GivenFor g e) :
    g.setting? = if e.2 < e.1.bound then some (.number e.2) else none := by
  obtain ⟨k, value?⟩ := g
  obtain ⟨rfl, hmem, text, rfl, hdecimal⟩ := h
  simp only [Given.setting?, Option.isNone_some, Bool.and_false, Bool.false_eq_true, if_false,
    Option.getD_some, hdecimal.readValue_eq hmem]
  split <;> rfl

/-- What is given for a number is set, or it is no number of that width. -/
theorem GivenFor.fits_or_bad (h : GivenFor g e) : (∃ x, g.setting? = some x) ∨
    ∃ text, g.2 = some text ∧ readValue g.1.valueKind text = .error .badNumber := by
  by_cases hfits : e.2 < e.1.bound
  · exact .inl ⟨_, h.setting?_eq.trans (if_pos hfits)⟩
  · obtain ⟨hkey, hmem, text, htext, hdecimal⟩ := h
    exact .inr ⟨text, htext, by rw [hkey, hdecimal.readValue_eq hmem, if_neg hfits]⟩

end

section

variable {texts old given : List Given} {chosen : List (Key × Nat)} {k : Key}

/-- The options that were given have the keys that were chosen, in the same order. -/
theorem keys_eq_of_givenFor (h : List.Forall₂ GivenFor texts chosen) :
    texts.map Prod.fst = chosen.map Prod.fst := by
  induction h with
  | nil => rfl
  | cons hfor _ ih => rw [List.map_cons, List.map_cons, hfor.key, ih]

/-- What an option is set to is told by the number that is asked for. -/
theorem lookup_of_givenFor (h : List.Forall₂ GivenFor texts chosen)
    (hfits : ∀ e ∈ chosen, e.2 < e.1.bound) (k : Key) :
    ((texts.lookup k).bind fun value? => Given.setting? (k, value?)) =
      (chosen.lookup k).map .number := by
  induction h with
  | nil => rfl
  | @cons g e _ _ hfor _ ih =>
      obtain ⟨j, value?⟩ := g
      obtain ⟨j', n⟩ := e
      obtain rfl : j = j' := hfor.key
      obtain ⟨hn, hfits⟩ := List.forall_mem_cons.mp hfits
      rw [List.lookup_cons, List.lookup_cons]
      by_cases hk : k = j
      · subst hk
        simpa using hfor.setting?_eq.trans (if_pos hn)
      · simpa [beq_false_of_ne hk] using ih hfits

/-- For each option of a workload a number is asked for. -/
theorem Joins.exists_chosen (h : Joins texts chosen old given) {g : Given} (hg : g ∈ texts) :
    ∃ e ∈ chosen, GivenFor g e := by
  obtain ⟨i, hi, rfl⟩ := List.getElem_of_mem hg
  have hlength := h.givenFor.length_eq
  exact ⟨chosen[i], List.getElem_mem _, h.givenFor.get hi (hlength ▸ hi)⟩

/-- Each number that is asked for is given. -/
theorem Joins.exists_given (h : Joins texts chosen old given) {e : Key × Nat} (he : e ∈ chosen) :
    ∃ g ∈ given, GivenFor g e := by
  obtain ⟨i, hi, rfl⟩ := List.getElem_of_mem he
  have hlength := h.givenFor.length_eq
  have hmem : texts[i] ∈ texts := List.getElem_mem _
  exact ⟨texts[i], h.perm.mem_iff.mpr (List.mem_append_left _ hmem),
    h.givenFor.get (hlength ▸ hi) hi⟩

/-- The options of a workload are none of the others. -/
theorem Joins.notMem_of_shared (h : Joins texts chosen old given)
    (hk : k ∈ sharedLong.map Prod.snd) : k ∉ texts.map Prod.fst := by
  rintro hmem
  obtain ⟨g, hg, rfl⟩ := List.mem_map.mp hmem
  obtain ⟨e, -, hfor⟩ := h.exists_chosen hg
  exact sharedKeys_disjoint .workload _ (hfor.key ▸ hfor.mem) hk

/-- No option is given twice if none of the numbers is asked for twice. -/
theorem Joins.nodup (h : Joins texts chosen old given) (honce : (chosen.map Prod.fst).Nodup)
    (hold : (old.map Prod.fst).Nodup) : (given.map Prod.fst).Nodup := by
  rw [(h.perm.map Prod.fst).nodup_iff, List.map_append, List.nodup_append]
  refine ⟨keys_eq_of_givenFor h.givenFor ▸ honce, hold, ?_⟩
  rintro j hj _ hj' rfl
  obtain ⟨g, hg, rfl⟩ := List.mem_map.mp hj'
  exact h.notMem_of_shared (h.shared g hg) hj

/-- The other options are found as by themselves. -/
theorem Joins.lookup_shared (h : Joins texts chosen old given)
    (hnodup : (given.map Prod.fst).Nodup) (hk : k ∈ sharedLong.map Prod.snd) :
    given.lookup k = old.lookup k := by
  rw [lookup_eq_of_perm h.perm hnodup, List.lookup_append,
    lookup_eq_none_iff_notMem.mpr (h.notMem_of_shared hk), Option.none_or]

/-- The options of a workload are found as by themselves. -/
theorem Joins.lookup_command (h : Joins texts chosen old given)
    (hnodup : (given.map Prod.fst).Nodup) (hk : k ∈ commandKeys .workload) :
    given.lookup k = texts.lookup k := by
  have hnone : k ∉ old.map Prod.fst := by
    intro hmem
    obtain ⟨g, hg, rfl⟩ := List.mem_map.mp hmem
    exact sharedKeys_disjoint .workload _ hk (h.shared g hg)
  rw [lookup_eq_of_perm h.perm hnodup, List.lookup_append,
    lookup_eq_none_iff_notMem.mpr hnone, Option.or_none]

/-- Which of the options that are given come to a setting. -/
theorem Joins.fits_or_bad (h : Joins texts chosen old given)
    (hold : ∀ g ∈ old, ∃ x, Given.setting? g = some x) : ∀ g ∈ given,
      (∃ x, Given.setting? g = some x) ∨
        ∃ text, g.2 = some text ∧ readValue g.1.valueKind text = .error .badNumber := by
  intro g hg
  rcases List.mem_append.mp (h.perm.mem_iff.mp hg) with hg | hg
  · obtain ⟨e, -, hfor⟩ := h.exists_chosen hg
    exact hfor.fits_or_bad
  · exact .inl (hold g hg)

/-- All options come to settings if the numbers fit. -/
theorem Joins.fits (h : Joins texts chosen old given)
    (hold : ∀ g ∈ old, ∃ x, Given.setting? g = some x) (hfits : ∀ e ∈ chosen, e.2 < e.1.bound) :
    ∀ g ∈ given, ∃ x, Given.setting? g = some x := by
  intro g hg
  rcases List.mem_append.mp (h.perm.mem_iff.mp hg) with hg | hg
  · obtain ⟨e, he, hfor⟩ := h.exists_chosen hg
    exact ⟨_, hfor.setting?_eq.trans (if_pos (hfits e he))⟩
  · exact hold g hg

end

/-- The **parameters** of a workload with numbers for some of them. -/
def parametersOf (chosen : List (Key × Nat)) : WorkloadParameters where
  threads := (chosen.lookup .threads).getD 2
  connections := (chosen.lookup .connections).getD 2
  duration := (chosen.lookup .duration).getD 30
  rate := (chosen.lookup .rate).getD 50

/-- A workload is told by the numbers that its options are set to. -/
theorem commandOf_workload {settings : List (Key × Setting)} {chosen : List (Key × Nat)}
    (h : ∀ k ∈ commandKeys .workload, settings.lookup k = (chosen.lookup k).map .number) :
    commandOf .workload settings = .workload (parametersOf chosen) := by
  have hnumber : ∀ k ∈ commandKeys .workload, ∀ usual,
      numberOf settings k usual = (chosen.lookup k).getD usual := by
    intro k hk usual
    rw [numberOf, h k hk]
    cases chosen.lookup k <;> rfl
  simp only [commandOf, parametersOf]
  rw [hnumber .threads (by decide), hnumber .connections (by decide),
    hnumber .duration (by decide), hnumber .rate (by decide)]

/-! ### The load generator

The words of the call are found behind their options, each of which stands there once. No number
looks like an option, so no word is found in the wrong place. -/

/-- The word **behind** another one. -/
def wordBehind? (option : String) : List String → Option String
  | word :: value :: rest =>
    if word = option then some value else wordBehind? option (value :: rest)
  | _ => none

/-- A call of the load generator **carries** the parameters of a workload and the address that it
runs on. -/
structure Carries (i : Invocation) (url : String) (p : WorkloadParameters) : Prop where
  threads : wordBehind? "-t" i.arguments = some (toString p.threads)
  connections : wordBehind? "-c" i.arguments = some (toString p.connections)
  duration : wordBehind? "-d" i.arguments = some (toString p.duration)
  rate : wordBehind? "-R" i.arguments = some (toString p.rate)
  request : wordBehind? composeScript i.arguments = some (url ++ composePath)
  europe : i.environment.lookup "HOST_EU" = some url
  america : i.environment.lookup "HOST_US" = some url

/-- What stands behind a word is found if the word does not stand before. -/
theorem wordBehind?_append {option value : String} {before : List String} (h : option ∉ before)
    (rest : List String) :
    wordBehind? option (before ++ option :: value :: rest) = some value := by
  induction before with
  | nil => simp [wordBehind?]
  | cons word before ih =>
      obtain ⟨hword, hbefore⟩ := not_or.mp (mt List.mem_cons.mpr h)
      have hskip : wordBehind? option (word :: (before ++ option :: value :: rest)) =
          wordBehind? option (before ++ option :: value :: rest) := by
        cases before <;> simp [wordBehind?, Ne.symm hword]
      exact hskip.trans (ih hbefore)

/-- No number is taken for an option, nor for the script. -/
theorem option_ne_repr (n : Nat) :
    "-c" ≠ n.repr ∧ "-d" ≠ n.repr ∧ composeScript ≠ n.repr ∧ "-R" ≠ n.repr := by
  have hdash : ∀ {option : String}, option.toList.head? = some '-' → option ≠ n.repr :=
    fun hhead => ((decimal_toString n).ne_of_head rfl hhead).symm
  have hpoint : composeScript ≠ n.repr :=
    ((decimal_toString n).ne_of_head (show '.'.isDigit = false from rfl) rfl).symm
  exact ⟨hdash rfl, hdash rfl, hpoint, hdash rfl⟩

/-- No request is taken for an option. -/
theorem option_ne_request (url : String) : "-R" ≠ url ++ composePath := by
  intro h
  have hlength := congrArg String.length h
  rw [String.length_append] at hlength
  have hpath : composePath.length = 22 := by decide
  have hoption : "-R".length = 2 := by decide
  omega

/-- **The call of the load generator** carries what it is made for. -/
theorem generator_carries (c : Config) (url : String) (p : WorkloadParameters) :
    Carries (generator c url p) url p := by
  have hthreads := option_ne_repr p.threads
  have hconnections := option_ne_repr p.connections
  have hduration := option_ne_repr p.duration
  have hrequest := option_ne_request url
  have hrate : "-R" ≠ composeScript := by decide
  have hscript : composeScript ∉ ["-D", "exp", "-t", "-c", "-d", "-L", "-s"] := by decide
  constructor
  · exact @wordBehind?_append _ _ ["-D", "exp"] (by decide) _
  · exact @wordBehind?_append _ _ ["-D", "exp", "-t", toString p.threads] (by simp [hthreads]) _
  · exact @wordBehind?_append _ _
      ["-D", "exp", "-t", toString p.threads, "-c", toString p.connections]
      (by simp [hthreads, hconnections]) _
  · exact @wordBehind?_append _ _
      ["-D", "exp", "-t", toString p.threads, "-c", toString p.connections, "-d",
        toString p.duration, "-L", "-s", composeScript, url ++ composePath]
      (by simp [hthreads, hconnections, hduration, hrequest, hrate]) _
  · exact @wordBehind?_append _ _
      ["-D", "exp", "-t", toString p.threads, "-c", toString p.connections, "-d",
        toString p.duration, "-L", "-s"]
      (by simpa [hthreads, hconnections, hduration] using hscript) _
  · rfl
  · rfl

/-- **The arguments of the load generator tell the parameters apart.** -/
theorem generator_arguments_inj {c c' : Config} {url url' : String} {p q : WorkloadParameters}
    (h : (generator c url p).arguments = (generator c' url' q).arguments) : p = q := by
  simp only [generator, List.cons.injEq, true_and] at h
  obtain ⟨hthreads, hconnections, hduration, -, hrate, -⟩ := h
  obtain ⟨threads, connections, duration, rate⟩ := p
  obtain ⟨threads', connections', duration', rate'⟩ := q
  rw [WorkloadParameters.mk.injEq]
  exact ⟨eq_of_toString_eq hthreads, eq_of_toString_eq hconnections, eq_of_toString_eq hduration,
    eq_of_toString_eq hrate⟩

/-! ### From the command line to the load generator -/

section

variable {before others behind : List String} {chosen : List (Key × Nat)} {a : Arguments}

/-- **The numbers that fit are read**, and nothing else of the command line changes. -/
theorem Asks.read_eq_ok (h : Asks behind chosen others) (hbefore : Free none before)
    (honce : (chosen.map Prod.fst).Nodup)
    (hothers : read (before ++ "wrk2" :: others) = .ok a)
    (hfits : ∀ e ∈ chosen, e.2 < e.1.bound) :
    read (before ++ "wrk2" :: behind) = .ok ⟨.workload (parametersOf chosen), a.options⟩ := by
  have hcut : Cut (before ++ "wrk2" :: others) before .workload others := ⟨rfl, hbefore⟩
  obtain ⟨outer, old, outerSettings, oldSettings, hspelled, rfl⟩ := hcut.exists_spelled hothers
  obtain ⟨st, hold, hwhole⟩ := hspelled.inner_spells
  obtain ⟨texts, given, hjoins, hgiven⟩ := h.exists_given hold
  obtain ⟨holdNodup, holdFits⟩ := exists_settled_iff.mp ⟨_, hspelled.inner_settled⟩
  have hnodup := hjoins.nodup honce holdNodup
  obtain ⟨settings, hsettled⟩ := exists_settled_iff.mpr ⟨hnodup, hjoins.fits holdFits hfits⟩
  have hspelled' : Spelled before .workload behind outer given outerSettings settings :=
    ⟨hspelled.outer_spells, ⟨st, hgiven, hwhole⟩, hspelled.outer_settled, hsettled⟩
  have hread : read (before ++ "wrk2" :: behind) = .ok (comesTo .workload settings outerSettings) :=
    hspelled'.read_eq_ok
  have hcommand : commandOf .workload settings = .workload (parametersOf chosen) :=
    commandOf_workload fun k hk => by
      rw [hsettled.lookup, hjoins.lookup_command hnodup hk,
        lookup_of_givenFor hjoins.givenFor hfits]
  have hoptions : Options.of (settings ++ outerSettings) =
      Options.of (oldSettings ++ outerSettings) :=
    Options.of_congr fun k hk => by
      rw [List.lookup_append, List.lookup_append, hsettled.lookup, hspelled.inner_settled.lookup,
        hjoins.lookup_shared hnodup hk]
  rw [hread, comesTo, hcommand, hoptions]
  rfl

/-- **A number that does not fit is refused**, as a number. -/
theorem Asks.read_eq_error (h : Asks behind chosen others) (hbefore : Free none before)
    (honce : (chosen.map Prod.fst).Nodup)
    (hothers : read (before ++ "wrk2" :: others) = .ok a)
    (hunfit : ∃ e ∈ chosen, e.1.bound ≤ e.2) :
    read (before ++ "wrk2" :: behind) = .error .badNumber := by
  have hcut : Cut (before ++ "wrk2" :: others) before .workload others := ⟨rfl, hbefore⟩
  obtain ⟨outer, old, outerSettings, oldSettings, hspelled, rfl⟩ := hcut.exists_spelled hothers
  obtain ⟨st, hold, hwhole⟩ := hspelled.inner_spells
  obtain ⟨texts, given, hjoins, hgiven⟩ := h.exists_given hold
  obtain ⟨holdNodup, holdFits⟩ := exists_settled_iff.mp ⟨_, hspelled.inner_settled⟩
  obtain ⟨e, he, hbound⟩ := hunfit
  obtain ⟨g, hg, hfor⟩ := hjoins.exists_given he
  have hnone : g.setting? = none := hfor.setting?_eq.trans (if_neg (Nat.not_lt.mpr hbound))
  have hrefused : Refused given .badNumber :=
    .of_unfit (hjoins.nodup honce holdNodup) (hjoins.fits_or_bad holdFits) ⟨g, hg, hnone⟩
  exact @CommandLine.read_eq_error _ _ .workload _ _ _ hbefore hgiven hwhole hrefused

end

/-- **The numbers of a workload reach the load generator unchanged**, for all numbers that are
written among the arguments behind the name of the command, in each of the spellings and in any
order: if the command line is followed without them, it is followed with them and changes only in
these numbers, each of which is the one that was asked for or the usual one. The load generator is
told the decimal texts of exactly these numbers, and one address for the request and for both
regions; other numbers make other arguments. A number too large for its option is refused. -/
theorem parameters_carried {before others behind : List String} {chosen : List (Key × Nat)}
    {a : Arguments} (hbefore : Free none before) (h : Asks behind chosen others)
    (honce : (chosen.map Prod.fst).Nodup) (hothers : read (before ++ "wrk2" :: others) = .ok a) :
    ((∀ e ∈ chosen, e.2 < e.1.bound) →
      ∃ command, read (before ++ "wrk2" :: behind) = .ok ⟨command, a.options⟩ ∧
        command = .workload (parametersOf chosen) ∧
        ∀ c url, Carries (generator c url command.parameters) url (parametersOf chosen)) ∧
    ((∃ e ∈ chosen, e.1.bound ≤ e.2) →
      read (before ++ "wrk2" :: behind) = .error .badNumber) ∧
    ∀ c c' url url' p q,
      (generator c url p).arguments = (generator c' url' q).arguments → p = q := by
  refine ⟨fun hfits => ?_, h.read_eq_error hbefore honce hothers,
    fun _ _ _ _ _ _ => generator_arguments_inj⟩
  exact ⟨_, h.read_eq_ok hbefore honce hothers hfits, rfl,
    fun c url => generator_carries c url (parametersOf chosen)⟩

/-- Three numbers in three spellings, with the target among them and zeros in front of one, and a
number of threads that is one too large. -/
theorem parameters_carried_spellings :
    (∃ command, read ["wrk2", "-r=200", "--threads", "4294967295", "--gcp", "-c08"] =
        .ok ⟨command, { cloudTarget := true }⟩ ∧
      command = .workload ⟨4294967295, 8, 30, 200⟩ ∧
      ∀ c url, Carries (generator c url command.parameters) url ⟨4294967295, 8, 30, 200⟩) ∧
    read ["wrk2", "--threads=4294967296"] = .error .badNumber := by
  have hflag : Key.IsFlag .cloudTarget := ⟨rfl, by decide, by decide⟩
  have hasks : Asks ["-r=200", "--threads", "4294967295", "--gcp", "-c08"]
      [(.rate, 200), (.threads, 4294967295), (.connections, 8)] ["--gcp"] :=
    .parameter (@WrittenParameter.joinedEquals .rate "200" 'r' (by decide))
      ⟨by decide, by decide, by decide⟩ <|
    .parameter (@WrittenParameter.apart .threads "4294967295" "threads" (by decide))
      ⟨by decide, by decide, by decide⟩ <|
    .shared (@Written.long "gcp" .cloudTarget (by decide) hflag) <|
    .parameter (@WrittenParameter.joined .connections "08" 'c' (by decide))
      ⟨by decide, by decide, by decide⟩ .nil
  have hlarge : Asks ["--threads=4294967296"] [(.threads, 4294967296)] [] :=
    .parameter (@WrittenParameter.attached .threads "4294967296" "threads" (by decide))
      ⟨by decide, by decide, by decide⟩ .nil
  exact ⟨(@parameters_carried [] _ _ _ _ (free_nil none) hasks (by decide) rfl).1 (by decide),
    (@parameters_carried [] _ _ _ _ (free_nil none) hlarge (by decide) rfl).2.1 (by decide)⟩

end GeoBench.CommandLine
