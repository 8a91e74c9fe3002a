import GeoBench.Proofs.CommandLine.Settings
import Mathlib.Data.List.TakeWhile

/-!
# The grammar of a scope

The arguments of a scope spell options. They are read from the left, and between two arguments a
scope is free for another option, or awaits the value of the last one, or is closed by the mark
behind which nothing follows. With a standing for each of these states, this is a grammar of
arguments: it says which options are given, and leaves to the settings whether they are acceptable.

## Options and arguments

One argument may give several options, as letters that stand together do, and one option may take
two arguments. So what an argument **opens** is a list of options, and perhaps one more that awaits
its value. Reading is unique: neither an argument nor a list of arguments spells two different
things, which is what allows to speak of **the** options that were given.

## Main results

* `Opens.unique` — an argument has one reading.
* `Spells.append_iff` — what is spelled by one stretch of arguments behind another.
* `Spells.unique` — arguments spell one thing.
-/

namespace GeoBench.CommandLine

/-! ### Options -/

/-- A **flag**: an option without a value that asks for something else than help. -/
def Key.IsFlag (k : Key) : Prop :=
  k.takesValue = false ∧ k ≠ .help ∧ k ≠ .version

/-- An option that takes a value is no flag. -/
theorem Key.IsFlag.ne_of_takes {k j : Key} (h : k.IsFlag) (htakes : j.takesValue = true) :
    some k ≠ some j := by
  rintro ⟨⟩
  rw [h.1] at htakes
  cases htakes

/-- A **long option**, by the characters behind its dashes: what it gives, and the option that
awaits its value behind it. -/
inductive LongOption (names : Names) : List Char → List Given → Option Key → Prop
  | flag {cs : List Char} {k : Key} (plain : '=' ∉ cs)
      (known : names.long.lookup (String.ofList cs) = some k) (hflag : k.IsFlag) :
      LongOption names cs [(k, none)] none
  | attached {name value : List Char} {k : Key} (plain : '=' ∉ name)
      (known : names.long.lookup (String.ofList name) = some k) (htakes : k.takesValue = true) :
      LongOption names (name ++ '=' :: value) [(k, some (String.ofList value))] none
  | apart {cs : List Char} {k : Key} (plain : '=' ∉ cs)
      (known : names.long.lookup (String.ofList cs) = some k) (htakes : k.takesValue = true) :
      LongOption names cs [] (some k)

/-- The value that is attached to a short option, behind an equals sign or not. -/
def attachedValue : List Char → List Char
  | '=' :: value => value
  | value => value

/-- **Short options** behind one dash. -/
inductive ShortOptions (names : Names) : List Char → List Given → Option Key → Prop
  | nil : ShortOptions names [] [] none
  | flag {c : Char} {cs : List Char} {k : Key} {given : List Given} {awaited? : Option Key}
      (known : names.short.lookup c = some k) (hflag : k.IsFlag)
      (others : ShortOptions names cs given awaited?) :
      ShortOptions names (c :: cs) ((k, none) :: given) awaited?
  | attached {c : Char} {cs : List Char} {k : Key} (known : names.short.lookup c = some k)
      (htakes : k.takesValue = true) (hne : cs ≠ []) :
      ShortOptions names (c :: cs) [(k, some (String.ofList (attachedValue cs)))] none
  | apart {c : Char} {k : Key} (known : names.short.lookup c = some k)
      (htakes : k.takesValue = true) : ShortOptions names [c] [] (some k)

/-- An argument **opens** options: what it gives, and the option that awaits its value. -/
inductive Opens (names : Names) (argument : String) : List Given → Option Key → Prop
  | long {cs : List Char} {given : List Given} {awaited? : Option Key}
      (shape : Shape.of argument = .long cs) (h : LongOption names cs given awaited?) :
      Opens names argument given awaited?
  | short {cs : List Char} {given : List Given} {awaited? : Option Key}
      (shape : Shape.of argument = .short cs) (h : ShortOptions names cs given awaited?) :
      Opens names argument given awaited?

/-- What the characters of a name are like for the search of an equals sign. -/
theorem bne_equals_of_notMem {cs : List Char} (h : '=' ∉ cs) : ∀ c ∈ cs, (c != '=') = true := by
  intro c hc
  rw [bne_iff_ne]
  rintro rfl
  exact h hc

/-- The name of an attached option ends at the first equals sign. -/
theorem takeWhile_equals {name value : List Char} (h : '=' ∉ name) :
    (name ++ '=' :: value).takeWhile (· != '=') = name := by
  rw [List.takeWhile_append_of_pos (bne_equals_of_notMem h), List.takeWhile_cons_of_neg (by simp),
    List.append_nil]

/-- The rest begins with that sign. -/
theorem dropWhile_equals {name value : List Char} (h : '=' ∉ name) :
    (name ++ '=' :: value).dropWhile (· != '=') = '=' :: value := by
  rw [List.dropWhile_append_of_pos (bne_equals_of_notMem h), List.dropWhile_cons_of_neg (by simp)]

/-- A name ends at the first equals sign. -/
theorem append_equals_inj {name name' value value' : List Char} (h : '=' ∉ name) (h' : '=' ∉ name')
    (heq : name ++ '=' :: value = name' ++ '=' :: value') : name = name' ∧ value = value' := by
  have hname := congrArg (List.takeWhile (· != '=')) heq
  rw [takeWhile_equals h, takeWhile_equals h'] at hname
  subst hname
  exact ⟨rfl, (List.cons.inj (List.append_cancel_left heq)).2⟩

section

variable {names : Names} {given given' : List Given} {awaited? awaited?' : Option Key}

/-- A long option gives one thing. -/
theorem LongOption.unique {cs cs' : List Char} (h : LongOption names cs given awaited?)
    (h' : LongOption names cs' given' awaited?') (heq : cs = cs') :
    given = given' ∧ awaited? = awaited?' := by
  cases h with
  | flag plain known hflag =>
      cases h' with
      | flag _ known' => subst heq; cases known.symm.trans known'; exact ⟨rfl, rfl⟩
      | attached => subst heq; simp at plain
      | apart _ known' htakes =>
          subst heq
          exact absurd (known.symm.trans known') (hflag.ne_of_takes htakes)
  | attached plain known htakes =>
      cases h' with
      | flag plain' => subst heq; simp at plain'
      | attached plain' known' =>
          obtain ⟨rfl, rfl⟩ := append_equals_inj plain plain' heq
          cases known.symm.trans known'
          exact ⟨rfl, rfl⟩
      | apart plain' => subst heq; simp at plain'
  | apart plain known htakes =>
      cases h' with
      | flag _ known' hflag =>
          subst heq
          exact absurd (known'.symm.trans known) (hflag.ne_of_takes htakes)
      | attached => subst heq; simp at plain
      | apart _ known' => subst heq; cases known.symm.trans known'; exact ⟨rfl, rfl⟩

/-- Short options give one thing. The induction is on the characters. -/
theorem ShortOptions.unique {cs : List Char} (h : ShortOptions names cs given awaited?)
    (h' : ShortOptions names cs given' awaited?') : given = given' ∧ awaited? = awaited?' := by
  induction h generalizing given' with
  | nil => cases h'; exact ⟨rfl, rfl⟩
  | flag known hflag _ ih =>
      cases h' with
      | flag known' _ others =>
          cases known.symm.trans known'
          obtain ⟨rfl, hawaited⟩ := ih others
          exact ⟨rfl, hawaited⟩
      | attached known' htakes | apart known' htakes =>
          exact absurd (known.symm.trans known') (hflag.ne_of_takes htakes)
  | attached known htakes hne =>
      cases h' with
      | flag known' hflag =>
          exact absurd (known'.symm.trans known) (hflag.ne_of_takes htakes)
      | attached known' => cases known.symm.trans known'; exact ⟨rfl, rfl⟩
      | apart => exact absurd rfl hne
  | apart known htakes =>
      cases h' with
      | flag known' hflag =>
          exact absurd (known'.symm.trans known) (hflag.ne_of_takes htakes)
      | attached _ _ hne => exact absurd rfl hne
      | apart known' => cases known.symm.trans known'; exact ⟨rfl, rfl⟩

/-- **An argument opens one thing.** -/
theorem Opens.unique {argument : String} (h : Opens names argument given awaited?)
    (h' : Opens names argument given' awaited?') : given = given' ∧ awaited? = awaited?' := by
  cases h with
  | long shape hlong =>
      cases h' with
      | long shape' hlong' => exact hlong.unique hlong' (Shape.long.inj (shape.symm.trans shape'))
      | short shape' => cases shape.symm.trans shape'
  | short shape hshort =>
      cases h' with
      | long shape' => cases shape.symm.trans shape'
      | short shape' hshort' =>
          cases shape.symm.trans shape'
          exact hshort.unique hshort'

end

/-- An option that awaits its value takes one. -/
theorem Opens.takesValue {names : Names} {argument : String} {given : List Given} {k : Key}
    (h : Opens names argument given (some k)) : k.takesValue = true := by
  cases h with
  | long shape hlong =>
      cases hlong with
      | apart _ _ htakes => exact htakes
  | @short cs _ _ shape hshort =>
      clear shape
      generalize hawaited : some k = awaited? at hshort
      induction hshort with
      | nil => cases hawaited
      | flag _ _ _ ih => exact ih hawaited
      | attached => cases hawaited
      | apart _ htakes => cases hawaited; exact htakes

/-- What opens options looks neither like a name nor like the mark. -/
theorem Opens.shape_ne {names : Names} {argument : String} {given : List Given}
    {awaited? : Option Key} (h : Opens names argument given awaited?) :
    Shape.of argument ≠ .other ∧ Shape.of argument ≠ .mark := by
  cases h with
  | long shape | short shape => simp [shape]

/-! ### Arguments -/

/-- Where a scope **stands** between two arguments. -/
inductive Standing where
  | free
  | awaiting (k : Key)
  | closed
  deriving DecidableEq, Repr

/-- The standing behind an option that may await its value. -/
def Standing.behind : Option Key → Standing
  | none => free
  | some k => awaiting k

/-- Whether every option has its value. -/
def Standing.Whole (st : Standing) : Prop :=
  ∀ k, st ≠ awaiting k

/-- Arguments **spell** options, from one standing of the scope to another. -/
inductive Spells (names : Names) : Standing → List String → List Given → Standing → Prop
  | nil {st : Standing} : Spells names st [] [] st
  | opens {argument : String} {arguments : List String} {new given : List Given}
      {awaited? : Option Key} {st : Standing} (h : Opens names argument new awaited?)
      (others : Spells names (.behind awaited?) arguments given st) :
      Spells names .free (argument :: arguments) (new ++ given) st
  | value {k : Key} {text : String} {arguments : List String} {given : List Given} {st : Standing}
      (shape : Shape.of text = .other) (others : Spells names .free arguments given st) :
      Spells names (.awaiting k) (text :: arguments) ((k, some text) :: given) st
  | mark {argument : String} {arguments : List String} {given : List Given} {st : Standing}
      (shape : Shape.of argument = .mark) (others : Spells names .closed arguments given st) :
      Spells names .free (argument :: arguments) given st

section

variable {names : Names} {st st' : Standing} {given : List Given}

/-- **One stretch behind another** spells the options of both. The induction is on the first
stretch. -/
theorem Spells.append_iff {first second : List String} :
    Spells names st (first ++ second) given st' ↔
      ∃ before behind middle, given = before ++ behind ∧ Spells names st first before middle ∧
        Spells names middle second behind st' := by
  constructor
  · intro h
    induction first generalizing st given with
    | nil => exact ⟨[], given, st, rfl, .nil, h⟩
    | cons argument first ih =>
        cases h with
        | opens hopens others =>
            obtain ⟨before, behind, middle, rfl, hfirst, hsecond⟩ := ih others
            exact ⟨_, behind, middle, (List.append_assoc ..).symm, .opens hopens hfirst, hsecond⟩
        | value shape others =>
            obtain ⟨before, behind, middle, rfl, hfirst, hsecond⟩ := ih others
            exact ⟨_, behind, middle, rfl, .value shape hfirst, hsecond⟩
        | mark shape others =>
            obtain ⟨before, behind, middle, rfl, hfirst, hsecond⟩ := ih others
            exact ⟨before, behind, middle, rfl, .mark shape hfirst, hsecond⟩
  · rintro ⟨before, behind, middle, rfl, hfirst, hsecond⟩
    induction hfirst with
    | nil => exact hsecond
    | opens hopens _ ih =>
        rw [List.append_assoc]
        exact .opens hopens (ih hsecond)
    | value shape _ ih => exact .value shape (ih hsecond)
    | mark shape _ ih => exact .mark shape (ih hsecond)

/-- **Arguments spell one thing.** The induction is on the arguments. -/
theorem Spells.unique {arguments : List String} {given' : List Given} {last last' : Standing}
    (h : Spells names st arguments given last) (h' : Spells names st arguments given' last') :
    given = given' ∧ last = last' := by
  induction h generalizing given' with
  | nil => cases h'; exact ⟨rfl, rfl⟩
  | opens hopens _ ih =>
      cases h' with
      | opens hopens' others =>
          obtain ⟨rfl, rfl⟩ := hopens.unique hopens'
          obtain ⟨rfl, hlast⟩ := ih others
          exact ⟨rfl, hlast⟩
      | mark shape => exact absurd shape hopens.shape_ne.2
  | value _ _ ih =>
      cases h' with
      | value _ others =>
          obtain ⟨rfl, hlast⟩ := ih others
          exact ⟨rfl, hlast⟩
  | mark shape _ ih =>
      cases h' with
      | opens hopens' => exact absurd shape hopens'.shape_ne.2
      | mark _ others => exact ih others

end

end GeoBench.CommandLine
