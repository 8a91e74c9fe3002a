import GeoBench.Proofs.CommandLine.Grammar

/-!
# Command lines that are followed

Reading a scope follows the grammar of its arguments, and reading a command line is to read two
scopes: what is spelled before the name of the command, and what is spelled behind it. A command
line is followed exactly when both are spelled and their options come to settings.

## Conventions

The last option of a scope is set only when the next one comes. A scope therefore keeps more options
than it has set, and what holds of the program is stated by what a scope keeps.

## Two directions

That an argument list that is spelled is read, is shown by following the spelling; that what is read
was spelled, by following the reader from its first argument, where each step that succeeds opens,
continues or closes an option. Together they make reading a command line a matter of the grammar and
of the settings of its options alone, and every later statement about command lines is proved from
the two.

## Settings that come late

What a scope has set and what it was given differ by one option. `Scope.Keeps` relates the two, and
every step lemma is stated by it: an option is acceptable if those before it come to settings, and
the settings of the whole scope are looked at once more at its end.

## Main results

* `exists_readScope_of_spells`, `exists_spells_of_readScope` — reading a scope follows the grammar.
* `Spelled.read_eq_ok`, `exists_spelled_of_read` — which command lines are followed, and what they
  come to.
-/

namespace GeoBench.CommandLine

/-! ### Scopes

What is added to a scope is said for every scope, by what it keeps. Each lemma tells when the
addition succeeds, and what the scope keeps then. -/

/-- A scope **keeps** options: they came to its settings, the last one perhaps not yet. -/
def Scope.Keeps (s : Scope) (given : List Given) : Prop :=
  match s.last? with
  | none => Settled given s.settings
  | some e => ∃ before, given = before ++ [e] ∧ Settled before s.settings

/-- A scope **holds** options in a standing. -/
inductive Scope.Holds (s : Scope) (given : List Given) : Standing → Prop
  | free (hkeeps : s.Keeps given) (hawaiting : s.awaiting = false) (hclosed : s.closed = false) :
      Holds s given .free
  | awaiting {k : Key} (hsettled : Settled given s.settings) (hlast : s.last? = some (k, none))
      (htakes : k.takesValue = true) (hawaiting : s.awaiting = true) (hclosed : s.closed = false) :
      Holds s given (.awaiting k)
  | closed (hkeeps : s.Keeps given) (hclosed : s.closed = true) : Holds s given .closed

namespace Scope

variable {names : Names} {s t : Scope} {given new : List Given} {st : Standing} {k : Key}

/-- A scope at its beginning holds nothing. -/
theorem holds_empty : Holds {} [] .free :=
  .free (settled_nil_iff.mpr rfl) rfl rfl

/-- The last option is settled behind those that were settled before it. -/
theorem Keeps.settleLast_eq_ok_iff (h : s.Keeps given) :
    s.settleLast = .ok t ↔
      ∃ settings, Settled given settings ∧ t = { s with settings, last? := none } := by
  rw [Keeps] at h
  rw [settleLast]
  cases hlast : s.last? with
  | none =>
      rw [hlast] at h
      constructor
      · rintro ⟨⟩
        exact ⟨s.settings, h, by rw [← hlast]⟩
      · rintro ⟨settings, hsettled, rfl⟩
        obtain rfl : s.settings = settings := Except.ok.inj (h.symm.trans hsettled)
        exact congrArg Except.ok (by rw [← hlast])
  | some e =>
      rw [hlast] at h
      obtain ⟨before, rfl, hbefore⟩ := h
      have hone : ∀ settings, Settled (before ++ [e]) settings ↔
          settle s.settings e.1 e.2 = .ok settings := fun settings => by
        rw [settled_concat_iff]
        constructor
        · rintro ⟨_, hbefore', hset⟩
          rwa [Except.ok.inj (hbefore.symm.trans hbefore')]
        · exact fun hset => ⟨_, hbefore, hset⟩
      simp only [hone, bind_eq_ok_iff, pure, Except.pure, Except.ok.injEq]
      exact exists_congr fun settings => and_congr_right fun _ => eq_comm

/-- **The last option is set** if it has its value, and all options come to settings. -/
theorem Holds.settleLast_eq_ok_iff (h : s.Holds given st) :
    s.settleLast = .ok t ↔ st.Whole ∧
      ∃ settings, Settled given settings ∧ t = { s with settings, last? := none } := by
  cases h with
  | free hkeeps => simp [hkeeps.settleLast_eq_ok_iff, Standing.Whole]
  | closed hkeeps => simp [hkeeps.settleLast_eq_ok_iff, Standing.Whole]
  | @awaiting k hsettled hlast htakes =>
      simp [settleLast, hlast, settle, htakes, Standing.Whole, bind, Except.bind]

/-- A scope behind an option that may await its value. -/
def opened (s : Scope) (settings : List (Key × Setting)) (awaited? : Option Key) : Scope :=
  { s with
    settings
    last? := awaited?.map fun k => (k, none)
    awaiting := awaited?.isSome
    used := true }

/-- An option comes with all that it needs, and is set behind the last one. -/
def addWhole (s : Scope) (k : Key) (value? : Option String) : Except Refusal Scope := do
  let s ← s.settleLast
  let settings ← settle s.settings k value?
  return { s with settings, awaiting := false, used := true }

/-- A flag is an option that is whole without a value. -/
theorem addFlag_eq (s : Scope) (h : k.IsFlag) : s.addFlag k = s.addWhole k none := by
  obtain ⟨-, hhelp, hversion⟩ := h
  cases k with
  | help => exact absurd rfl hhelp
  | version => exact absurd rfl hversion
  | _ => rfl

/-- A whole option is taken if what was given before is whole, and settles with it. -/
theorem Holds.addWhole_eq_ok_iff (h : s.Holds given st) {value? : Option String} :
    s.addWhole k value? = .ok t ↔ st.Whole ∧
      ∃ settings, Settled (given ++ [(k, value?)]) settings ∧ t = s.opened settings none := by
  simp only [addWhole, bind_eq_ok_iff, h.settleLast_eq_ok_iff, settled_concat_iff]
  constructor
  · rintro ⟨_, ⟨hwhole, before, hbefore, rfl⟩, settings, hset, ht⟩
    exact ⟨hwhole, settings, ⟨before, hbefore, hset⟩, (Except.ok.inj ht).symm⟩
  · rintro ⟨hwhole, settings, ⟨before, hbefore, hset⟩, rfl⟩
    exact ⟨_, ⟨hwhole, before, hbefore, rfl⟩, settings, hset, rfl⟩

/-- A flag is set as an option that needs nothing more. One that asks for help is never set. -/
theorem Holds.addFlag_eq_ok_iff (h : s.Holds given st) (htakes : k.takesValue = false) :
    s.addFlag k = .ok t ↔ st.Whole ∧ k.IsFlag ∧
      ∃ settings, Settled (given ++ [(k, none)]) settings ∧ t = s.opened settings none := by
  by_cases hflag : k.IsFlag
  · rw [addFlag_eq s hflag, h.addWhole_eq_ok_iff]
    simp only [hflag, true_and]
  · have hasks : k = .help ∨ k = .version := by
      by_contra hother
      exact hflag ⟨htakes, fun hhelp => hother (.inl hhelp), fun hversion => hother (.inr hversion)⟩
    simp only [hflag, false_and, and_false, iff_false, addFlag, bind_eq_ok_iff]
    rcases hasks with rfl | rfl <;> simp

/-- An option that still awaits its value is taken if what was given before is whole and settles. -/
theorem Holds.addAwaiting_eq_ok_iff (h : s.Holds given st) :
    s.addAwaiting k = .ok t ↔ st.Whole ∧
      ∃ settings, Settled given settings ∧ t = s.opened settings (some k) := by
  simp only [addAwaiting, bind_eq_ok_iff, h.settleLast_eq_ok_iff]
  constructor
  · rintro ⟨_, ⟨hwhole, settings, hsettled, rfl⟩, ht⟩
    exact ⟨hwhole, settings, hsettled, (Except.ok.inj ht).symm⟩
  · rintro ⟨hwhole, settings, hsettled, rfl⟩
    exact ⟨_, ⟨hwhole, settings, hsettled, rfl⟩, rfl⟩

/-- A scope holds what an option gave behind what it held. -/
theorem holds_opened {settings : List (Key × Setting)} {awaited? : Option Key}
    (hsettled : Settled given settings) (htakes : ∀ k, awaited? = some k → k.takesValue = true)
    (hclosed : s.closed = false) :
    (s.opened settings awaited?).Holds given (.behind awaited?) := by
  cases awaited? with
  | none => exact .free hsettled rfl hclosed
  | some k => exact .awaiting hsettled rfl (htakes k rfl) rfl hclosed

/-- The awaited value comes. -/
theorem Holds.giveValue (h : s.Holds given (.awaiting k)) (value : String) :
    (s.giveValue value).Holds (given ++ [(k, some value)]) .free := by
  cases h with
  | awaiting hsettled hlast htakes hawaiting hclosed =>
      refine .free ?_ rfl hclosed
      simp only [Keeps, Scope.giveValue, hlast, Option.map_some]
      exact ⟨given, rfl, hsettled⟩

/-- The mark comes, behind which nothing is an option. -/
theorem Holds.close (h : s.Holds given .free) : { s with closed := true }.Holds given .closed := by
  cases h with
  | free hkeeps => exact .closed hkeeps rfl

/-! ### Arguments with options

An argument with two dashes has one option, and one with a single dash has several flags and perhaps
an option with a value at its end. Both directions are shown for each of the two, and joined in
`Holds.addOption_eq_ok_iff`. -/

/-- A long option of an unknown name is refused. -/
theorem addLong_unknown {cs : List Char}
    (hk : names.long.lookup (String.ofList (cs.takeWhile (· != '='))) = none) :
    s.addLong names cs = .error .unknownArgument := by
  simp only [addLong, hk]

/-- A long option without an equals sign is a flag, or awaits its value. -/
theorem addLong_plain {cs : List Char} (h : '=' ∉ cs)
    (hk : names.long.lookup (String.ofList cs) = some k) :
    s.addLong names cs = if k.takesValue then s.addAwaiting k else s.addFlag k := by
  have hall := bne_equals_of_notMem h
  simp only [addLong, List.takeWhile_eq_self_iff.mpr hall, List.dropWhile_eq_nil_iff.mpr hall, hk]

/-- A long option with an equals sign has its value attached, and has to take one. -/
theorem addLong_attached {name value : List Char} (h : '=' ∉ name)
    (hk : names.long.lookup (String.ofList name) = some k) :
    s.addLong names (name ++ '=' :: value) =
      if k.takesValue then s.addValued k (String.ofList value) else .error .unwantedValue := by
  simp only [addLong, takeWhile_equals h, dropWhile_equals h, hk]

/-- **A long option that is added** is one of the grammar. -/
theorem Holds.exists_longOption (h : s.Holds given st) {cs : List Char}
    (hadd : s.addLong names cs = .ok t) :
    st.Whole ∧ ∃ new awaited? settings, LongOption names cs new awaited? ∧
      Settled (given ++ new) settings ∧ t = s.opened settings awaited? := by
  by_cases hplain : '=' ∈ cs
  · obtain ⟨name, value, rfl, hname⟩ := List.eq_append_cons_of_mem hplain
    cases hk : names.long.lookup (String.ofList name) with
    | none =>
        rw [addLong_unknown (by rw [takeWhile_equals hname, hk])] at hadd
        cases hadd
    | some k =>
        rw [addLong_attached hname hk] at hadd
        cases htakes : k.takesValue with
        | false => simp [htakes] at hadd
        | true =>
            simp only [htakes, if_true] at hadd
            obtain ⟨hwhole, settings, hsettled, ht⟩ := h.addWhole_eq_ok_iff.mp hadd
            exact ⟨hwhole, _, _, settings, .attached hname hk htakes, hsettled, ht⟩
  · have hname := List.takeWhile_eq_self_iff.mpr (bne_equals_of_notMem hplain)
    cases hk : names.long.lookup (String.ofList cs) with
    | none =>
        rw [addLong_unknown (by rw [hname, hk])] at hadd
        cases hadd
    | some k =>
        rw [addLong_plain hplain hk] at hadd
        cases htakes : k.takesValue with
        | false =>
            simp only [htakes, Bool.false_eq_true, if_false] at hadd
            obtain ⟨hwhole, hflag, settings, hsettled, ht⟩ :=
              (h.addFlag_eq_ok_iff htakes).mp hadd
            exact ⟨hwhole, _, _, settings, .flag hplain hk hflag, hsettled, ht⟩
        | true =>
            simp only [htakes, if_true] at hadd
            obtain ⟨hwhole, settings, hsettled, ht⟩ := h.addAwaiting_eq_ok_iff.mp hadd
            exact ⟨hwhole, _, _, settings, .apart hplain hk htakes, by simpa using hsettled, ht⟩

/-- A long option of the grammar is added. -/
theorem Holds.addLong_eq_ok (h : s.Holds given st) (hwhole : st.Whole) {cs : List Char}
    {awaited? : Option Key} {settings : List (Key × Setting)}
    (hlong : LongOption names cs new awaited?) (hsettled : Settled (given ++ new) settings) :
    s.addLong names cs = .ok (s.opened settings awaited?) := by
  cases hlong with
  | flag hplain hk hflag =>
      rw [addLong_plain hplain hk]
      simp only [hflag.1, Bool.false_eq_true, if_false]
      exact (h.addFlag_eq_ok_iff hflag.1).mpr ⟨hwhole, hflag, settings, hsettled, rfl⟩
  | attached hname hk htakes =>
      rw [addLong_attached hname hk]
      simp only [htakes, if_true]
      exact h.addWhole_eq_ok_iff.mpr ⟨hwhole, settings, hsettled, rfl⟩
  | apart hplain hk htakes =>
      rw [addLong_plain hplain hk]
      simp only [htakes, if_true]
      exact h.addAwaiting_eq_ok_iff.mpr ⟨hwhole, settings, by simpa using hsettled, rfl⟩

/-- A short option that takes a value takes the rest of its argument. -/
theorem addShort_takes {c : Char} {cs : List Char} (hk : names.short.lookup c = some k)
    (htakes : k.takesValue = true) (hne : cs ≠ []) :
    s.addShort names (c :: cs) = s.addWhole k (some (String.ofList (attachedValue cs))) := by
  rw [addShort, hk]
  simp only [htakes, if_true]
  split
  · exact absurd rfl hne
  · rfl
  next hequals => rw [attachedValue.eq_2 _ hequals]; rfl

/-- A short option at the end of its argument awaits the value in the next one. -/
theorem addShort_apart {c : Char} (hk : names.short.lookup c = some k)
    (htakes : k.takesValue = true) : s.addShort names [c] = s.addAwaiting k := by
  rw [addShort, hk]
  simp only [htakes, if_true]

/-- A short flag leaves the rest of the argument to further options. -/
theorem addShort_flag {c : Char} {cs : List Char} (hk : names.short.lookup c = some k)
    (hflag : k.takesValue = false) :
    s.addShort names (c :: cs) = s.addFlag k >>= fun s => s.addShort names cs := by
  rw [addShort, hk]
  simp only [hflag, Bool.false_eq_true, if_false]

/-- Behind a flag a scope holds it, and is free for the next option. -/
theorem holds_flag {settings : List (Key × Setting)}
    (hsettled : Settled (given ++ [(k, none)]) settings) (hclosed : s.closed = false) :
    (s.opened settings none).Holds (given ++ [(k, none)]) .free :=
  holds_opened hsettled (fun _ hk => by cases hk) hclosed

/-- **Short options that are added** are those of the grammar. The induction is on the characters:
each flag is set before the next option is looked at. -/
theorem Holds.exists_shortOptions (h : s.Holds given st) (hclosed : s.closed = false)
    {cs : List Char} (hne : cs ≠ []) (hadd : s.addShort names cs = .ok t) :
    st.Whole ∧ ∃ new awaited? settings, ShortOptions names cs new awaited? ∧
      Settled (given ++ new) settings ∧ t = s.opened settings awaited? := by
  induction cs generalizing s given st with
  | nil => exact absurd rfl hne
  | cons c cs ih =>
      cases hk : names.short.lookup c with
      | none => rw [addShort, hk] at hadd; cases hadd
      | some k =>
          cases htakes : k.takesValue with
          | true =>
              by_cases hcs : cs = []
              · subst hcs
                rw [addShort_apart hk htakes, h.addAwaiting_eq_ok_iff] at hadd
                obtain ⟨hwhole, settings, hsettled, ht⟩ := hadd
                exact ⟨hwhole, _, _, settings, .apart hk htakes, by simpa using hsettled, ht⟩
              · rw [addShort_takes hk htakes hcs, h.addWhole_eq_ok_iff] at hadd
                obtain ⟨hwhole, settings, hsettled, ht⟩ := hadd
                exact ⟨hwhole, _, _, settings, .attached hk htakes hcs, hsettled, ht⟩
          | false =>
              rw [addShort_flag hk htakes, bind_eq_ok_iff] at hadd
              obtain ⟨u, hadd, hothers⟩ := hadd
              obtain ⟨hwhole, hflag, settings, hsettled, rfl⟩ :=
                (h.addFlag_eq_ok_iff htakes).mp hadd
              by_cases hcs : cs = []
              · subst hcs
                obtain rfl := Except.ok.inj hothers
                exact ⟨hwhole, _, _, settings, .flag hk hflag .nil, hsettled, rfl⟩
              · obtain ⟨-, new, awaited?, settings', hshort, hsettled', rfl⟩ :=
                  ih (holds_flag hsettled hclosed) hclosed hcs hothers
                exact ⟨hwhole, _, _, settings', .flag hk hflag hshort, by simpa using hsettled',
                  rfl⟩

/-- Short options of the grammar are added. The induction is on the characters. -/
theorem Holds.addShort_eq_ok (h : s.Holds given st) (hwhole : st.Whole) (hclosed : s.closed = false)
    {cs : List Char} (hne : cs ≠ []) {awaited? : Option Key} {settings : List (Key × Setting)}
    (hshort : ShortOptions names cs new awaited?) (hsettled : Settled (given ++ new) settings) :
    s.addShort names cs = .ok (s.opened settings awaited?) := by
  induction cs generalizing s given st new with
  | nil => exact absurd rfl hne
  | cons c cs ih =>
      cases hshort with
      | @flag _ _ k new _ hk hflag hothers =>
          rw [List.append_cons] at hsettled
          obtain ⟨before, hbefore⟩ := hsettled.exists_of_append
          have hadd : s.addFlag k = .ok (s.opened before none) :=
            (h.addFlag_eq_ok_iff hflag.1).mpr ⟨hwhole, hflag, before, hbefore, rfl⟩
          rw [addShort_flag hk hflag.1, bind_eq_ok_iff]
          refine ⟨s.opened before none, hadd, ?_⟩
          by_cases hcs : cs = []
          · subst hcs
            cases hothers
            rw [List.append_nil] at hsettled
            rw [Except.ok.inj (hsettled.symm.trans hbefore)]
            rfl
          · exact ih (holds_flag hbefore hclosed) (fun _ => Standing.noConfusion) hclosed hcs
              hothers hsettled
      | attached hk htakes hcs =>
          rw [addShort_takes hk htakes hcs]
          exact h.addWhole_eq_ok_iff.mpr ⟨hwhole, settings, hsettled, rfl⟩
      | apart hk htakes =>
          rw [addShort_apart hk htakes]
          exact h.addAwaiting_eq_ok_iff.mpr ⟨hwhole, settings, by simpa using hsettled, rfl⟩

/-- An argument that looks like options is added to a scope. -/
def addOption (s : Scope) (names : Names) (argument : String) : Except Refusal Scope :=
  match Shape.of argument with
  | .long cs => s.addLong names cs
  | .short cs => s.addShort names cs
  | _ => .error .unknownArgument

/-- An argument of short options has at least one letter. -/
theorem short_ne_nil {argument : String} {cs : List Char} (h : Shape.of argument = .short cs) :
    cs ≠ [] := by
  rintro rfl
  rw [Shape.of] at h
  split at h <;> cases h

/-- **An argument with options is added** as the grammar has it. -/
theorem Holds.addOption_eq_ok_iff (h : s.Holds given st) (hclosed : s.closed = false)
    {argument : String} :
    s.addOption names argument = .ok t ↔ st.Whole ∧
      ∃ new awaited? settings, Opens names argument new awaited? ∧
        Settled (given ++ new) settings ∧ t = s.opened settings awaited? := by
  rw [addOption]
  constructor
  · intro hadd
    cases hshape : Shape.of argument with
    | long cs =>
        rw [hshape] at hadd
        obtain ⟨hwhole, new, awaited?, settings, hlong, hsettled, ht⟩ := h.exists_longOption hadd
        exact ⟨hwhole, new, awaited?, settings, .long hshape hlong, hsettled, ht⟩
    | short cs =>
        rw [hshape] at hadd
        obtain ⟨hwhole, new, awaited?, settings, hshort, hsettled, ht⟩ :=
          h.exists_shortOptions hclosed (short_ne_nil hshape) hadd
        exact ⟨hwhole, new, awaited?, settings, .short hshape hshort, hsettled, ht⟩
    | mark | other => rw [hshape] at hadd; cases hadd
  · rintro ⟨hwhole, new, awaited?, settings, hopens, hsettled, rfl⟩
    cases hopens with
    | long hshape hlong =>
        rw [hshape]
        exact h.addLong_eq_ok hwhole hlong hsettled
    | short hshape hshort =>
        rw [hshape]
        exact h.addShort_eq_ok hwhole hclosed (short_ne_nil hshape) hshort hsettled

end Scope

/-! ### Reading a scope

A scope reads one argument at a time: the mark behind which nothing is an option, a value that is
awaited, options, or the name of a command. Which of these an argument is depends on its shape and
on whether a value is awaited. -/

/-- The name of a command, and the word for help, do not look like options. -/
theorem shape_verb_name (verb : Verb) : Shape.of verb.name = .other := by
  cases verb <;> rfl

/-- A command is found by its name only. -/
theorem eq_name_of_ofName? {name : String} {verb : Verb} (h : Verb.ofName? name = some verb) :
    name = verb.name := by
  have hname := List.find?_some h
  exact (eq_of_beq hname).symm

section

variable {verb? : Option Verb} {s : Scope} {argument : String} {rest : List String}

/-- What does not look like a name is not taken for one. -/
theorem ofName?_eq_none (h : Shape.of argument ≠ .other) :
    Verb.ofName? argument = none ∧ (argument == helpName) = false := by
  constructor
  · cases hname : Verb.ofName? argument with
    | none => rfl
    | some verb => exact absurd (eq_name_of_ofName? hname ▸ shape_verb_name verb) h
  · refine beq_false_of_ne ?_
    rintro rfl
    exact h rfl

/-- The mark of the end of options closes the scope. -/
theorem readScope_mark (hclosed : s.closed = false) (hshape : Shape.of argument = .mark) :
    readScope verb? s (argument :: rest) = readScope verb? { s with closed := true } rest := by
  obtain ⟨hname, hhelp⟩ := ofName?_eq_none (by rw [hshape]; exact Shape.noConfusion)
  rw [readScope]
  simp [hclosed, hname, hhelp, hshape]

/-- What looks neither like a name nor like the mark is read as options. -/
theorem readScope_option (hclosed : s.closed = false) (hother : Shape.of argument ≠ .other)
    (hmark : Shape.of argument ≠ .mark) :
    readScope verb? s (argument :: rest) =
      s.addOption (Names.of verb?) argument >>= fun s => readScope verb? s rest := by
  obtain ⟨hname, hhelp⟩ := ofName?_eq_none hother
  rw [readScope, Scope.addOption]
  simp only [hclosed, hname, hhelp, ite_self, Bool.and_false, Bool.false_eq_true, if_false]
  cases h : Shape.of argument with
  | long cs =>
      dsimp only
      cases s.addLong (Names.of verb?) cs <;> rfl
  | short cs =>
      dsimp only
      cases s.addShort (Names.of verb?) cs <;> rfl
  | mark => exact absurd h hmark
  | other => exact absurd h hother

/-- The value that an option awaits is read as such, whatever name it is. -/
theorem readScope_value (hclosed : s.closed = false) (hawaiting : s.awaiting = true)
    (hshape : Shape.of argument = .other) :
    readScope verb? s (argument :: rest) = readScope verb? (s.giveValue argument) rest := by
  rw [readScope]
  simp [hclosed, hawaiting, hshape]

/-- Nothing is read behind the mark. -/
theorem readScope_closed (hclosed : s.closed = true) {arguments : List String} {f : Finished}
    (h : readScope verb? s arguments = .ok f) : arguments = [] ∧ f = ⟨s, none⟩ := by
  cases arguments with
  | nil => exact ⟨rfl, (Except.ok.inj h).symm⟩
  | cons argument rest =>
      rw [readScope, if_pos hclosed] at h
      cases h

/-- A scope that goes on reading was not closed before. -/
theorem closed_eq_false {f : Finished} (h : readScope verb? s (argument :: rest) = .ok f) :
    s.closed = false := by
  cases hclosed : s.closed with
  | false => rfl
  | true => cases (readScope_closed hclosed h).1

/-- A name that is no value ends the first scope, and has to be that of a command. -/
theorem readScope_name (hclosed : s.closed = false) (hawaiting : s.awaiting = false)
    (hshape : Shape.of argument = .other) {f : Finished}
    (h : readScope verb? s (argument :: rest) = .ok f) :
    ∃ verb, verb? = none ∧ argument = verb.name ∧ f = ⟨s, some (verb, rest)⟩ := by
  rw [readScope] at h
  cases verb? with
  | some verb => simp [hclosed, hawaiting, hshape] at h
  | none =>
      cases hname : Verb.ofName? argument with
      | some verb =>
          simp [hclosed, hawaiting, hname] at h
          exact ⟨verb, rfl, eq_name_of_ofName? hname, h.symm⟩
      | none =>
          simp only [hclosed, hawaiting, hname, hshape, Bool.false_eq_true, if_false,
            Option.isNone_none, Bool.not_false, Bool.and_self, Bool.true_and, if_true] at h
          split at h <;> cases h

/-- The name of a command ends the first scope. -/
theorem readScope_command (hclosed : s.closed = false) (hawaiting : s.awaiting = false)
    (verb : Verb) : readScope none s (verb.name :: rest) = .ok ⟨s, some (verb, rest)⟩ := by
  rw [readScope]
  simp [hclosed, hawaiting, Verb.ofName?_name]

end

/-- **What is spelled is read**: behind the arguments the scope holds what they gave. The induction
is on the grammar. -/
theorem exists_readScope_of_spells {verb? : Option Verb} {st st' : Standing}
    {arguments : List String} {new : List Given}
    (h : Spells (Names.of verb?) st arguments new st') {s : Scope} {given : List Given}
    (hs : s.Holds given st) {settings : List (Key × Setting)}
    (hsettled : Settled (given ++ new) settings) :
    ∃ u : Scope, u.Holds (given ++ new) st' ∧
      ∀ tail, readScope verb? s (arguments ++ tail) = readScope verb? u tail := by
  induction h generalizing s given with
  | nil => exact ⟨s, by simpa using hs, fun _ => rfl⟩
  | @opens argument arguments new others awaited? _ hopens _ ih =>
      rw [← List.append_assoc] at hsettled ⊢
      obtain ⟨before, hbefore⟩ := hsettled.exists_of_append
      have hclosed : s.closed = false := by cases hs; assumption
      have hadd : s.addOption (Names.of verb?) argument = .ok (s.opened before awaited?) :=
        (hs.addOption_eq_ok_iff hclosed).mpr
          ⟨fun _ => Standing.noConfusion, new, awaited?, before, hopens, hbefore, rfl⟩
      have htakes : ∀ k, awaited? = some k → k.takesValue = true := by
        rintro k rfl
        exact hopens.takesValue
      obtain ⟨u, hu, hread⟩ := ih (Scope.holds_opened hbefore htakes hclosed) hsettled
      refine ⟨u, hu, fun tail => ?_⟩
      rw [List.cons_append, readScope_option hclosed hopens.shape_ne.1 hopens.shape_ne.2, hadd]
      exact hread tail
  | @value k text _ _ _ shape _ ih =>
      rw [List.append_cons] at hsettled ⊢
      obtain ⟨u, hu, hread⟩ := ih (hs.giveValue text) hsettled
      refine ⟨u, hu, fun tail => ?_⟩
      cases hs with
      | awaiting _ _ _ hawaiting hclosed =>
          exact (readScope_value hclosed hawaiting shape).trans (hread tail)
  | mark shape _ ih =>
      obtain ⟨u, hu, hread⟩ := ih hs.close hsettled
      refine ⟨u, hu, fun tail => ?_⟩
      cases hs with
      | free _ _ hclosed => exact (readScope_mark hclosed shape).trans (hread tail)

/-- How a scope can **end**: with the last argument, or with the name of a command behind arguments
that leave nothing open. -/
inductive Ends (verb? : Option Verb) (st : Standing) (arguments before : List String) :
    Option (Verb × List String) → Prop
  | last (heq : arguments = before) (hwhole : st.Whole) : Ends verb? st arguments before none
  | command {verb : Verb} {behind : List String} (hfirst : verb? = none)
      (heq : arguments = before ++ verb.name :: behind) (hfree : st = .free) :
      Ends verb? st arguments before (some (verb, behind))

/-- An argument more in front does not change where the options end. -/
theorem Ends.cons {verb? : Option Verb} {st : Standing} {arguments before : List String}
    {command? : Option (Verb × List String)} (h : Ends verb? st arguments before command?)
    (argument : String) : Ends verb? st (argument :: arguments) (argument :: before) command? := by
  cases h with
  | last heq hwhole => exact .last (congrArg _ heq) hwhole
  | command hfirst heq hfree => exact .command hfirst (congrArg _ heq) hfree

/-- **What is read was spelled**: a scope that is read, and whose last option is set, was spelled up
to its end. The induction is on the arguments. -/
theorem exists_spells_of_readScope {verb? : Option Verb} {st : Standing} {arguments : List String}
    {s t : Scope} {given : List Given} (hs : s.Holds given st) {f : Finished}
    (h : readScope verb? s arguments = .ok f) (hlast : f.scope.settleLast = .ok t) :
    ∃ before new st', Spells (Names.of verb?) st before new st' ∧
      Settled (given ++ new) t.settings ∧ Ends verb? st' arguments before f.command? := by
  induction arguments generalizing s given st with
  | nil =>
      obtain rfl := Except.ok.inj h
      obtain ⟨hwhole, settings, hsettled, rfl⟩ := hs.settleLast_eq_ok_iff.mp hlast
      exact ⟨[], [], st, .nil, by simpa using hsettled, .last rfl hwhole⟩
  | cons argument arguments ih =>
      have hclosed := closed_eq_false h
      by_cases hother : Shape.of argument = .other
      · cases hs with
        | @free hkeeps hawaiting =>
            obtain ⟨verb, rfl, rfl, rfl⟩ := readScope_name hclosed hawaiting hother h
            obtain ⟨settings, hsettled, rfl⟩ := hkeeps.settleLast_eq_ok_iff.mp hlast
            exact ⟨[], [], .free, .nil, by simpa using hsettled, .command rfl rfl rfl⟩
        | @awaiting k hsettled hlast' htakes hawaiting =>
            have hheld : s.Holds given (.awaiting k) :=
              .awaiting hsettled hlast' htakes hawaiting hclosed
            rw [readScope_value hclosed hawaiting hother] at h
            obtain ⟨before, new, st', hspells, hsettled, hends⟩ :=
              ih (hheld.giveValue argument) h
            rw [List.append_assoc] at hsettled
            exact ⟨_, _, st', .value hother hspells, hsettled, hends.cons argument⟩
        | closed _ hclosed' => rw [hclosed] at hclosed'; cases hclosed'
      by_cases hmark : Shape.of argument = .mark
      · rw [readScope_mark hclosed hmark] at h
        cases hs with
        | free hkeeps hawaiting =>
            have hheld : s.Holds given .free := .free hkeeps hawaiting hclosed
            obtain ⟨before, new, st', hspells, hsettled, hends⟩ := ih hheld.close h
            exact ⟨_, new, st', .mark hmark hspells, hsettled, hends.cons argument⟩
        | awaiting _ hlast' htakes =>
            obtain ⟨-, rfl⟩ := readScope_closed rfl h
            simp [Scope.settleLast, hlast', Scope.settle, htakes, bind, Except.bind] at hlast
        | closed _ hclosed' => rw [hclosed] at hclosed'; cases hclosed'
      · rw [readScope_option hclosed hother hmark, bind_eq_ok_iff] at h
        obtain ⟨u, hadd, hread⟩ := h
        obtain ⟨hwhole, new, awaited?, settings, hopens, hsettled, rfl⟩ :=
          (hs.addOption_eq_ok_iff hclosed).mp hadd
        have htakes : ∀ k, awaited? = some k → k.takesValue = true := by
          rintro k rfl
          exact hopens.takesValue
        obtain ⟨before, others, st', hspells, hsettled, hends⟩ :=
          ih (Scope.holds_opened hsettled htakes hclosed) hread
        obtain rfl : st = .free := by
          cases hs with
          | free => rfl
          | awaiting => exact absurd rfl (hwhole _)
          | closed _ hclosed' => rw [hclosed] at hclosed'; cases hclosed'
        rw [List.append_assoc] at hsettled
        exact ⟨_, _, st', .opens hopens hspells, hsettled, hends.cons argument⟩

/-- Reading goes on behind arguments that were read to their end. The induction is on these. -/
theorem readScope_append {verb? : Option Verb} {s u : Scope} {arguments : List String}
    (h : readScope verb? s arguments = .ok ⟨u, none⟩) (tail : List String) :
    readScope verb? s (arguments ++ tail) = readScope verb? u tail := by
  induction arguments generalizing s with
  | nil => rw [show s = u from congrArg Finished.scope (Except.ok.inj h)]; rfl
  | cons argument arguments ih =>
      have hclosed := closed_eq_false h
      rw [List.cons_append]
      by_cases hother : Shape.of argument = .other
      · cases hawaiting : s.awaiting with
        | true =>
            rw [readScope_value hclosed hawaiting hother] at h ⊢
            exact ih h
        | false =>
            obtain ⟨verb, -, -, hcommand⟩ := readScope_name hclosed hawaiting hother h
            cases hcommand
      by_cases hmark : Shape.of argument = .mark
      · rw [readScope_mark hclosed hmark] at h ⊢
        exact ih h
      · rw [readScope_option hclosed hother hmark] at h ⊢
        obtain ⟨v, hadd, hread⟩ := bind_eq_ok_iff.mp h
        rw [hadd]
        exact ih hread

/-! ### Reading a command line -/

/-- What a command and the settings of the two scopes come to. -/
def comesTo (verb : Verb) (inner outer : List (Key × Setting)) : Arguments where
  command := commandOf verb inner
  options := Options.of (inner ++ outer)

/-- A command line is **spelled** before and behind the name of its command, and its options come to
settings. -/
structure Spelled (before : List String) (verb : Verb) (behind : List String)
    (outer inner : List Given) (outerSettings innerSettings : List (Key × Setting)) : Prop where
  outer_spells : Spells (Names.of none) .free before outer .free
  inner_spells : ∃ st, Spells (Names.of (some verb)) .free behind inner st ∧ st.Whole
  outer_settled : Settled outer outerSettings
  inner_settled : Settled inner innerSettings

section

variable {before behind : List String} {verb : Verb} {outer inner : List Given}
  {outerSettings innerSettings : List (Key × Setting)}

/-- The two scopes of a command line that is spelled. -/
theorem Spelled.exists_scopes
    (h : Spelled before verb behind outer inner outerSettings innerSettings) :
    ∃ s u : Scope,
      readScope none {} (before ++ verb.name :: behind) = .ok ⟨s, some (verb, behind)⟩ ∧
      s.settleLast = .ok { s with settings := outerSettings, last? := none } ∧
      readScope (some verb) {} behind = .ok ⟨u, none⟩ ∧
      u.settleLast = .ok { u with settings := innerSettings, last? := none } := by
  obtain ⟨st, hinner, hwhole⟩ := h.inner_spells
  obtain ⟨s, hs, hfirst⟩ :=
    exists_readScope_of_spells h.outer_spells Scope.holds_empty h.outer_settled
  obtain ⟨u, hu, hsecond⟩ := exists_readScope_of_spells hinner Scope.holds_empty h.inner_settled
  refine ⟨s, u, ?_, ?_, ?_, ?_⟩
  · rw [hfirst]
    cases hs with
    | free _ hawaiting hclosed => exact readScope_command hclosed hawaiting verb
  · exact hs.settleLast_eq_ok_iff.mpr
      ⟨fun _ => Standing.noConfusion, outerSettings, h.outer_settled, rfl⟩
  · simpa [readScope] using hsecond []
  · exact hu.settleLast_eq_ok_iff.mpr ⟨hwhole, innerSettings, h.inner_settled, rfl⟩

/-- **A command line that is spelled** is followed. -/
theorem Spelled.read_eq_ok
    (h : Spelled before verb behind outer inner outerSettings innerSettings) :
    read (before ++ verb.name :: behind) = .ok (comesTo verb innerSettings outerSettings) := by
  obtain ⟨s, u, hfirst, hsLast, hsecond, huLast⟩ := h.exists_scopes
  simp only [read, hfirst, hsecond, hsLast, huLast, bind, Except.bind]
  rfl

/-- Where an option stands on both sides, the one behind the name counts. -/
example : read ["--base-dir", "here", "info", "--base-dir", "there", "-q"] =
    .ok ⟨.plain .info, { baseDir? := some ⟨"there"⟩, quiet := true }⟩ := rfl

end

/-- **A command line that is followed** was spelled. -/
theorem exists_spelled_of_read {arguments : List String} {a : Arguments}
    (h : read arguments = .ok a) :
    ∃ before verb behind outer inner outerSettings innerSettings,
      arguments = before ++ verb.name :: behind ∧
      Spelled before verb behind outer inner outerSettings innerSettings ∧
      a = comesTo verb innerSettings outerSettings := by
  obtain ⟨f, hfirst, h⟩ := bind_eq_ok_iff.mp h
  cases hcommand : f.command? with
  | none =>
      rw [hcommand, bind_eq_ok_iff] at h
      obtain ⟨s, -, h⟩ := h
      cases h
  | some command =>
      obtain ⟨verb, behind⟩ := command
      rw [hcommand] at h
      obtain ⟨g, hsecond, h⟩ := bind_eq_ok_iff.mp h
      obtain ⟨u, huLast, h⟩ := bind_eq_ok_iff.mp h
      obtain ⟨s, hsLast, h⟩ := bind_eq_ok_iff.mp h
      obtain ⟨before, outer, st, houter, houterSettled, hends⟩ :=
        exists_spells_of_readScope Scope.holds_empty hfirst hsLast
      obtain ⟨behind', inner, st', hinner, hinnerSettled, hends'⟩ :=
        exists_spells_of_readScope Scope.holds_empty hsecond huLast
      rw [hcommand] at hends
      generalize g.command? = command? at hends'
      cases hends with
      | command _ heq hfree =>
          cases hends' with
          | command hnone => cases hnone
          | last heq' hwhole =>
              subst hfree heq'
              exact ⟨before, verb, behind, outer, inner, _, _, heq,
                ⟨houter, ⟨st', hinner, hwhole⟩, houterSettled, hinnerSettled⟩,
                (Except.ok.inj h).symm⟩

end GeoBench.CommandLine
