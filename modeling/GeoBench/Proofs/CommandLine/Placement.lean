import GeoBench.Proofs.CommandLine.Reading

/-!
# The place of an option

The options that say how to run may stand before the name of the command and behind it. Wherever
such an option stands, it says the same: a command line comes to the same arguments when the option
is moved to the other side of the name, and what was given is never replaced by a usual value.

An option is moved with its value. Where an option stands on both sides, the one behind the name
counts, so only an option that is given once can be moved.

## What is moved

An option is written in one argument or in two: by its letter or its long name, with its value
behind an equals sign or in the next argument (`Written`). All of these are moved alike, as one
stretch of arguments, and may be put in wherever a scope is free for another option.

## The condition

Only the options that say how to run can be moved, for those of a command are known behind its name
only. If an option is given on both sides, moving one of them would repeat it in one scope, and that
is refused.

## Main results

* `Written.spells` — what the arguments of an option give, in every scope alike.
* `comesTo_eq_of_moved` — an option on one side of the name comes to the same as on the other.
* `read_moved` — a moved option changes nothing.
-/

namespace GeoBench.CommandLine

/-! ### Options by themselves -/

/-- The arguments that **write** an option that says how to run, with the text of its value. -/
inductive Written : Key → Option String → List String → Prop
  | long {name : String} {k : Key} (hname : (name, k) ∈ sharedLong) (hflag : k.IsFlag) :
      Written k none ["--" ++ name]
  | short {c : Char} {k : Key} (hname : (c, k) ∈ sharedShort) (hflag : k.IsFlag) :
      Written k none [String.ofList ['-', c]]
  | attached {name : String} {k : Key} (hname : (name, k) ∈ sharedLong)
      (htakes : k.takesValue = true) (value : String) :
      Written k (some value) ["--" ++ name ++ "=" ++ value]
  | apart {name : String} {k : Key} (hname : (name, k) ∈ sharedLong)
      (htakes : k.takesValue = true) (value : String) : Written k (some value) ["--" ++ name, value]

/-- The long names of the shared options are plain, and each is that of one option. -/
theorem sharedLong_plain : ∀ e ∈ sharedLong,
    sharedLong.lookup e.1 = some e.2 ∧ '=' ∉ e.1.toList ∧ e.1.toList ≠ [] := by
  decide

/-- Each short letter of a shared option stands for one key, and none is a dash. -/
theorem sharedShort_known : ∀ e ∈ sharedShort, sharedShort.lookup e.1 = some e.2 ∧ e.1 ≠ '-' := by
  decide

/-- The shared names are known in every scope. -/
theorem Names.lookup_long {name : String} {k : Key} (h : (name, k) ∈ sharedLong)
    (verb? : Option Verb) : (Names.of verb?).long.lookup name = some k := by
  have hname := (sharedLong_plain _ h).1
  cases verb? <;> simp only [Names.of, List.lookup_append, hname, Option.some_or]

/-- A command adds no letter that hides a shared one. -/
theorem Names.lookup_short {c : Char} {k : Key} (h : (c, k) ∈ sharedShort) (verb? : Option Verb) :
    (Names.of verb?).short.lookup c = some k := by
  have hname := (sharedShort_known _ h).1
  cases verb? <;> simp only [Names.of, List.lookup_append, hname, Option.some_or]

/-- No option of a command says how to run. -/
theorem sharedKeys_disjoint (verb : Verb) :
    ∀ j ∈ commandKeys verb, j ∉ sharedLong.map Prod.snd := by
  cases verb <;> decide

/-- Only shared options are written in front of a command. -/
theorem Written.mem_sharedKeys {k : Key} {value? : Option String} {tokens : List String}
    (h : Written k value? tokens) : k ∈ sharedLong.map Prod.snd := by
  have hshort : ∀ e ∈ sharedShort, e.2 ∈ sharedLong.map Prod.snd := by decide
  cases h with
  | long hname | attached hname | apart hname => exact List.mem_map_of_mem hname
  | short hname => exact hshort _ hname

/-- What looks like a long option is one by the characters behind its dashes. -/
theorem shape_long {text : String} (h : text.toList ≠ []) :
    Shape.of ("--" ++ text) = .long text.toList := by
  rw [Shape.of, String.toList_append]
  cases htext : text.toList with
  | nil => exact absurd htext h
  | cons c cs => rfl

/-- A value may be attached to a long option. -/
theorem shape_long_attached (name value : String) :
    Shape.of ("--" ++ name ++ "=" ++ value) = .long (name.toList ++ '=' :: value.toList) := by
  rw [String.append_assoc, String.append_assoc, shape_long (by simp [String.toList_append])]
  simp [String.toList_append]

/-- What stands behind one dash are short options. -/
theorem shape_short {c : Char} (h : c ≠ '-') (cs : List Char) :
    Shape.of (String.ofList ('-' :: c :: cs)) = .short (c :: cs) := by
  rw [Shape.of, String.toList_ofList]
  split
  next heq => cases heq; exact absurd rfl h
  next heq => cases heq; exact absurd rfl h
  next heq => cases heq; rfl
  next hshort => exact absurd rfl (hshort c cs)

/-- **What the arguments of an option open** is the same in every scope: the option, or nothing yet
if the next argument is its value. -/
theorem Written.opens {k : Key} {value? : Option String} {tokens : List String}
    (h : Written k value? tokens) :
    (∃ argument, tokens = [argument] ∧
      ∀ verb?, Opens (Names.of verb?) argument [(k, value?)] none) ∨
    ∃ argument value, tokens = [argument, value] ∧ value? = some value ∧
      ∀ verb?, Opens (Names.of verb?) argument [] (some k) := by
  cases h with
  | @long name _ hname hflag =>
      obtain ⟨-, hplain, hne⟩ := sharedLong_plain _ hname
      exact .inl ⟨_, rfl, fun verb? => .long (shape_long hne)
        (.flag hplain (by rw [String.ofList_toList, Names.lookup_long hname]) hflag)⟩
  | short hname hflag =>
      exact .inl ⟨_, rfl, fun verb? => .short (shape_short (sharedShort_known _ hname).2 [])
        (.flag (Names.lookup_short hname verb?) hflag .nil)⟩
  | @attached name _ hname htakes value =>
      obtain ⟨-, hplain, hne⟩ := sharedLong_plain _ hname
      refine .inl ⟨_, rfl, fun verb? => ?_⟩
      have hlong : LongOption (Names.of verb?) (name.toList ++ '=' :: value.toList)
          [(k, some (String.ofList value.toList))] none :=
        .attached hplain (by rw [String.ofList_toList, Names.lookup_long hname]) htakes
      rw [String.ofList_toList] at hlong
      exact .long (shape_long_attached name value) hlong
  | @apart name _ hname htakes value =>
      obtain ⟨-, hplain, hne⟩ := sharedLong_plain _ hname
      exact .inr ⟨_, value, rfl, rfl, fun verb? => .long (shape_long hne)
        (.apart hplain (by rw [String.ofList_toList, Names.lookup_long hname]) htakes)⟩

/-- **An option by itself**: where its arguments are read, they give it and nothing more, and they
would give it in every scope. -/
theorem Written.spells {k : Key} {value? : Option String} {tokens : List String}
    (h : Written k value? tokens) {verb? : Option Verb} {st st' : Standing} {new : List Given}
    (hs : Spells (Names.of verb?) st tokens new st') :
    st = .free ∧ new = [(k, value?)] ∧ st' = .free ∧
      ∀ other?, Spells (Names.of other?) .free tokens [(k, value?)] .free := by
  obtain ⟨argument, rfl, hopens⟩ | ⟨argument, value, rfl, rfl, hopens⟩ := h.opens
  · have hshape := (hopens none).shape_ne
    cases hs with
    | opens hopens' others =>
        obtain ⟨rfl, rfl⟩ := (hopens verb?).unique hopens'
        cases others
        exact ⟨rfl, rfl, rfl, fun other? => .opens (hopens other?) .nil⟩
    | value shape => exact absurd shape hshape.1
    | mark shape => exact absurd shape hshape.2
  · have hshape := (hopens none).shape_ne
    cases hs with
    | opens hopens' others =>
        obtain ⟨rfl, rfl⟩ := (hopens verb?).unique hopens'
        cases others with
        | value shape others =>
            cases others
            exact ⟨rfl, rfl, rfl, fun other? => .opens (hopens other?) (.value shape .nil)⟩
    | value shape => exact absurd shape hshape.1
    | mark shape => exact absurd shape hshape.2

/-! ### Places -/

/-- Whether an option may stand **behind** some arguments of a scope: they are read to their end,
await no value and hold no mark. -/
def Free (verb? : Option Verb) (arguments : List String) : Prop :=
  ∃ s, readScope verb? {} arguments = .ok ⟨s, none⟩ ∧ s.awaiting = false ∧ s.closed = false

/-- A command line is **cut** at the name of its command. -/
structure Cut (arguments before : List String) (verb : Verb) (behind : List String) : Prop where
  eq : arguments = before ++ verb.name :: behind
  free : Free none before

/-- The options that a scope holds. -/
def Scope.keys (s : Scope) : List Key :=
  (s.last?.map Prod.fst).toList ++ s.settings.map Prod.fst

/-- The options that a command line **gives**, before the name of the command and behind it. -/
def givenKeys (arguments : List String) : List Key :=
  match readScope none {} arguments with
  | .ok ⟨outer, some (verb, behind)⟩ =>
    match readScope (some verb) {} behind with
    | .ok inner => outer.keys ++ inner.scope.keys
    | .error _ => []
  | _ => []

/-- An option is **moved** to the other side of the name, to any place where one may stand: right
behind the name, and right before it, are such places. -/
inductive Moved (before : List String) (verb : Verb) (behind tokens : List String) :
    List String → Prop
  | inward {left right first second : List String} (hbefore : before = left ++ tokens ++ right)
      (hbehind : behind = first ++ second) (hfree : Free (some verb) first) :
      Moved before verb behind tokens
        (left ++ right ++ verb.name :: (first ++ tokens ++ second))
  | outward {left right first second : List String} (hbehind : behind = left ++ tokens ++ right)
      (hbefore : before = first ++ second) (hfree : Free none first) :
      Moved before verb behind tokens
        (first ++ tokens ++ second ++ verb.name :: (left ++ right))

/-- What an option is set to among the options of a run. -/
def Options.setting? (o : Options) : Key → Option Setting
  | .localTarget => if o.localTarget then some .on else none
  | .cloudTarget => if o.cloudTarget then some .on else none
  | .baseDir => o.baseDir?.map fun p => .text p.text
  | .dryRun => if o.dryRun then some .on else none
  | .budget => some (.number o.budget)
  | .interval => some (.number o.interval)
  | .format => some (.format o.format)
  | .noProgress => if o.noProgress then some .on else none
  | .quiet => if o.quiet then some .on else none
  | .verbose => if o.verbose then some .on else none
  | _ => none

/-- No argument at all is free of shared options. -/
theorem free_nil (verb? : Option Verb) : Free verb? [] :=
  ⟨{}, rfl, rfl, rfl⟩

/-- An option may stand behind what is spelled up to a free standing. -/
theorem Spells.free_iff {verb? : Option Verb} {arguments : List String} {given : List Given}
    {st : Standing} (h : Spells (Names.of verb?) .free arguments given st)
    {settings : List (Key × Setting)} (hsettled : Settled given settings) :
    Free verb? arguments ↔ st = .free := by
  obtain ⟨u, hu, hread⟩ := exists_readScope_of_spells h Scope.holds_empty hsettled
  have hend : readScope verb? {} arguments = .ok ⟨u, none⟩ := by
    simpa [readScope] using hread []
  constructor
  · rintro ⟨s, hs, hawaiting, hclosed⟩
    obtain rfl : u = s := congrArg Finished.scope (Except.ok.inj (hend.symm.trans hs))
    cases hu with
    | free => rfl
    | awaiting _ _ _ hawaiting' => rw [hawaiting] at hawaiting'; cases hawaiting'
    | closed _ hclosed' => rw [hclosed] at hclosed'; cases hclosed'
  · rintro rfl
    cases hu with
    | free _ hawaiting hclosed => exact ⟨u, hend, hawaiting, hclosed⟩

/-- The first scope of a command line that is cut ends with the name of the command. -/
theorem Cut.readScope {arguments before behind : List String} {verb : Verb}
    (h : Cut arguments before verb behind) :
    ∃ s, CommandLine.readScope none {} arguments = .ok ⟨s, some (verb, behind)⟩ := by
  obtain ⟨rfl, s, hs, hawaiting, hclosed⟩ := h
  exact ⟨s, (readScope_append hs _).trans (readScope_command hclosed hawaiting verb)⟩

/-- **A command line that is followed** is spelled around each cut. -/
theorem Cut.exists_spelled {arguments before behind : List String} {verb : Verb} {a : Arguments}
    (hcut : Cut arguments before verb behind) (h : read arguments = .ok a) :
    ∃ outer inner outerSettings innerSettings,
      Spelled before verb behind outer inner outerSettings innerSettings ∧
      a = comesTo verb innerSettings outerSettings := by
  obtain ⟨before', verb', behind', outer, inner, _, _, rfl, hspelled, rfl⟩ :=
    exists_spelled_of_read h
  obtain ⟨s, hs⟩ := hcut.readScope
  obtain ⟨s', -, hs', -⟩ := hspelled.exists_scopes
  have hcommand := congrArg Finished.command? (Except.ok.inj (hs.symm.trans hs'))
  cases hcommand
  obtain rfl : before' = before := List.append_cancel_right hcut.eq
  exact ⟨outer, inner, _, _, hspelled, rfl⟩

/-! ### The options that are given -/

/-- Setting the last option changes nothing about which options there are. -/
theorem Scope.keys_of_settleLast {s t : Scope} (h : s.settleLast = .ok t) :
    s.keys = t.settings.map Prod.fst := by
  rw [settleLast] at h
  rw [keys]
  cases hlast : s.last? with
  | none =>
      rw [hlast] at h
      obtain rfl := Except.ok.inj h
      rfl
  | some e =>
      rw [hlast] at h
      obtain ⟨settings, hset, h⟩ := bind_eq_ok_iff.mp h
      obtain ⟨-, x, -, rfl⟩ := settle_eq_ok_iff.mp hset
      obtain rfl := Except.ok.inj h
      rfl

/-- The options that a command line gives are those that it spells. -/
theorem Spelled.count_givenKeys {before behind : List String} {verb : Verb}
    {outer inner : List Given} {outerSettings innerSettings : List (Key × Setting)}
    (h : Spelled before verb behind outer inner outerSettings innerSettings) (k : Key) :
    (givenKeys (before ++ verb.name :: behind)).count k =
      ((inner ++ outer).map Prod.fst).count k := by
  obtain ⟨s, u, hfirst, hsLast, hsecond, huLast⟩ := h.exists_scopes
  simp only [givenKeys, hfirst, hsecond, Scope.keys_of_settleLast hsLast,
    Scope.keys_of_settleLast huLast, h.outer_settled.keys, h.inner_settled.keys, List.count_append,
    List.count_reverse, List.map_append]
  omega

/-! ### Moves -/

section

variable {verb? : Option Verb} {st : Standing} {k : Key} {value? : Option String}
  {tokens left right first second : List String} {given : List Given}

/-- What is spelled around the arguments of an option. -/
theorem Spells.exists_around (h : Spells (Names.of verb?) .free (left ++ tokens ++ right) given st)
    (hwritten : Written k value? tokens) :
    ∃ before behind, given = before ++ (k, value?) :: behind ∧
      Spells (Names.of verb?) .free left before .free ∧
      Spells (Names.of verb?) .free right behind st ∧
      ∀ other?, Spells (Names.of other?) .free tokens [(k, value?)] .free := by
  obtain ⟨_, behind, _, rfl, hfront, hright⟩ := Spells.append_iff.mp h
  obtain ⟨before, _, _, rfl, hleft, htokens⟩ := Spells.append_iff.mp hfront
  obtain ⟨rfl, rfl, rfl, hanywhere⟩ := hwritten.spells htokens
  exact ⟨before, behind, by simp, hleft, hright, hanywhere⟩

/-- What is spelled around a place where an option may stand. -/
theorem Spells.exists_split (h : Spells (Names.of verb?) .free (first ++ second) given st)
    {settings : List (Key × Setting)} (hsettled : Settled given settings)
    (hfree : Free verb? first) :
    ∃ before behind, given = before ++ behind ∧
      Spells (Names.of verb?) .free first before .free ∧
      Spells (Names.of verb?) .free second behind st := by
  obtain ⟨before, behind, middle, rfl, hfirst, hsecond⟩ := Spells.append_iff.mp h
  obtain ⟨_, hbefore⟩ := hsettled.exists_of_append
  obtain rfl := (hfirst.free_iff hbefore).mp hfree
  exact ⟨before, behind, rfl, hfirst, hsecond⟩

/-- An option put between two stretches gives itself between what these give. -/
theorem Spells.insert {before behind : List Given}
    (hfirst : Spells (Names.of verb?) .free first before .free)
    (htokens : Spells (Names.of verb?) .free tokens [(k, value?)] .free)
    (hsecond : Spells (Names.of verb?) .free second behind st) :
    Spells (Names.of verb?) .free (first ++ tokens ++ second) (before ++ (k, value?) :: behind)
      st := by
  rw [List.append_cons]
  exact Spells.append_iff.mpr ⟨_, behind, .free, rfl,
    Spells.append_iff.mpr ⟨before, _, .free, rfl, hfirst, htokens⟩, hsecond⟩

end

/-- **An option on the one side or on the other** comes to the same: it is told apart neither by
what it is set to, nor by what the other options are set to. -/
theorem comesTo_eq_of_moved {verb : Verb} {k : Key} {value? : Option String}
    {before behind first second : List Given} {outer inner outer' inner' : List (Key × Setting)}
    (hshared : k ∈ sharedLong.map Prod.snd)
    (hnew : k ∉ (first ++ second ++ (before ++ behind)).map Prod.fst)
    (houter : Settled (before ++ (k, value?) :: behind) outer)
    (hinner : Settled (first ++ second) inner)
    (houter' : Settled (before ++ behind) outer')
    (hinner' : Settled (first ++ (k, value?) :: second) inner') :
    comesTo verb inner' outer' = comesTo verb inner outer := by
  have hcommand : commandOf verb inner' = commandOf verb inner :=
    commandOf_congr fun j hj => by
      have hne : j ≠ k := by
        rintro rfl
        exact sharedKeys_disjoint verb j hj hshared
      have hfirst : k ∉ first.map Prod.fst := fun hmem => hnew (by simp [hmem])
      rw [hinner'.lookup, hinner.lookup, lookup_insert hfirst, if_neg hne]
  have hoptions : Options.of (inner' ++ outer') = Options.of (inner ++ outer) :=
    Options.of_congr fun j _ => by
      have hfirst : k ∉ first.map Prod.fst := fun hmem => hnew (by simp [hmem])
      have hfront : k ∉ (first ++ second ++ before).map Prod.fst := fun hmem =>
        hnew (by simp only [List.map_append, List.mem_append] at hmem ⊢; tauto)
      have hlookup : (first ++ (k, value?) :: second ++ (before ++ behind)).lookup j =
          (first ++ second ++ (before ++ (k, value?) :: behind)).lookup j :=
        calc (first ++ (k, value?) :: second ++ (before ++ behind)).lookup j
            = if j = k then some value?
              else (first ++ second ++ (before ++ behind)).lookup j := by
              rw [List.append_assoc, List.cons_append, lookup_insert hfirst,
                List.append_assoc first]
          _ = (first ++ second ++ (before ++ (k, value?) :: behind)).lookup j := by
              rw [← List.append_assoc _ before, ← List.append_assoc _ before,
                lookup_insert hfront]
      rw [hinner'.lookup_append houter', hinner.lookup_append houter, hlookup]
  rw [comesTo, comesTo, hcommand, hoptions]

/-- A moved option is spelled, and the command line comes to the same arguments. -/
theorem Spelled.exists_moved {before behind tokens moved : List String} {verb : Verb}
    {outer inner : List Given} {outerSettings innerSettings : List (Key × Setting)}
    (h : Spelled before verb behind outer inner outerSettings innerSettings) {k : Key}
    {value? : Option String} (hwritten : Written k value? tokens)
    (honce : ((inner ++ outer).map Prod.fst).count k = 1)
    (hmoved : Moved before verb behind tokens moved) :
    read moved = .ok (comesTo verb innerSettings outerSettings) ∧ (k, value?) ∈ inner ++ outer := by
  have hshared := hwritten.mem_sharedKeys
  obtain ⟨st, hinner, hwhole⟩ := h.inner_spells
  cases hmoved with
  | @inward left right first second hbefore hbehind hfree =>
      subst hbefore hbehind
      obtain ⟨e₁, e₂, rfl, hleft, hright, htokens⟩ := h.outer_spells.exists_around hwritten
      obtain ⟨i₁, i₂, rfl, hfirst, hsecond⟩ := hinner.exists_split h.inner_settled hfree
      have hnew : k ∉ (i₁ ++ i₂ ++ (e₁ ++ e₂)).map Prod.fst := by
        rw [← List.count_eq_zero]
        simp only [List.map_append, List.map_cons, List.count_append, List.count_cons_self]
          at honce ⊢
        omega
      obtain ⟨⟨outer', houter'⟩, -, hfits⟩ := exists_settled_insert_iff.mp ⟨_, h.outer_settled⟩
      obtain ⟨inner', hinner'⟩ := exists_settled_insert_iff.mpr
        ⟨⟨_, h.inner_settled⟩, fun hmem => hnew (by simp_all), hfits⟩
      have hspelled : Spelled (left ++ right) verb (first ++ tokens ++ second) (e₁ ++ e₂)
          (i₁ ++ (k, value?) :: i₂) outer' inner' :=
        ⟨Spells.append_iff.mpr ⟨e₁, e₂, .free, rfl, hleft, hright⟩,
          ⟨st, hfirst.insert (htokens _) hsecond, hwhole⟩, houter', hinner'⟩
      refine ⟨?_, by simp⟩
      rw [hspelled.read_eq_ok,
        comesTo_eq_of_moved hshared hnew h.outer_settled h.inner_settled houter' hinner']
  | @outward left right first second hbehind hbefore hfree =>
      subst hbefore hbehind
      obtain ⟨i₁, i₂, rfl, hleft, hright, htokens⟩ := hinner.exists_around hwritten
      obtain ⟨e₁, e₂, rfl, hfirst, hsecond⟩ := h.outer_spells.exists_split h.outer_settled hfree
      have hnew : k ∉ (i₁ ++ i₂ ++ (e₁ ++ e₂)).map Prod.fst := by
        rw [← List.count_eq_zero]
        simp only [List.map_append, List.map_cons, List.count_append, List.count_cons_self]
          at honce ⊢
        omega
      obtain ⟨⟨inner', hinner'⟩, -, hfits⟩ := exists_settled_insert_iff.mp ⟨_, h.inner_settled⟩
      obtain ⟨outer', houter'⟩ := exists_settled_insert_iff.mpr
        ⟨⟨_, h.outer_settled⟩, fun hmem => hnew (by simp_all), hfits⟩
      have hspelled : Spelled (first ++ tokens ++ second) verb (left ++ right)
          (e₁ ++ (k, value?) :: e₂) (i₁ ++ i₂) outer' inner' :=
        ⟨hfirst.insert (htokens _) hsecond,
          ⟨st, Spells.append_iff.mpr ⟨i₁, i₂, .free, rfl, hleft, hright⟩, hwhole⟩,
          houter', hinner'⟩
      refine ⟨?_, by simp⟩
      rw [hspelled.read_eq_ok,
        comesTo_eq_of_moved hshared hnew houter' hinner' h.outer_settled h.inner_settled]

/-- No shared option asks for help. -/
theorem Written.ne_help {k : Key} {value? : Option String} {tokens : List String}
    (h : Written k value? tokens) : k ≠ .help := by
  cases h with
  | long _ hflag | short _ hflag => exact hflag.2.1
  | attached _ htakes | apart _ htakes =>
      rintro rfl
      cases htakes

/-- **What an option is set to** is seen in the options of the run. -/
theorem Options.setting?_of {settings : List (Key × Setting)} {k : Key} {x : Setting}
    (hshared : k ∈ sharedLong.map Prod.snd) (hhelp : k ≠ .help) (hfits : x.Fits k.valueKind)
    (h : settings.lookup k = some x) : (Options.of settings).setting? k = some x := by
  cases k with
  | localTarget | cloudTarget | dryRun | noProgress | quiet | verbose =>
      cases x with
      | on => simp [setting?, Options.of, h]
      | _ => cases hfits
  | baseDir =>
      cases x with
      | text => simp [setting?, Options.of, textOf?, h]
      | _ => cases hfits
  | budget | interval =>
      cases x with
      | number => simp [setting?, Options.of, numberOf, h]
      | _ => cases hfits
  | format =>
      cases x with
      | format => simp [setting?, Options.of, h]
      | _ => cases hfits
  | help => exact absurd rfl hhelp
  | threads | connections | duration | rate | timestamp | version => simp [sharedLong] at hshared

/-- An option that is given once is set to what its own value comes to. -/
theorem Spelled.exists_setting {before behind : List String} {verb : Verb}
    {outer inner : List Given} {outerSettings innerSettings : List (Key × Setting)}
    (h : Spelled before verb behind outer inner outerSettings innerSettings) {k : Key}
    {value? : Option String} (honce : ((inner ++ outer).map Prod.fst).count k = 1)
    (hmem : (k, value?) ∈ inner ++ outer) :
    ∃ x, Given.setting? (k, value?) = some x ∧
      (innerSettings ++ outerSettings).lookup k = some x := by
  have hfits : ∃ x, Given.setting? (k, value?) = some x := by
    rcases List.mem_append.mp hmem with hinner | houter
    · exact (exists_settled_iff.mp ⟨_, h.inner_settled⟩).2 _ hinner
    · exact (exists_settled_iff.mp ⟨_, h.outer_settled⟩).2 _ houter
  obtain ⟨x, hx⟩ := hfits
  refine ⟨x, hx, ?_⟩
  rw [h.inner_settled.lookup_append h.outer_settled]
  obtain ⟨first, others, heq⟩ := List.append_of_mem hmem
  rw [heq] at honce ⊢
  have hnew : k ∉ first.map Prod.fst := by
    rw [← List.count_eq_zero]
    simp only [List.map_append, List.map_cons, List.count_append, List.count_cons_self] at honce
    omega
  rw [lookup_insert hnew, if_pos rfl, Option.bind_some, hx]

/-- **A moved option changes nothing**, for every command line that is followed: the command line
with the option on the other side of the name of the command comes to the same arguments, and the
options of the run hold what the option is set to. -/
theorem read_moved {arguments : List String} {a : Arguments} (h : read arguments = .ok a) :
    (∃ before verb behind, Cut arguments before verb behind) ∧
    ∀ before verb behind, Cut arguments before verb behind →
      ∀ k value? tokens moved, Written k value? tokens → (givenKeys arguments).count k = 1 →
        Moved before verb behind tokens moved →
          read moved = .ok a ∧
          ∃ x, Given.setting? (k, value?) = some x ∧ a.options.setting? k = some x := by
  constructor
  · obtain ⟨before, verb, behind, outer, inner, _, _, rfl, hspelled, -⟩ :=
      exists_spelled_of_read h
    exact ⟨before, verb, behind, rfl,
      (hspelled.outer_spells.free_iff hspelled.outer_settled).mpr rfl⟩
  · intro before verb behind hcut k value? tokens moved hwritten honce hmoved
    obtain ⟨outer, inner, outerSettings, innerSettings, hspelled, rfl⟩ := hcut.exists_spelled h
    rw [hcut.eq, hspelled.count_givenKeys] at honce
    obtain ⟨hread, hmem⟩ := hspelled.exists_moved hwritten honce hmoved
    obtain ⟨x, hx, hlookup⟩ := hspelled.exists_setting honce hmem
    exact ⟨hread, x, hx,
      Options.setting?_of hwritten.mem_sharedKeys hwritten.ne_help (Given.fits hx) hlookup⟩

/-- A base directory before the name of the command, and behind it. -/
theorem read_moved_workload :
    read ["--base-dir", "bench", "wrk2", "-t", "4"] =
      .ok ⟨.workload { threads := 4 }, { baseDir? := some ⟨"bench"⟩ }⟩ ∧
    read ["wrk2", "--base-dir", "bench", "-t", "4"] =
      .ok ⟨.workload { threads := 4 }, { baseDir? := some ⟨"bench"⟩ }⟩ := by
  have h : read ["--base-dir", "bench", "wrk2", "-t", "4"] =
      .ok ⟨.workload { threads := 4 }, { baseDir? := some ⟨"bench"⟩ }⟩ := rfl
  have hcut : Cut ["--base-dir", "bench", "wrk2", "-t", "4"] ["--base-dir", "bench"] .workload
      ["-t", "4"] := ⟨rfl, _, rfl, rfl, rfl⟩
  have hwritten : Written .baseDir (some "bench") ["--base-dir", "bench"] :=
    @Written.apart "base-dir" _ (by decide) rfl "bench"
  have hmoved : Moved ["--base-dir", "bench"] .workload ["-t", "4"] ["--base-dir", "bench"]
      ["wrk2", "--base-dir", "bench", "-t", "4"] :=
    @Moved.inward _ _ _ _ [] [] [] _ rfl rfl (free_nil _)
  exact ⟨h, ((read_moved h).2 _ _ _ hcut _ _ _ _ hwritten (by decide) hmoved).1⟩

end GeoBench.CommandLine
