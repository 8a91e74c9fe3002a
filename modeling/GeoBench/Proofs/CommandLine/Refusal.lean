import GeoBench.Proofs.CommandLine.Placement

/-!
# Why a command line is refused

A command line that is spelled is refused when its options do not come to settings. The options
behind the name of the command are looked at first and in their order, so the reason of the refusal
is that of the first option that is repeated or whose value does not fit.

## The order of faults

Options are set one after the other, each when the next one comes. So of two options that are at
fault the earlier one is told, and an argument that is no option at all is told only after the
option in front of it was set. The statement is that of the grammar with the success of the settings
replaced by their first failure.

## Main results

* `Refused.of_unfit` — which options are refused, and why.
* `readScope_eq_error` — a scope is refused for the reason that its options are refused.
* `read_eq_error` — so is a command line, for the options behind the name of the command.
-/

namespace GeoBench.CommandLine

/-- A computation with two parts fails where one of them does. -/
theorem bind_eq_error_iff {ε α β : Type} {x : Except ε α} {next : α → Except ε β} {e : ε} :
    (x >>= next) = .error e ↔ x = .error e ∨ ∃ a, x = .ok a ∧ next a = .error e := by
  cases x <;> simp [bind, Except.bind]

/-! ### Options -/

/-- Options are **refused**, for the reason of the first one that cannot be set. -/
def Refused (given : List Given) (reason : Refusal) : Prop :=
  given.foldlM (fun settings e => Scope.settle settings e.1 e.2) [] = .error reason

/-- Options come to settings or are refused. -/
theorem settled_or_refused (given : List Given) :
    (∃ settings, Settled given settings) ∨ ∃ reason, Refused given reason := by
  simp only [Settled, Refused]
  cases given.foldlM (fun settings e => Scope.settle settings e.1 e.2) [] with
  | ok settings => exact .inl ⟨settings, rfl⟩
  | error reason => exact .inr ⟨reason, rfl⟩

section

variable {given others : List Given} {e : Given} {settings : List (Key × Setting)}
  {reason reason' : Refusal}

/-- What comes to settings is not refused. -/
theorem Settled.not_refused (h : Settled given settings) : ¬ Refused given reason :=
  fun hrefused => nomatch h.symm.trans hrefused

/-- There is one reason. -/
theorem Refused.unique (h : Refused given reason) (h' : Refused given reason') :
    reason = reason' :=
  Except.error.inj (h.symm.trans h')

/-- What is refused stays so, whatever is given behind it. -/
theorem Refused.append (h : Refused given reason) (others : List Given) :
    Refused (given ++ others) reason := by
  rw [Refused, List.foldlM_append, bind_eq_error_iff]
  exact .inl h

/-- One more option is refused where the others are, or cannot be set behind them. -/
theorem refused_concat_iff :
    Refused (given ++ [e]) reason ↔ Refused given reason ∨
      ∃ settings, Settled given settings ∧ Scope.settle settings e.1 e.2 = .error reason := by
  simp only [Refused, Settled, List.foldlM_append, List.foldlM_cons, List.foldlM_nil, bind_pure,
    bind_eq_error_iff]

/-- A new option with an unfit value cannot be set. -/
theorem Scope.settle_eq_error {k : Key} {text : String} (hnew : k ∉ settings.map Prod.fst)
    (hvalue : readValue k.valueKind text = .error reason) :
    settle settings k (some text) = .error reason := by
  have hany : (settings.any fun e => e.1 == k) = false := by
    rw [Bool.eq_false_iff]
    simpa using hnew
  simp [settle, hany, hvalue, bind, Except.bind]

/-- **Which options are refused, and why**: none is given twice, and all that do not fit are unfit
for one reason. The induction is on the options, from the last one. -/
theorem Refused.of_unfit (hnodup : (given.map Prod.fst).Nodup)
    (hfits : ∀ e ∈ given, (∃ x, Given.setting? e = some x) ∨
      ∃ text, e.2 = some text ∧ readValue e.1.valueKind text = .error reason)
    (hunfit : ∃ e ∈ given, Given.setting? e = none) : Refused given reason := by
  induction given using List.reverseRecOn with
  | nil => simp at hunfit
  | append_singleton given e ih =>
      rw [List.map_append, List.map_singleton, ← List.concat_eq_append, List.nodup_concat] at hnodup
      obtain ⟨hnew, hnodup⟩ := hnodup
      have hgiven := fun e he => hfits e (List.mem_append_left _ he)
      by_cases hbefore : ∃ e ∈ given, Given.setting? e = none
      · exact (ih hnodup hgiven hbefore).append [e]
      · have hall : ∀ e ∈ given, ∃ x, Given.setting? e = some x := fun e he =>
          Option.ne_none_iff_exists'.mp fun hnone => hbefore ⟨e, he, hnone⟩
        obtain ⟨settings, hsettled⟩ := exists_settled_iff.mpr ⟨hnodup, hall⟩
        obtain ⟨e', hmem, hnone⟩ := hunfit
        obtain rfl : e' = e := by
          rcases List.mem_append.mp hmem with hmem | hmem
          · exact absurd ⟨e', hmem, hnone⟩ hbefore
          · exact List.mem_singleton.mp hmem
        obtain ⟨x, hx⟩ | ⟨text, htext, hvalue⟩ := hfits e' (List.mem_append_right _ (by simp))
        · cases hx.symm.trans hnone
        · refine refused_concat_iff.mpr (.inr ⟨settings, hsettled, ?_⟩)
          rw [htext]
          refine Scope.settle_eq_error ?_ hvalue
          rwa [hsettled.keys, List.mem_reverse]

end

/-! ### Scopes -/

namespace Scope

variable {names : Names} {s : Scope} {given new : List Given} {st : Standing} {k : Key}
  {reason : Refusal}

/-- **A scope that keeps what is refused** is refused when its last option is set. -/
theorem Holds.settleLast_eq_error (h : s.Holds given st) (hwhole : st.Whole)
    (hrefused : Refused given reason) : s.settleLast = .error reason := by
  have hkeeps : s.Keeps given := by
    cases h with
    | free hkeeps | closed hkeeps => exact hkeeps
    | awaiting => exact absurd rfl (hwhole _)
  rw [Keeps] at hkeeps
  rw [settleLast]
  cases hlast : s.last? with
  | none =>
      rw [hlast] at hkeeps
      exact absurd hrefused (Settled.not_refused hkeeps)
  | some e =>
      rw [hlast] at hkeeps
      obtain ⟨before, rfl, hbefore⟩ := hkeeps
      rcases refused_concat_iff.mp hrefused with hrefused | ⟨settings, hsettled, hset⟩
      · exact absurd hrefused hbefore.not_refused
      · obtain rfl : s.settings = settings := Except.ok.inj (hbefore.symm.trans hsettled)
        exact bind_eq_error_iff.mpr (.inl hset)

/-- An option that is whole is refused if what was given up to it is. -/
theorem Holds.addWhole_eq_error (h : s.Holds given st) (hwhole : st.Whole) {value? : Option String}
    (hrefused : Refused (given ++ [(k, value?)]) reason) : s.addWhole k value? = .error reason := by
  rw [addWhole, bind_eq_error_iff]
  rcases refused_concat_iff.mp hrefused with hrefused | ⟨settings, hsettled, hset⟩
  · exact .inl (h.settleLast_eq_error hwhole hrefused)
  · exact .inr ⟨_, h.settleLast_eq_ok_iff.mpr ⟨hwhole, settings, hsettled, rfl⟩,
      bind_eq_error_iff.mpr (.inl hset)⟩

/-- An option that still awaits its value is refused if what was given before it is. -/
theorem Holds.addAwaiting_eq_error (h : s.Holds given st) (hwhole : st.Whole)
    (hrefused : Refused given reason) : s.addAwaiting k = .error reason :=
  bind_eq_error_iff.mpr (.inl (h.settleLast_eq_error hwhole hrefused))

/-- The same for an option by its long name. -/
theorem Holds.addLong_eq_error (h : s.Holds given st) (hwhole : st.Whole) {cs : List Char}
    {awaited? : Option Key} (hlong : LongOption names cs new awaited?)
    (hrefused : Refused (given ++ new) reason) : s.addLong names cs = .error reason := by
  cases hlong with
  | flag hplain hk hflag =>
      rw [addLong_plain hplain hk]
      simp only [hflag.1, Bool.false_eq_true, if_false]
      rw [addFlag_eq s hflag]
      exact h.addWhole_eq_error hwhole hrefused
  | attached hname hk htakes =>
      rw [addLong_attached hname hk]
      simp only [htakes, if_true]
      exact h.addWhole_eq_error hwhole hrefused
  | apart hplain hk htakes =>
      rw [addLong_plain hplain hk]
      simp only [htakes, if_true]
      exact h.addAwaiting_eq_error hwhole (by simpa using hrefused)

/-- Short options of which one is refused. The induction is on the characters: the flags before it
are set. -/
theorem Holds.addShort_eq_error (h : s.Holds given st) (hwhole : st.Whole)
    (hclosed : s.closed = false) {cs : List Char} (hne : cs ≠ []) {awaited? : Option Key}
    (hshort : ShortOptions names cs new awaited?) (hrefused : Refused (given ++ new) reason) :
    s.addShort names cs = .error reason := by
  induction cs generalizing s given st new with
  | nil => exact absurd rfl hne
  | cons c cs ih =>
      cases hshort with
      | @flag _ _ k new _ hk hflag hothers =>
          rw [addShort_flag hk hflag.1, addFlag_eq s hflag, bind_eq_error_iff]
          rw [List.append_cons] at hrefused
          rcases settled_or_refused (given ++ [(k, none)]) with
            ⟨before, hbefore⟩ | ⟨reason', hfirst⟩
          · refine .inr ⟨_, h.addWhole_eq_ok_iff.mpr ⟨hwhole, before, hbefore, rfl⟩, ?_⟩
            by_cases hcs : cs = []
            · subst hcs
              cases hothers
              rw [List.append_nil] at hrefused
              exact absurd hrefused hbefore.not_refused
            · exact ih (holds_flag hbefore hclosed) (fun _ => Standing.noConfusion) hclosed hcs
                hothers hrefused
          · obtain rfl := (hfirst.append new).unique hrefused
            exact .inl (h.addWhole_eq_error hwhole hfirst)
      | attached hk htakes hcs =>
          rw [addShort_takes hk htakes hcs]
          exact h.addWhole_eq_error hwhole hrefused
      | apart hk htakes =>
          rw [addShort_apart hk htakes]
          exact h.addAwaiting_eq_error hwhole (by simpa using hrefused)

/-- **An argument with an option that is refused** is refused for its reason. -/
theorem Holds.addOption_eq_error (h : s.Holds given st) (hwhole : st.Whole)
    (hclosed : s.closed = false) {argument : String} {awaited? : Option Key}
    (hopens : Opens names argument new awaited?) (hrefused : Refused (given ++ new) reason) :
    s.addOption names argument = .error reason := by
  rw [addOption]
  cases hopens with
  | long hshape hlong =>
      rw [hshape]
      exact h.addLong_eq_error hwhole hlong hrefused
  | short hshape hshort =>
      rw [hshape]
      exact h.addShort_eq_error hwhole hclosed (short_ne_nil hshape) hshort hrefused

end Scope

/-! ### Command lines -/

/-- **A scope is refused** for the reason that its options are. The induction is on the grammar: the
arguments before the one with the reason are read, and the last option is set behind all of them. -/
theorem readScope_eq_error {verb? : Option Verb} {st st' : Standing} {arguments : List String}
    {new : List Given} (h : Spells (Names.of verb?) st arguments new st') (hwhole : st'.Whole)
    {s : Scope} {given : List Given} (hs : s.Holds given st) {reason : Refusal}
    (hrefused : Refused (given ++ new) reason) :
    (readScope verb? s arguments >>= fun f => f.scope.settleLast) = .error reason := by
  induction h generalizing s given with
  | nil =>
      rw [List.append_nil] at hrefused
      exact hs.settleLast_eq_error hwhole hrefused
  | @opens argument arguments new others awaited? _ hopens _ ih =>
      rw [← List.append_assoc] at hrefused
      have hclosed : s.closed = false := by cases hs; assumption
      rw [readScope_option hclosed hopens.shape_ne.1 hopens.shape_ne.2, bind_assoc,
        bind_eq_error_iff]
      rcases settled_or_refused (given ++ new) with ⟨before, hbefore⟩ | ⟨reason', hfirst⟩
      · have htakes : ∀ k, awaited? = some k → k.takesValue = true := by
          rintro k rfl
          exact hopens.takesValue
        exact .inr ⟨_, (hs.addOption_eq_ok_iff hclosed).mpr
          ⟨fun _ => Standing.noConfusion, new, awaited?, before, hopens, hbefore, rfl⟩,
          ih hwhole (Scope.holds_opened hbefore htakes hclosed) hrefused⟩
      · obtain rfl := (hfirst.append others).unique hrefused
        exact .inl (hs.addOption_eq_error (fun _ => Standing.noConfusion) hclosed hopens hfirst)
  | @value k text _ _ _ shape _ ih =>
      rw [List.append_cons] at hrefused
      cases hs with
      | awaiting hsettled hlast htakes hawaiting hclosed =>
          rw [readScope_value hclosed hawaiting shape]
          exact ih hwhole
            ((Scope.Holds.awaiting hsettled hlast htakes hawaiting hclosed).giveValue text) hrefused
  | mark shape _ ih =>
      cases hs with
      | free hkeeps hawaiting hclosed =>
          rw [readScope_mark hclosed shape]
          exact ih hwhole (Scope.Holds.free hkeeps hawaiting hclosed).close hrefused

/-- **A command line is refused** for the reason that the options behind the name of its command
are, whatever stands before it. -/
theorem read_eq_error {before behind : List String} {verb : Verb} {inner : List Given}
    {st : Standing} {reason : Refusal} (hbefore : Free none before)
    (hinner : Spells (Names.of (some verb)) .free behind inner st) (hwhole : st.Whole)
    (hrefused : Refused inner reason) :
    read (before ++ verb.name :: behind) = .error reason := by
  obtain ⟨outer, hread⟩ := Cut.readScope ⟨rfl, hbefore⟩
  have hscope := readScope_eq_error hinner hwhole Scope.holds_empty hrefused
  rw [read, hread]
  rcases bind_eq_error_iff.mp hscope with hfirst | ⟨f, hfirst, hlast⟩
  · simp only [bind, Except.bind, hfirst]
  · simp only [bind, Except.bind, hfirst, hlast]

/-- The first of two options that do not fit is the reason. -/
example : read ["--local", "info", "--output-format", "xml", "--readiness-budget", "soon"] =
    .error .badValue := rfl

end GeoBench.CommandLine
