import GeoBench.CommandLine
import Mathlib.Data.List.Induction
import Mathlib.Data.List.Nodup
import Mathlib.Tactic.Common

/-!
# The settings that options come to

Options are given one after another, each with the text of its value. They come to settings if no
option is given twice and every value fits. What an option is set to is then told by its own value,
wherever among the others it was given.

## Order and presence

Which options come to settings does not depend on their order, and neither does what each of them is
set to. So two command lines come to the same if they give the same options, in whatever order and
on whichever side of the name of the command; only which fault is told first may differ. What a
whole command line comes to is told by looking at one option after the other, and each of them asks
the settings for a single key.

## Main results

* `lookup_insert`, `lookup_eq_of_perm` — what is found when one entry more is put anywhere, and in
  another order.
* `exists_settled_iff` — which options come to settings.
* `Settled.lookup` — what each option is set to.
* `Options.of_congr`, `commandOf_congr` — what a command line comes to, told option by option.
-/

namespace GeoBench.CommandLine

/-- An option as it is **given**: what it says, and the text of its value. -/
abbrev Given := Key × Option String

/-- The setting that a given option comes to on its own, if its value is there and fits. -/
def Given.setting? (e : Given) : Option Setting :=
  if e.1.takesValue && e.2.isNone then none else (readValue e.1.valueKind (e.2.getD "")).toOption

/-- A computation with two parts succeeds when both do. -/
theorem bind_eq_ok_iff {ε α β : Type} {x : Except ε α} {next : α → Except ε β} {b : β} :
    (x >>= next) = .ok b ↔ ∃ a, x = .ok a ∧ next a = .ok b := by
  cases x <;> simp [bind, Except.bind]

/-- Whether a setting is one for a kind of values. -/
def Setting.Fits : ValueKind → Setting → Prop
  | .none, .on => True
  | .text, .text _ => True
  | .path, .text _ => True
  | .word32, .number _ => True
  | .word64, .number _ => True
  | .format, .format _ => True
  | _, _ => False

/-- What is read for an option is a setting of its kind. -/
theorem readValue_fits {kind : ValueKind} {text : String} {x : Setting}
    (h : readValue kind text = .ok x) : x.Fits kind := by
  cases kind with
  | none | text => cases h; trivial
  | path | word64 =>
      rw [readValue] at h
      split at h <;> cases h
      trivial
  | word32 =>
      rw [readValue] at h
      split at h
      · split at h <;> cases h
        trivial
      · cases h
  | format =>
      rw [readValue] at h
      split at h
      · cases h
        trivial
      · split at h <;> cases h
        trivial

/-- Nothing is found for the keys that do not stand in the list. -/
theorem lookup_eq_none_iff_notMem {α : Type} {k : Key} {entries : List (Key × α)} :
    entries.lookup k = none ↔ k ∉ entries.map Prod.fst := by
  simp only [List.lookup_eq_none_iff, bne_iff_ne, List.mem_map, not_exists, not_and]
  exact forall₂_congr fun e _ => ne_comm

/-- What a given option comes to is a setting of its kind. -/
theorem Given.fits {e : Given} {x : Setting} (h : e.setting? = some x) : x.Fits e.1.valueKind := by
  rw [setting?] at h
  split at h
  · cases h
  · cases hvalue : readValue e.1.valueKind (e.2.getD "") with
    | error refusal => rw [hvalue] at h; cases h
    | ok y =>
        rw [hvalue] at h
        cases h
        exact readValue_fits hvalue

/-- **What is found** when one entry more is put anywhere among the others. -/
theorem lookup_insert {α : Type} {entries others : List (Key × α)} {k : Key} {x : α}
    (h : k ∉ entries.map Prod.fst) (j : Key) :
    (entries ++ (k, x) :: others).lookup j =
      if j = k then some x else (entries ++ others).lookup j := by
  rw [← lookup_eq_none_iff_notMem] at h
  rw [List.lookup_append, List.lookup_append, List.lookup_cons]
  by_cases hj : j = k
  · subst hj
    simp [h]
  · rw [beq_false_of_ne hj, if_neg hj]

/-- **What is found** in another order of the same entries, if no key stands there twice. -/
theorem lookup_eq_of_perm {α : Type} {entries others : List (Key × α)} (h : entries.Perm others)
    (hnodup : (entries.map Prod.fst).Nodup) (k : Key) : entries.lookup k = others.lookup k := by
  induction h with
  | nil => rfl
  | cons e _ ih => rw [List.lookup_cons, List.lookup_cons, ih (List.nodup_cons.mp hnodup).2]
  | swap e f entries =>
      obtain ⟨i, x⟩ := e
      obtain ⟨j, y⟩ := f
      have hne : j ≠ i := fun heq =>
        (List.nodup_cons.mp hnodup).1 (heq ▸ List.mem_cons_self)
      rw [List.lookup_cons, List.lookup_cons, List.lookup_cons, List.lookup_cons]
      by_cases hk : k = j
      · rw [beq_iff_eq.mpr hk, beq_false_of_ne (hk ▸ hne)]
      · rw [beq_false_of_ne hk]
  | trans hfirst _ ih ih' =>
      exact (ih hnodup).trans (ih' ((hfirst.map Prod.fst).nodup_iff.mp hnodup))

/-- An option is set unless it is set before, or comes to no setting. -/
theorem Scope.settle_eq_ok_iff {settings after : List (Key × Setting)} {k : Key}
    {value? : Option String} :
    settle settings k value? = .ok after ↔
      k ∉ settings.map Prod.fst ∧
        ∃ x, Given.setting? (k, value?) = some x ∧ after = (k, x) :: settings := by
  have hany : (settings.any fun e => e.1 == k) = true ↔ k ∈ settings.map Prod.fst := by
    simp
  rw [settle, Given.setting?]
  split
  · simp
  · split
    next hset => simp [hany.mp hset]
    next hunset =>
      rw [hany] at hunset
      rw [bind_eq_ok_iff]
      cases readValue k.valueKind (value?.getD "") with
      | error refusal => simp [Except.toOption]
      | ok x => simp [Except.toOption, pure, Except.pure, hunset, eq_comm]

/-- The options that were given come to **settings**, one set after another. -/
def Settled (given : List Given) (settings : List (Key × Setting)) : Prop :=
  given.foldlM (fun settings e => Scope.settle settings e.1 e.2) [] = .ok settings

/-- Nothing given settles to nothing. -/
theorem settled_nil_iff {settings : List (Key × Setting)} :
    Settled [] settings ↔ settings = [] := by
  simp only [Settled, List.foldlM_nil, pure, Except.pure, Except.ok.injEq, eq_comm]

/-- One more option is set behind the others. -/
theorem settled_concat_iff {given : List Given} {e : Given} {settings : List (Key × Setting)} :
    Settled (given ++ [e]) settings ↔
      ∃ before, Settled given before ∧ Scope.settle before e.1 e.2 = .ok settings := by
  simp only [Settled, List.foldlM_append, List.foldlM_cons, List.foldlM_nil, bind_pure,
    bind_eq_ok_iff]

/-- What comes to settings does so up to every point. -/
theorem Settled.exists_of_append {given others : List Given} {settings : List (Key × Setting)}
    (h : Settled (given ++ others) settings) : ∃ before, Settled given before := by
  induction others using List.reverseRecOn generalizing settings with
  | nil => exact ⟨settings, by simpa using h⟩
  | append_singleton others e ih =>
      rw [← List.append_assoc, settled_concat_iff] at h
      obtain ⟨before, hbefore, -⟩ := h
      exact ih hbefore

/-- The options that are set are those that were given, the last one first. -/
theorem Settled.keys {given : List Given} {settings : List (Key × Setting)}
    (h : Settled given settings) : settings.map Prod.fst = (given.map Prod.fst).reverse := by
  induction given using List.reverseRecOn generalizing settings with
  | nil =>
      rw [settled_nil_iff.mp h]
      rfl
  | append_singleton given e ih =>
      obtain ⟨before, hbefore, hset⟩ := settled_concat_iff.mp h
      obtain ⟨-, x, -, rfl⟩ := Scope.settle_eq_ok_iff.mp hset
      simp [ih hbefore]

/-- **Which options come to settings**: those of which none is given twice, each with a value that
fits. -/
theorem exists_settled_iff {given : List Given} :
    (∃ settings, Settled given settings) ↔
      (given.map Prod.fst).Nodup ∧ ∀ e ∈ given, ∃ x, Given.setting? e = some x := by
  induction given using List.reverseRecOn with
  | nil => simp [settled_nil_iff]
  | append_singleton given e ih =>
      have hstep : (∃ settings, Settled (given ++ [e]) settings) ↔
          (∃ settings, Settled given settings) ∧ e.1 ∉ given.map Prod.fst ∧
            ∃ x, Given.setting? e = some x := by
        simp only [settled_concat_iff, Scope.settle_eq_ok_iff]
        constructor
        · rintro ⟨_, before, hbefore, hnew, x, hx, rfl⟩
          rw [hbefore.keys, List.mem_reverse] at hnew
          exact ⟨⟨before, hbefore⟩, hnew, x, hx⟩
        · rintro ⟨⟨before, hbefore⟩, hnew, x, hx⟩
          rw [← List.mem_reverse, ← hbefore.keys] at hnew
          exact ⟨_, before, hbefore, hnew, x, hx, rfl⟩
      rw [hstep, ih, List.map_append, List.map_singleton, ← List.concat_eq_append,
        List.nodup_concat]
      simp only [List.mem_append, List.mem_singleton, or_imp, forall_and, forall_eq]
      tauto

/-- **What an option is set to** is what its own value comes to. -/
theorem Settled.lookup {given : List Given} {settings : List (Key × Setting)}
    (h : Settled given settings) (k : Key) :
    settings.lookup k = (given.lookup k).bind fun value? => Given.setting? (k, value?) := by
  induction given using List.reverseRecOn generalizing settings with
  | nil =>
      rw [settled_nil_iff.mp h]
      rfl
  | append_singleton given e ih =>
      obtain ⟨added, value?⟩ := e
      obtain ⟨before, hbefore, hset⟩ := settled_concat_iff.mp h
      obtain ⟨hnew, x, hx, rfl⟩ := Scope.settle_eq_ok_iff.mp hset
      rw [hbefore.keys, List.mem_reverse, ← lookup_eq_none_iff_notMem] at hnew
      rw [List.lookup_append]
      by_cases hk : k = added
      · subst hk
        simp [hnew, hx]
      · have hother : [(added, value?)].lookup k = none := by simp [hk]
        rw [hother, Option.or_none, ← ih hbefore, List.lookup_cons, beq_false_of_ne hk]

/-- One option more, anywhere among the others, comes to settings if it is new and its value
fits. -/
theorem exists_settled_insert_iff {given others : List Given} {e : Given} :
    (∃ settings, Settled (given ++ e :: others) settings) ↔
      (∃ settings, Settled (given ++ others) settings) ∧ e.1 ∉ (given ++ others).map Prod.fst ∧
        ∃ x, Given.setting? e = some x := by
  simp only [exists_settled_iff, List.map_append, List.map_cons, List.nodup_middle,
    List.nodup_cons, List.mem_append, List.mem_cons, or_imp, forall_and, forall_eq]
  tauto

/-- Settings behind others are told by the options behind the others. -/
theorem Settled.lookup_append {given others : List Given}
    {settings otherSettings : List (Key × Setting)} (h : Settled given settings)
    (hothers : Settled others otherSettings) (k : Key) :
    (settings ++ otherSettings).lookup k =
      ((given ++ others).lookup k).bind fun value? => Given.setting? (k, value?) := by
  rw [List.lookup_append, h.lookup, hothers.lookup, List.lookup_append]
  cases hk : given.lookup k with
  | none => simp
  | some value? =>
      obtain ⟨_, _, rfl, -⟩ := List.lookup_eq_some_iff.mp hk
      obtain ⟨x, hx⟩ := (exists_settled_iff.mp ⟨_, h⟩).2 (k, value?) (by simp)
      simp [hx]

/-! ### What settings come to -/

/-- The options that say how to run are told by what each one of them is set to. -/
theorem Options.of_congr {settings others : List (Key × Setting)}
    (h : ∀ k ∈ sharedLong.map Prod.snd, settings.lookup k = others.lookup k) :
    Options.of settings = Options.of others := by
  simp only [sharedLong, List.map_cons, List.map_nil, List.forall_mem_cons] at h
  simp only [Options.of, numberOf, textOf?, h]

/-- The options of a command. -/
def commandKeys (verb : Verb) : List Key :=
  (commandLong verb).map Prod.snd

/-- A command is told by what its own options are set to. -/
theorem commandOf_congr {verb : Verb} {settings others : List (Key × Setting)}
    (h : ∀ k ∈ commandKeys verb, settings.lookup k = others.lookup k) :
    commandOf verb settings = commandOf verb others := by
  cases verb with
  | workload =>
      simp only [commandKeys, commandLong, List.map_cons, List.map_nil, List.forall_mem_cons] at h
      simp only [commandOf, numberOf, h]
  | metrics =>
      simp only [commandKeys, commandLong, List.map_cons, List.map_nil, List.forall_mem_cons] at h
      simp only [commandOf, textOf?, h]
  | _ => rfl

end GeoBench.CommandLine
