import GeoBench.Registry
import Mathlib.Data.List.Induction
import Mathlib.Data.List.Nodup
import Mathlib.Data.List.Perm.Basic
import Mathlib.Tactic.Common

/-!
# Histories of registrations

A registry is made by one registration after another. Three things are asked of it: what is
registered for a pair of a target and a verb, which verbs something is registered for, and what a
command does. All three are told by the registrations in their order: the last one for exactly the
pair counts, and nothing else does.

What is registered may be of any kind; a way to carry it out is a parameter, and the procedures of
the manager are one case of it.

## What a registry remembers

A registry does not remember its history: a registration that was replaced has left no entry. Its
own entries, in whatever order, therefore stand for what was registered before the history that a
theorem is about; no two of them are for the same pair, so each is the last one for its pair. The
listing is told of **any** list of the keys in any order, since a map of this kind gives them in an
order of its own.

## Main results

* `Registry.find?_after` — the last registration counts, by induction on the history.
* `Registry.pairwise_listing`, `Registry.mem_listing` — the listing of the verbs, whatever the order
  of the keys.
* `Registry.history_law` — a registry after any history of registrations.
-/

namespace GeoBench

open GeoBench.Machine GeoBench.Deployment

namespace Registry

variable {α : Type} {pair : Site × Verb} {entry : α}

/-! ### Histories -/

/-- A registry **after** some more registrations, in their order. -/
def after (r : Registry α) (history : List ((Site × Verb) × α)) : Registry α :=
  history.foldl (fun r e => r.register e.1.1 e.1.2 e.2) r

/-- The **registrations** that a registry stands for: its entries, none of which takes the place of
another one. -/
def registrations (r : Registry α) : List ((Site × Verb) × α) :=
  r.entries

/-- The **last** registration for a pair: none that follows is for the same pair. -/
def LastFor (pair : Site × Verb) (entry : α) (history : List ((Site × Verb) × α)) : Prop :=
  ∃ before behind, history = before ++ (pair, entry) :: behind ∧ ∀ e ∈ behind, e.1 ≠ pair

/-- No registration is for a pair. -/
def NoneFor (pair : Site × Verb) (history : List ((Site × Verb) × α)) : Prop :=
  ∀ e ∈ history, e.1 ≠ pair

/-- Nothing is registered at first. -/
@[simp] theorem registrations_empty : (empty : Registry α).registrations = [] := rfl

/-- The registrations of a history are made one by one. -/
theorem after_concat (r : Registry α) (history : List ((Site × Verb) × α))
    (e : (Site × Verb) × α) :
    r.after (history ++ [e]) = (r.after history).register e.1.1 e.1.2 e.2 :=
  List.foldl_append

/-- No registration is for a pair if none was before and one more is for another pair. -/
theorem noneFor_concat {history : List ((Site × Verb) × α)} {e : (Site × Verb) × α} :
    NoneFor pair (history ++ [e]) ↔ e.1 ≠ pair ∧ NoneFor pair history := by
  rw [NoneFor, List.forall_mem_append, List.forall_mem_singleton, and_comm, NoneFor]

/-- One more registration is the last one for its own pair, and changes no other. -/
theorem lastFor_concat {history : List ((Site × Verb) × α)} {e : (Site × Verb) × α} :
    LastFor pair entry (history ++ [e]) ↔
      e = (pair, entry) ∨ e.1 ≠ pair ∧ LastFor pair entry history := by
  constructor
  · rintro ⟨before, behind, hsplit, hother⟩
    rcases List.eq_nil_or_concat behind with rfl | ⟨init, last, rfl⟩
    · obtain ⟨-, hlast⟩ := List.append_inj' hsplit rfl
      exact .inl (List.cons.inj hlast).1
    · rw [List.concat_eq_append, ← List.cons_append, ← List.append_assoc] at hsplit
      obtain ⟨rfl, hlast⟩ := List.append_inj' hsplit rfl
      obtain rfl := (List.cons.inj hlast).1
      rw [List.concat_eq_append] at hother
      refine .inr ⟨hother e (List.mem_append_right _ List.mem_cons_self), before, init, rfl, ?_⟩
      exact fun e' he' => hother e' (List.mem_append_left _ he')
  · rintro (rfl | ⟨hne, before, behind, rfl, hother⟩)
    · exact ⟨history, [], rfl, nofun⟩
    · refine ⟨before, behind ++ [e], by rw [List.append_assoc, List.cons_append], ?_⟩
      intro e' he'
      rcases List.mem_append.mp he' with he' | he'
      · exact hother e' he'
      · rwa [List.mem_singleton.mp he']

/-! ### What is registered -/

/-- Among entries for different pairs, each is the last one for its pair. -/
theorem lastFor_iff_mem {entries : List ((Site × Verb) × α)}
    (h : (entries.map Prod.fst).Nodup) : LastFor pair entry entries ↔ (pair, entry) ∈ entries := by
  constructor
  · rintro ⟨before, behind, rfl, -⟩
    exact List.mem_append_right _ List.mem_cons_self
  · intro hmem
    obtain ⟨before, behind, rfl⟩ := List.append_of_mem hmem
    refine ⟨before, behind, rfl, fun e he hpair => ?_⟩
    rw [List.map_append, List.map_cons] at h
    have hnotMem : pair ∉ behind.map Prod.fst :=
      (List.nodup_cons.mp (List.nodup_append.mp h).2.1).1
    exact hnotMem (hpair ▸ List.mem_map_of_mem he)

/-- An entry is found by its pair, if no other entry is for this pair. -/
theorem lookup_eq_some_iff_mem {entries : List ((Site × Verb) × α)}
    (h : (entries.map Prod.fst).Nodup) :
    entries.lookup pair = some entry ↔ (pair, entry) ∈ entries := by
  induction entries with
  | nil => exact iff_of_false nofun List.not_mem_nil
  | cons e entries ih =>
      obtain ⟨key, entry'⟩ := e
      obtain ⟨hfresh, hrest⟩ := List.nodup_cons.mp h
      rw [List.lookup_cons, List.mem_cons]
      by_cases hkey : pair = key
      · subst hkey
        have hnot : (pair, entry) ∉ entries := fun hmem =>
          hfresh (List.mem_map.mpr ⟨_, hmem, rfl⟩)
        simp [hnot, eq_comm]
      · have hbeq : (pair == key) = false := by simpa using hkey
        simp [hbeq, ih hrest, hkey]

/-- A registration is found for its own pair, and changes what is found for no other. -/
theorem find?_register (r : Registry α) (e : (Site × Verb) × α) (site : Site) (verb : Verb) :
    (r.register e.1.1 e.1.2 e.2).find? site verb =
      if e.1 = (site, verb) then some e.2 else r.find? site verb := by
  obtain ⟨⟨site', verb'⟩, entry⟩ := e
  rw [find?, register, List.lookup_cons]
  by_cases hpair : (site', verb') = (site, verb)
  · simp [hpair]
  · have hbeq : ((site, verb) == (site', verb')) = false := by simpa using Ne.symm hpair
    rw [hbeq, if_neg hpair]
    exact lookup_others (Ne.symm hpair)

/-- **What is found** for a pair is what was registered for it last. The induction is on the
history, from its end: one more registration is the last one for its pair. -/
theorem find?_after (r : Registry α) (history : List ((Site × Verb) × α)) {site : Site}
    {verb : Verb} : (r.after history).find? site verb = some entry ↔
      LastFor (site, verb) entry (r.registrations ++ history) := by
  induction history using List.reverseRecOn with
  | nil =>
      rw [List.append_nil, registrations, lastFor_iff_mem r.distinct]
      exact lookup_eq_some_iff_mem r.distinct
  | append_singleton history e ih =>
      rw [after_concat, find?_register, ← List.append_assoc, lastFor_concat, ← ih]
      by_cases hpair : e.1 = (site, verb)
      · obtain ⟨_, entry'⟩ := e
        subst hpair
        simp
      · have hne : e ≠ ((site, verb), entry) := fun he => hpair (congrArg Prod.fst he)
        simp [hpair, hne]

/-- Nothing is found for a pair exactly when nothing was registered for it. -/
theorem find?_after_eq_none_iff (r : Registry α) (history : List ((Site × Verb) × α))
    {site : Site} {verb : Verb} : (r.after history).find? site verb = none ↔
      NoneFor (site, verb) (r.registrations ++ history) := by
  induction history using List.reverseRecOn with
  | nil =>
      show r.entries.lookup (site, verb) = none ↔ _
      rw [List.append_nil, List.lookup_eq_none_iff, NoneFor, registrations]
      simp only [bne_iff_ne, ne_comm]
  | append_singleton history e ih =>
      rw [after_concat, find?_register, ← List.append_assoc, noneFor_concat, ← ih]
      by_cases hpair : e.1 = (site, verb) <;> simp [hpair]

/-- What is found is what the pair is resolved to. -/
theorem resolve_eq_ok_iff {r : Registry α} {site : Site} {verb : Verb} :
    r.resolve site verb = .ok entry ↔ r.find? site verb = some entry := by
  rw [resolve]
  cases r.find? site verb <;> simp

/-- A pair without a registration is **not supported**. -/
theorem resolve_after_of_noneFor {r : Registry α} {history : List ((Site × Verb) × α)}
    {site : Site} {verb : Verb} (h : NoneFor (site, verb) (r.registrations ++ history)) :
    (r.after history).resolve site verb = .error (.unsupported verb.name site.name) := by
  rw [resolve, (find?_after_eq_none_iff r history).mpr h]

/-! ### The listing of the verbs -/

/-- A pair is among the keys exactly if something is registered for it. -/
theorem mem_keys {r : Registry α} {site : Site} {verb : Verb} :
    (site, verb) ∈ r.keys ↔ ∃ entry, r.resolve site verb = .ok entry := by
  simp only [resolve_eq_ok_iff, find?, lookup_eq_some_iff_mem r.distinct, keys, List.mem_map,
    Prod.exists, exists_and_right, exists_eq_right]

/-- A verb is collected for a target exactly if the pair is among the keys. -/
theorem mem_collected {keys : List (Site × Verb)} {site : Site} {verb : Verb} :
    verb ∈ collected keys site ↔ (site, verb) ∈ keys := by
  simp [collected]

/-- No verb is collected twice from different keys. -/
theorem nodup_collected {keys : List (Site × Verb)} (h : keys.Nodup) (site : Site) :
    (collected keys site).Nodup := by
  refine List.Nodup.map_on ?_ (h.filter _)
  rintro ⟨site₁, verb₁⟩ h₁ ⟨site₂, verb₂⟩ h₂ rfl
  have hsite₁ : site₁ = site := by simpa using (List.mem_filter.mp h₁).2
  have hsite₂ : site₂ = site := by simpa using (List.mem_filter.mp h₂).2
  rw [hsite₁, hsite₂]

/-- Some keys **enumerate** a registry: they are the pairs that something is registered for, each
of them once, in whatever order. -/
structure Enumerates (keys : List (Site × Verb)) (r : Registry α) : Prop where
  nodup : keys.Nodup
  mem_iff : ∀ site verb, (site, verb) ∈ keys ↔ ∃ entry, r.resolve site verb = .ok entry

/-- The keys in the order of the entries enumerate a registry. -/
theorem enumerates_keys (r : Registry α) : Enumerates r.keys r :=
  ⟨r.distinct, fun _ _ => mem_keys⟩

/-- Two enumerations of a registry differ in their order only. -/
theorem Enumerates.perm {keys keys' : List (Site × Verb)} {r : Registry α}
    (h : Enumerates keys r) (h' : Enumerates keys' r) : keys.Perm keys' :=
  (List.perm_ext_iff_of_nodup h.nodup h'.nodup).mpr fun ⟨site, verb⟩ =>
    (h.mem_iff site verb).trans (h'.mem_iff site verb).symm

section

variable {keys : List (Site × Verb)} {r : Registry α} (h : Enumerates keys r)
include h

/-- No verb is listed twice, in whatever order the keys are collected. -/
theorem nodup_listing (site : Site) : (listing keys site).Nodup :=
  (listing_perm keys site).nodup_iff.mpr (nodup_collected h.nodup site)

/-- **The listing** is strictly in the order in which verbs are declared, in whatever order the
keys are collected. -/
theorem pairwise_listing (site : Site) :
    (listing keys site).Pairwise fun v w => v.ctorIdx < w.ctorIdx := by
  have hne : (listing keys site).Pairwise (· ≠ ·) :=
    List.nodup_iff_pairwise_ne.mp (nodup_listing h site)
  refine ((pairwise_le_listing keys site).and hne).imp ?_
  rintro v w ⟨hle, hvw⟩
  exact Nat.lt_of_not_ge fun hge => hvw (Verb.eq_of_le_of_ge hle hge)

/-- The verbs that are listed are those that something is registered for. -/
theorem mem_listing {site : Site} {verb : Verb} :
    verb ∈ listing keys site ↔ ∃ entry, r.resolve site verb = .ok entry := by
  rw [(listing_perm keys site).mem_iff, mem_collected, h.mem_iff]

/-- The listing from any enumeration is the listing of the registry. -/
theorem listing_eq_verbsFor (site : Site) : listing keys site = r.verbsFor site :=
  listing_eq_of_perm (h.perm (enumerates_keys r)) site

end

example : standard.verbsFor .localhost =
    [.storageBuild, .storageDeploy, .storageRun, .storageInfo, .storageClean, .initSocialGraph,
      .workload, .metrics] := by
  cbv

/-- In whatever order something is registered, the listing is the same. -/
theorem verbsFor_after_perm (r : Registry α) {history history' : List ((Site × Verb) × α)}
    (h : history.Perm history') (site : Site) :
    (r.after history).verbsFor site = (r.after history').verbsFor site := by
  have hnone : ∀ site verb, (r.after history).find? site verb = none ↔
      (r.after history').find? site verb = none := by
    intro site verb
    rw [find?_after_eq_none_iff, find?_after_eq_none_iff]
    exact forall_congr' fun e => imp_congr_left (h.append_left _).mem_iff
  have hkeys : Enumerates (r.after history).keys (r.after history') := by
    refine ⟨(r.after history).distinct, fun site verb => mem_keys.trans ?_⟩
    simp only [resolve_eq_ok_iff, ← Option.ne_none_iff_exists', ne_eq, hnone]
  exact listing_eq_verbsFor hkeys site

/-! ### Dispatch -/

section

variable {σ : Type}

/-- A command is dispatched to **whatever is registered** for it and the target, given a way to
carry that out. -/
def dispatchBy (carryOut : α → Context σ → Command → Session σ CommandFault Unit) (r : Registry α)
    (ctx : Context σ) (command : Command) : Session σ CommandFault Unit :=
  match r.resolve ctx.config.site command.verb with
  | .ok entry => carryOut entry ctx command
  | .error fault => throw (.config fault)

/-- The manager dispatches to procedures. -/
theorem dispatch_eq_dispatchBy (r : Registry Procedure) (ctx : Context σ) (command : Command) :
    r.dispatch ctx command = r.dispatchBy Procedure.perform ctx command := by
  rw [dispatch, dispatchBy]
  cases r.resolve ctx.config.site command.verb <;> rfl

variable {r : Registry α} {carryOut : α → Context σ → Command → Session σ CommandFault Unit}
  {ctx : Context σ} {command : Command}

/-- A command does exactly what its pair is resolved to. -/
theorem dispatchBy_of_resolve (h : r.resolve ctx.config.site command.verb = .ok entry) :
    r.dispatchBy carryOut ctx command = carryOut entry ctx command := by
  rw [dispatchBy, h]

/-- A command whose pair is not resolved is refused in the world as it is. -/
theorem run_dispatchBy_of_resolve {fault : ConfigFault}
    (h : r.resolve ctx.config.site command.verb = .error fault) (w : World σ) :
    (r.dispatchBy carryOut ctx command).run w = (.error (.config fault), w) := by
  rw [dispatchBy, h]
  rfl

end

/-- **A registry after any history of registrations**, whatever it began with. For each pair the
last registration counts, and a pair without one is not supported. The listing for a target, from
the keys **in whatever order they are collected**, follows the declaration of the verbs, names
exactly those that something is registered for, and is the one listing of the registry; nor does it
depend on the order of the registrations. A command does what was registered last for it, whatever
kind of thing that is, and is refused without a trace if there is nothing. -/
theorem history_law (start : Registry α) (history : List ((Site × Verb) × α)) :
    (∀ site verb,
      (∀ entry, (start.after history).resolve site verb = .ok entry ↔
        LastFor (site, verb) entry (start.registrations ++ history)) ∧
      (NoneFor (site, verb) (start.registrations ++ history) →
        (start.after history).resolve site verb =
          .error (.unsupported verb.name site.name))) ∧
    (∀ keys, Enumerates keys (start.after history) → ∀ site,
      (listing keys site).Pairwise (fun v w => v.ctorIdx < w.ctorIdx) ∧
      (listing keys site).Nodup ∧
      (∀ verb, verb ∈ listing keys site ↔
        ∃ entry, (start.after history).resolve site verb = .ok entry) ∧
      listing keys site = (start.after history).verbsFor site) ∧
    (∀ site,
      ((start.after history).verbsFor site).Pairwise (fun v w => v.ctorIdx < w.ctorIdx) ∧
      ((start.after history).verbsFor site).Nodup ∧
      (∀ verb, verb ∈ (start.after history).verbsFor site ↔
        ∃ entry, (start.after history).resolve site verb = .ok entry) ∧
      ∀ history', history.Perm history' →
        (start.after history').verbsFor site = (start.after history).verbsFor site) ∧
    (∀ {σ : Type} (carryOut : α → Context σ → Command → Session σ CommandFault Unit)
        (ctx : Context σ) (command : Command),
      (∀ entry, LastFor (ctx.config.site, command.verb) entry (start.registrations ++ history) →
        (start.after history).dispatchBy carryOut ctx command = carryOut entry ctx command) ∧
      (NoneFor (ctx.config.site, command.verb) (start.registrations ++ history) →
        ∀ w, ((start.after history).dispatchBy carryOut ctx command).run w =
          (.error (.config (.unsupported command.verb.name ctx.config.site.name)), w))) ∧
    ∀ {σ : Type} (r : Registry Procedure) (ctx : Context σ) (command : Command),
      r.dispatch ctx command = r.dispatchBy Procedure.perform ctx command := by
  have hkeys : Enumerates (start.after history).keys (start.after history) := enumerates_keys _
  refine ⟨fun site verb => ⟨fun entry => ?_, resolve_after_of_noneFor⟩,
    fun keys h site => ⟨pairwise_listing h site, nodup_listing h site, fun verb => mem_listing h,
      listing_eq_verbsFor h site⟩,
    fun site => ⟨pairwise_listing hkeys site, nodup_listing hkeys site,
      fun verb => mem_listing hkeys,
      fun history' hperm => (verbsFor_after_perm start hperm site).symm⟩,
    fun carryOut ctx command => ⟨fun entry hlast => ?_, fun hnone => ?_⟩, dispatch_eq_dispatchBy⟩
  · rw [resolve_eq_ok_iff, find?_after]
  · exact dispatchBy_of_resolve (resolve_eq_ok_iff.mpr ((find?_after start history).mpr hlast))
  · exact run_dispatchBy_of_resolve (resolve_after_of_noneFor hnone)

end Registry

end GeoBench
