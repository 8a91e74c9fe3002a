import GeoBench.Deployment.Procedures

/-!
# The registry of commands

Which procedure a verb stands for depends on the target. The registry holds a procedure for every
pair that is supported; a pair without one is refused before anything is done.

## A map without an order

The registry is a map from pairs to what is registered for them: a pair has one entry at most, and a
registration takes the place of an earlier one for the same pair. Such a map gives its keys in an
order of its own that nobody can rely on. A listing therefore collects the keys in **some** order
and sorts them; that the order of collection does not matter is a theorem about the sort
(`Registry.listing_eq_of_perm`), not a property of the way in which the entries are kept here.

## Main results

* `Registry.resolve_register_self`, `Registry.resolve_register_of_ne` — the last registration of a
  pair counts, and no other pair's.
* `Registry.listing_eq_of_perm` — a listing does not depend on the order in which keys are
  collected.
-/

namespace GeoBench

open GeoBench.Machine GeoBench.Deployment

/-- What is **registered** for which target and verb. -/
structure Registry (α : Type) where
  entries : List ((Site × Verb) × α)
  /-- No pair has two entries. -/
  distinct : (entries.map Prod.fst).Nodup

namespace Registry

variable {α : Type}

/-- A registry with nothing in it. -/
def empty : Registry α := ⟨[], List.nodup_nil⟩

/-- The entries for other pairs than this one. -/
def others (entries : List ((Site × Verb) × α)) (pair : Site × Verb) :
    List ((Site × Verb) × α) :=
  entries.filter fun e => e.1 != pair

/-- No other entry is for this pair. -/
theorem notMem_map_others (entries : List ((Site × Verb) × α)) (pair : Site × Verb) :
    pair ∉ (others entries pair).map Prod.fst := by
  intro h
  obtain ⟨e, he, hpair⟩ := List.mem_map.mp h
  have hne : e.1 ≠ pair := by simpa using (List.mem_filter.mp he).2
  exact hne hpair

/-- One more registration; it takes the place of an earlier one for the same pair. -/
def register (r : Registry α) (site : Site) (verb : Verb) (entry : α) : Registry α where
  entries := ((site, verb), entry) :: others r.entries (site, verb)
  distinct := List.nodup_cons.mpr ⟨notMem_map_others _ _,
    r.distinct.sublist (List.filter_sublist.map Prod.fst)⟩

/-- What is registered for a pair. -/
def find? (r : Registry α) (site : Site) (verb : Verb) : Option α :=
  r.entries.lookup (site, verb)

/-- What is registered for a pair; there has to be something. -/
def resolve (r : Registry α) (site : Site) (verb : Verb) : Except ConfigFault α :=
  match r.find? site verb with
  | some entry => .ok entry
  | none => .error (.unsupported verb.name site.name)

/-! ### The listing of the verbs -/

/-- The **keys**: the pairs that something is registered for, in the order of the entries. -/
def keys (r : Registry α) : List (Site × Verb) :=
  r.entries.map Prod.fst

/-- The verbs for a target among some keys, in the order in which the keys are collected. -/
def collected (keys : List (Site × Verb)) (site : Site) : List Verb :=
  (keys.filter fun pair => pair.1 == site).map Prod.snd

/-- The **listing** for a target from keys that were collected in some order: the verbs among them,
sorted. -/
def listing (keys : List (Site × Verb)) (site : Site) : List Verb :=
  (collected keys site).mergeSort

/-- The verbs that something is registered for, in the order of their declaration. -/
def verbsFor (r : Registry α) (site : Site) : List Verb :=
  listing r.keys site

/-- A listing only reorders what was collected. -/
theorem listing_perm (keys : List (Site × Verb)) (site : Site) :
    (listing keys site).Perm (collected keys site) :=
  List.mergeSort_perm _ _

/-- A listing is in the order of the declaration. -/
theorem pairwise_le_listing (keys : List (Site × Verb)) (site : Site) :
    (listing keys site).Pairwise (· ≤ ·) := by
  have htrans : ∀ u v w : Verb, decide (u ≤ v) = true → decide (v ≤ w) = true →
      decide (u ≤ w) = true := fun u v w huv hvw =>
    decide_eq_true (Nat.le_trans (of_decide_eq_true huv) (of_decide_eq_true hvw))
  have htotal : ∀ v w : Verb, (decide (v ≤ w) || decide (w ≤ v)) = true := fun v w => by
    rw [Bool.or_eq_true, decide_eq_true_eq, decide_eq_true_eq]
    exact Nat.le_total v.ctorIdx w.ctorIdx
  exact (List.pairwise_mergeSort htrans htotal (collected keys site)).imp of_decide_eq_true

/-- **In whatever order the keys are collected**, the listing is the same. -/
theorem listing_eq_of_perm {keys keys' : List (Site × Verb)} (h : keys.Perm keys') (site : Site) :
    listing keys site = listing keys' site := by
  have hcollected : (collected keys site).Perm (collected keys' site) := (h.filter _).map _
  have hperm : (listing keys site).Perm (listing keys' site) :=
    (listing_perm keys site).trans (hcollected.trans (listing_perm keys' site).symm)
  exact hperm.eq_of_pairwise (fun v w _ _ hvw hwv => Verb.eq_of_le_of_ge hvw hwv)
    (pairwise_le_listing keys site) (pairwise_le_listing keys' site)

/-! ### Registrations -/

/-- The entries for other pairs are looked up as before. -/
theorem lookup_others {entries : List ((Site × Verb) × α)} {pair other : Site × Verb}
    (h : other ≠ pair) : (others entries pair).lookup other = entries.lookup other := by
  induction entries with
  | nil => rfl
  | cons e entries ih =>
      obtain ⟨key, entry⟩ := e
      by_cases hkey : key = pair
      · have hother : (other == key) = false := by simpa [hkey] using h
        have hdropped : (key != pair) = false := by simpa using hkey
        simpa [others, List.filter_cons, hdropped, List.lookup_cons, hother] using ih
      · have hkept : (key != pair) = true := by simpa using hkey
        rw [others, List.filter_cons, if_pos hkept, List.lookup_cons, List.lookup_cons]
        split
        · rfl
        · exact ih

/-- The last registration of a pair counts. -/
theorem resolve_register_self (r : Registry α) (site : Site) (verb : Verb) (entry : α) :
    (r.register site verb entry).resolve site verb = .ok entry := by
  simp [resolve, find?, register]

/-- A registration changes no other pair. -/
theorem resolve_register_of_ne (r : Registry α) {site site' : Site} {verb verb' : Verb}
    (entry : α) (h : (site', verb') ≠ (site, verb)) :
    (r.register site verb entry).resolve site' verb' = r.resolve site' verb' := by
  have : ((site', verb') == (site, verb)) = false := by simpa using h
  simp [resolve, find?, register, List.lookup_cons, this, lookup_others h]

/-- Every command that the manager supports. -/
def standard : Registry Procedure :=
  ([(Site.cloud, Verb.configure, Procedure.configure),
    (.cloud, .deploy, .deploy),
    (.cloud, .start, .start),
    (.cloud, .stop, .stop),
    (.cloud, .restart, .restart),
    (.cloud, .clean, .clean),
    (.cloud, .info, .info),
    (.cloud, .initSocialGraph, .cloudSocialGraph),
    (.cloud, .workload, .cloudWorkload),
    (.cloud, .metrics, .cloudMetrics),
    (.localhost, .storageBuild, .storageBuild),
    (.localhost, .storageDeploy, .nothing),
    (.localhost, .storageRun, .storageRun),
    (.localhost, .storageInfo, .nothing),
    (.localhost, .storageClean, .storageClean),
    (.localhost, .initSocialGraph, .localSocialGraph),
    (.localhost, .workload, .localWorkload),
    (.localhost, .metrics, .localMetrics)] : List (Site × Verb × Procedure)).foldl
    (fun r (site, verb, procedure) => r.register site verb procedure) empty

/-- A command is **dispatched**: the procedure for it and the target is carried out. -/
def dispatch {σ : Type} (r : Registry Procedure) (ctx : Context σ) (command : Command) :
    Session σ CommandFault Unit :=
  match r.resolve ctx.config.site command.verb with
  | .ok procedure => procedure.perform ctx command
  | .error fault => throw (.config fault)

end Registry

end GeoBench
