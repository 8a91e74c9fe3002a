import GeoBench.Proofs.Deployment.VarEntries
import GeoBench.Proofs.Yaml.Keys
import Mathlib.Data.List.Nodup

/-!
# The places of the variables

The variables of a deployment are the mapping of a template with some keys set, and a data file
keeps the order of its entries. A key that the template has keeps its place and gets its value
there; the keys that it lacks come behind, in the order in which they are set; and every other entry
stays what it is and where it is. This needs that no key is there twice, which holds of all that was
read.

Set again, the same keys get other values in the same places. So variables that were made from
variables are those that the template gives, and no value of an earlier deployment is left.

## Keys that count as the same

A mapping may have keys that are no strings, and a key that is written as a number counts as another
key than the string of the same characters. The three keys that are set are strings, so entries
under other kinds of keys are never touched, however they are written.

## Reading back

What is read from variables that were made is told for variables that are read back at all: the text
of the value is read as the value (`ReadsBack`).

## Main results

* `setEntries_eq_inPlace` — where the keys stand after some were set.
* `setVars_setVars` — of two settings the last one counts.
* `vars_in_place` — what is read from variables that were made, and what becomes of them when they
  are made again.
-/

namespace GeoBench.Deployment

open GeoBench.Yaml GeoBench.Machine

variable {key other : String} {v w : Value} {es : List (Value × Value)}
  {settings : List (String × Value)}

/-! ### One key -/

/-- Whether a mapping **has** a key that is a string. -/
def HasKey (key : String) (es : List (Value × Value)) : Prop :=
  .string key ∈ es.map Prod.fst

instance (key : String) (es : List (Value × Value)) : Decidable (HasKey key es) :=
  inferInstanceAs (Decidable (_ ∈ _))

/-- A key is in a list of entries if it is that of the first one, or in the others. -/
theorem hasKey_cons {k : Value} :
    HasKey key ((k, v) :: es) ↔ .string key = k ∨ HasKey key es :=
  List.mem_cons

/-- An entry has another key than one that is not there. -/
theorem HasKey.ne_of_not {e : Value × Value} (h : ¬ HasKey key es) (he : e ∈ es) :
    e.1 ≠ .string key := by
  intro heq
  rw [HasKey, ← heq] at h
  exact h (List.mem_map_of_mem he)

/-- Setting an entry that comes first replaces its value. -/
theorem setEntry_cons_self : setEntry key v ((.string key, w) :: es) = (.string key, v) :: es := by
  rw [setEntry, if_pos (Value.same_string_iff.mpr rfl)]

/-- Setting an entry passes over the other ones. -/
theorem setEntry_cons_of_ne {k : Value} (h : .string key ≠ k) :
    setEntry key v ((k, w) :: es) = (k, w) :: setEntry key v es := by
  rw [setEntry, if_neg fun hsame => h (Value.same_string_iff.mp hsame).symm]

/-- A key that is lacking comes behind. -/
theorem setEntry_of_not_hasKey (h : ¬ HasKey key es) :
    setEntry key v es = es ++ [(.string key, v)] := by
  induction es with
  | nil => rfl
  | cons e es ih =>
      obtain ⟨k, w⟩ := e
      rw [hasKey_cons, not_or] at h
      rw [setEntry_cons_of_ne h.1, ih h.2, List.cons_append]

/-- A key that is there keeps its place, and every entry with another key stays. -/
theorem setEntry_of_hasKey (hdistinct : DistinctKeys es) (h : HasKey key es) :
    setEntry key v es = es.map fun e => if e.1 = .string key then (e.1, v) else e := by
  induction es with
  | nil => cases h
  | cons e es ih =>
      obtain ⟨k, w⟩ := e
      obtain ⟨hfirst, hrest⟩ := List.pairwise_cons.mp hdistinct
      rw [List.map_cons]
      by_cases hk : .string key = k
      · subst hk
        -- the key is not there again, so the others stay
        have hothers : ∀ e ∈ es, e.1 ≠ .string key := fun e he hkey =>
          hfirst e he (hkey ▸ Value.same_string_iff.mpr rfl)
        rw [setEntry_cons_self, if_pos rfl]
        refine congrArg _ ?_
        conv_lhs => rw [← List.map_id es]
        exact List.map_congr_left fun e he => (if_neg (hothers e he)).symm
      · rw [setEntry_cons_of_ne hk, if_neg (Ne.symm hk),
          ih hrest ((hasKey_cons.mp h).resolve_left hk)]

/-- The keys after one was set: it comes behind if it was lacking. -/
theorem keys_setEntry (key : String) (v : Value) (es : List (Value × Value)) :
    (setEntry key v es).map Prod.fst =
      es.map Prod.fst ++ if HasKey key es then [] else [.string key] := by
  induction es with
  | nil => rfl
  | cons e es ih =>
      obtain ⟨k, w⟩ := e
      by_cases hk : .string key = k
      · subst hk
        rw [setEntry_cons_self, if_pos (hasKey_cons.mpr (.inl rfl)), List.append_nil]
        rfl
      · rw [setEntry_cons_of_ne hk, List.map_cons, ih]
        simp only [hasKey_cons, hk, false_or, List.map_cons, List.cons_append]

/-- Setting an entry adds its key, and takes none away. -/
theorem hasKey_setEntry :
    HasKey other (setEntry key v es) ↔ HasKey other es ∨ other = key := by
  rw [HasKey, keys_setEntry, List.mem_append]
  by_cases h : HasKey key es
  · rw [if_pos h]
    constructor
    · exact fun hmem => .inl (hmem.resolve_right List.not_mem_nil)
    · rintro (hmem | rfl)
      · exact .inl hmem
      · exact .inl h
  · rw [if_neg h, List.mem_singleton, Value.string.injEq]
    rfl

/-- Keys that are distinct stay so when an entry is set. -/
theorem distinctKeys_setEntry (h : DistinctKeys es) : DistinctKeys (setEntry key v es) := by
  by_cases hkey : HasKey key es
  · rw [DistinctKeys, ← List.pairwise_map (f := Prod.fst) (R := fun a b => ¬ Value.same a b),
      keys_setEntry, if_pos hkey, List.append_nil]
    exact List.pairwise_map.mpr h
  · rw [setEntry_of_not_hasKey hkey]
    refine List.pairwise_append.mpr ⟨h, List.pairwise_singleton _ _, fun e he f hf => ?_⟩
    rw [List.mem_singleton.mp hf, Value.same_string_iff]
    exact HasKey.ne_of_not hkey he

/-- A key that is set twice has its last value. -/
theorem setEntry_setEntry (key : String) (v w : Value) (es : List (Value × Value)) :
    setEntry key v (setEntry key w es) = setEntry key v es := by
  induction es with
  | nil => exact setEntry_cons_self
  | cons e es ih =>
      obtain ⟨k, u⟩ := e
      by_cases hk : .string key = k
      · subst hk
        rw [setEntry_cons_self, setEntry_cons_self, setEntry_cons_self]
      · rw [setEntry_cons_of_ne hk, setEntry_cons_of_ne hk, setEntry_cons_of_ne hk, ih]

/-- A key that is there is set before another one or after it. -/
theorem setEntry_comm (hne : key ≠ other) (h : HasKey key es) :
    setEntry key v (setEntry other w es) = setEntry other w (setEntry key v es) := by
  induction es with
  | nil => cases h
  | cons e es ih =>
      obtain ⟨k, u⟩ := e
      by_cases hk : .string key = k
      · subst hk
        have hother : Value.string other ≠ .string key := fun heq =>
          hne (Value.string.inj heq).symm
        rw [setEntry_cons_of_ne hother, setEntry_cons_self, setEntry_cons_self,
          setEntry_cons_of_ne hother]
      · by_cases ho : .string other = k
        · subst ho
          rw [setEntry_cons_self, setEntry_cons_of_ne hk, setEntry_cons_of_ne hk,
            setEntry_cons_self]
        · rw [setEntry_cons_of_ne ho, setEntry_cons_of_ne hk, setEntry_cons_of_ne hk,
            setEntry_cons_of_ne ho, ih ((hasKey_cons.mp h).resolve_left hk)]

/-! ### Several keys -/

/-- A mapping with several keys **set**, one after the other. -/
def setEntries (settings : List (String × Value)) (es : List (Value × Value)) :
    List (Value × Value) :=
  settings.foldl (fun es e => setEntry e.1 e.2 es) es

/-- What a key is set to, if it is. -/
def settingOf? (settings : List (String × Value)) : Value → Option Value
  | .string key => settings.lookup key
  | _ => none

/-- A mapping with several keys set **in place**: each entry keeps its place, with its own value
unless its key is set, and the keys that are lacking come behind. -/
def inPlace (settings : List (String × Value)) (es : List (Value × Value)) :
    List (Value × Value) :=
  (es.map fun e => (e.1, (settingOf? settings e.1).getD e.2)) ++
    (settings.filter fun e => ¬ HasKey e.1 es).map fun e => (.string e.1, e.2)

/-- The first setting for a key is found first. -/
theorem settingOf?_cons_self : settingOf? ((key, v) :: settings) (.string key) = some v :=
  List.lookup_cons_self

/-- A setting for another key is passed over. -/
theorem settingOf?_cons_of_ne {k : Value} (h : k ≠ .string key) :
    settingOf? ((key, v) :: settings) k = settingOf? settings k := by
  cases k with
  | string other =>
      have hne : (other == key) = false := by simpa using h
      rw [settingOf?, settingOf?, List.lookup_cons, hne]
  | null | bool | number | sequence | mapping | tagged => rfl

/-- There is no setting for a key that none of them is for. -/
theorem settingOf?_of_notMem (h : key ∉ settings.map Prod.fst) :
    settingOf? settings (.string key) = none := by
  rw [settingOf?, List.lookup_eq_none_iff]
  intro e he
  rw [bne_iff_ne]
  rintro rfl
  exact h (List.mem_map_of_mem he)

/-- With no settings everything stays in place. -/
theorem inPlace_nil (es : List (Value × Value)) : inPlace [] es = es := by
  have hnone : ∀ k : Value, settingOf? [] k = none := fun k => by cases k <;> rfl
  have hsame : ∀ e ∈ es, (e.1, (settingOf? [] e.1).getD e.2) = id e := fun e _ => by
    rw [hnone]
    rfl
  rw [inPlace, List.map_congr_left hsame, List.map_id, List.filter_nil, List.map_nil,
    List.append_nil]

/-- One key is set first, and the others in place. -/
theorem inPlace_setEntry (hdistinct : DistinctKeys es) (hfresh : key ∉ settings.map Prod.fst) :
    inPlace settings (setEntry key v es) = inPlace ((key, v) :: settings) es := by
  -- the keys that are lacking are the same, but for the one that was set
  have hlacking : (settings.filter fun e => ¬ HasKey e.1 (setEntry key v es)) =
      settings.filter fun e => ¬ HasKey e.1 es := by
    refine List.filter_congr fun e he => ?_
    have hne : e.1 ≠ key := by
      rintro rfl
      exact hfresh (List.mem_map_of_mem he)
    simp only [hasKey_setEntry, hne, or_false]
  have hself := settingOf?_of_notMem hfresh
  rw [inPlace, inPlace, hlacking]
  by_cases h : HasKey key es
  · rw [setEntry_of_hasKey hdistinct h, List.map_map, List.filter_cons_of_neg (by simpa using h)]
    refine congrArg (· ++ _) (List.map_congr_left fun e _ => ?_)
    obtain ⟨k, w⟩ := e
    by_cases hk : k = .string key
    · subst hk
      rw [Function.comp_apply, if_pos rfl, hself, settingOf?_cons_self]
      rfl
    · rw [Function.comp_apply, if_neg hk, settingOf?_cons_of_ne hk]
  · rw [setEntry_of_not_hasKey h, List.filter_cons_of_pos (by simpa using h), List.map_append,
      List.map_cons, List.map_cons, hself, List.append_assoc]
    refine congrArg (· ++ _) (List.map_congr_left fun e he => ?_)
    rw [settingOf?_cons_of_ne (HasKey.ne_of_not h he)]

/-- **Keys that are set one after the other** stand in place. -/
theorem setEntries_eq_inPlace (hdistinct : DistinctKeys es)
    (hkeys : (settings.map Prod.fst).Nodup) : setEntries settings es = inPlace settings es := by
  induction settings generalizing es with
  | nil => exact (inPlace_nil es).symm
  | cons e settings ih =>
      obtain ⟨key, v⟩ := e
      obtain ⟨hfresh, hrest⟩ := List.nodup_cons.mp hkeys
      rw [← inPlace_setEntry hdistinct hfresh, ← ih (distinctKeys_setEntry hdistinct) hrest]
      rfl

/-- A key that is there is set before some others or after them. -/
theorem setEntry_setEntries (hfresh : key ∉ settings.map Prod.fst) (h : HasKey key es) :
    setEntry key v (setEntries settings es) = setEntries settings (setEntry key v es) := by
  induction settings generalizing es with
  | nil => rfl
  | cons e settings ih =>
      rw [List.map_cons, List.mem_cons, not_or] at hfresh
      have hthere : HasKey key (setEntry e.1 e.2 es) := hasKey_setEntry.mpr (.inl h)
      calc setEntry key v (setEntries settings (setEntry e.1 e.2 es))
          = setEntries settings (setEntry key v (setEntry e.1 e.2 es)) := ih hfresh.2 hthere
        _ = setEntries settings (setEntry e.1 e.2 (setEntry key v es)) := by
            rw [setEntry_comm hfresh.1 h]

/-- **Of two settings of the same keys** the last one counts. -/
theorem setEntries_setEntries {first last : List (String × Value)}
    (hkeys : (first.map Prod.fst).Nodup) (hsame : first.map Prod.fst = last.map Prod.fst) :
    setEntries last (setEntries first es) = setEntries last es := by
  induction last generalizing first es with
  | nil =>
      obtain rfl := List.map_eq_nil_iff.mp hsame
      rfl
  | cons e last ih =>
      obtain ⟨key, v⟩ := e
      cases first with
      | nil => cases hsame
      | cons e first =>
          obtain ⟨key', w⟩ := e
          obtain ⟨hkey, hothers⟩ := List.cons.inj hsame
          obtain rfl : key' = key := hkey
          obtain ⟨hfresh, hrest⟩ := List.nodup_cons.mp hkeys
          have hthere : HasKey key' (setEntry key' w es) := hasKey_setEntry.mpr (.inr rfl)
          calc setEntries last (setEntry key' v (setEntries first (setEntry key' w es)))
              = setEntries last (setEntries first (setEntry key' v (setEntry key' w es))) := by
                rw [setEntry_setEntries hfresh hthere]
            _ = setEntries last (setEntries first (setEntry key' v es)) := by
                rw [setEntry_setEntry]
            _ = setEntries last (setEntry key' v es) := ih hrest hothers

/-! ### The variables -/

/-- The keys that are set, in order, with their values. -/
def VarSetting.entries (s : VarSetting) : List (String × Value) :=
  [("base_dir", .string s.baseDir), ("workload_timestamp", optionalText s.timestamp?),
    ("deployment_type", optionalText (s.site?.map Site.name))]

/-- The variables are set under different keys. -/
theorem nodup_keys_entries (s : VarSetting) : (s.entries.map Prod.fst).Nodup := by
  show ["base_dir", "workload_timestamp", "deployment_type"].Nodup
  decide

/-- Of two settings the last one counts. -/
theorem setVars_setVars (first last : VarSetting) (es : List (Value × Value)) :
    setVars last (setVars first es) = setVars last es := by
  have hsame : first.entries.map Prod.fst = last.entries.map Prod.fst := rfl
  exact setEntries_setEntries (nodup_keys_entries first) hsame

/-- The entries of a template that has no tag: those of a mapping, or none if there is no value. -/
def rootEntries? : Value → Option (List (Value × Value))
  | .mapping es => some es
  | .null => some []
  | _ => none

/-- Variables at the root are set there. -/
theorem varsOf_of_rootEntries? (s : VarSetting) (h : rootEntries? v = some es) :
    varsOf s v = .ok (.mapping (setVars s es)) := by
  cases v with
  | mapping es' =>
      obtain rfl := Option.some.inj h
      rfl
  | null =>
      obtain rfl := Option.some.inj h
      rfl
  | bool | number | string | sequence | tagged => cases h

/-- A document that is no mapping is refused. -/
theorem varsOf_of_other (s : VarSetting) (h : rootEntries? v = none)
    (htag : ∀ tag w, v ≠ .tagged tag w) : varsOf s v = .error .notAMapping := by
  cases v with
  | mapping | null => cases h
  | tagged tag w => exact absurd rfl (htag tag w)
  | bool | number | string | sequence => rfl

/-- Entries of a template that was read have distinct keys. -/
theorem distinctKeys_of_rootEntries? {template : String} (hread : Document.read template = .ok v)
    (h : rootEntries? v = some es) : DistinctKeys es := by
  cases v with
  | mapping es' =>
      obtain rfl := Option.some.inj h
      exact Document.distinctKeys_of_read hread
  | null =>
      obtain rfl := Option.some.inj h
      exact List.Pairwise.nil
  | bool | number | string | sequence | tagged => cases h

/-- A template that is read is rendered from its variables. -/
theorem renderVars_of_read {template : String} (hread : Document.read template = .ok v)
    (s : VarSetting) : renderVars template s = (varsOf s v).map Value.render := by
  rw [renderVars, hread]
  cases hvars : varsOf s v <;> simp [Except.mapError, hvars, bind, Except.bind, Except.map, pure,
    Except.pure]

/-- **The variables stand in place**, and the last setting wins. From a mapping, or from no value at
all, the variables are made with every other entry in its place, and a setting is replaced by the
next one when they are made again. From any other value without a tag there are none. -/
theorem vars_in_place {template : String} (hread : Document.read template = .ok v)
    (s : VarSetting) :
    (∀ es, rootEntries? v = some es → ∃ text, renderVars template s = .ok text ∧
      (ReadsBack (.mapping (inPlace s.entries es)) →
        Document.read text = .ok (.mapping (inPlace s.entries es)) ∧
        ∀ last, ∃ text', renderVars text last = .ok text' ∧
          renderVars template last = .ok text')) ∧
    (rootEntries? v = none → (∀ tag w, v ≠ .tagged tag w) →
      renderVars template s = .error .notAMapping) := by
  constructor
  · intro es hes
    have hplaced : setVars s es = inPlace s.entries es :=
      setEntries_eq_inPlace (distinctKeys_of_rootEntries? hread hes) (nodup_keys_entries s)
    have hrender : ∀ last, renderVars template last =
        .ok (Value.render (.mapping (setVars last es))) := by
      intro last
      rw [renderVars_of_read hread, varsOf_of_rootEntries? last hes]
      rfl
    refine ⟨_, hrender s, fun hback => ?_⟩
    rw [← hplaced] at hback ⊢
    refine ⟨hback, fun last => ⟨_, ?_, hrender last⟩⟩
    rw [renderVars_of_read hback, varsOf_of_rootEntries? last rfl, setVars_setVars]
    rfl
  · intro hother htag
    rw [renderVars_of_read hread, varsOf_of_other s hother htag]
    rfl

/-- A template that has one of the keys, behind an entry of its own. -/
def zoneTemplate : String :=
  "zone: eu\nbase_dir: null\n"

/-- A time stamp that a plain scalar would take for a number. -/
def numberedRun : VarSetting :=
  { baseDir := "/srv/dsb", timestamp? := some "12", site? := none }

/-- The variables of that run, from a template with a mapping and from one with a number. -/
theorem vars_in_place_numbered :
    ∃ text, renderVars zoneTemplate numberedRun = .ok text ∧
      Document.read text = .ok (.mapping [(.string "zone", .string "eu"),
        (.string "base_dir", .string "/srv/dsb"), (.string "workload_timestamp", .string "12"),
        (.string "deployment_type", .null)]) ∧
      renderVars text { numberedRun with timestamp? := none } =
        renderVars zoneTemplate { numberedRun with timestamp? := none } ∧
      renderVars "12" numberedRun = .error .notAMapping := by
  have hread : Document.read zoneTemplate =
      .ok (.mapping [(.string "zone", .string "eu"), (.string "base_dir", .null)]) := by
    decide +kernel
  have hback : ReadsBack (.mapping (inPlace numberedRun.entries
      [(.string "zone", .string "eu"), (.string "base_dir", .null)])) := by
    unfold ReadsBack
    decide +kernel
  have hnumber : Document.read "12" = .ok (.number (.whole 12)) := by decide +kernel
  obtain ⟨text, hrender, hplaced⟩ := (vars_in_place hread numberedRun).1 _ rfl
  obtain ⟨hvars, hagain⟩ := hplaced hback
  obtain ⟨text', hlast, htemplate⟩ := hagain { numberedRun with timestamp? := none }
  refine ⟨text, hrender, ?_, hlast.trans htemplate.symm,
    (vars_in_place hnumber numberedRun).2 rfl nofun⟩
  rw [hvars]
  decide +kernel

end GeoBench.Deployment
