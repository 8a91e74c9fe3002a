import GeoBench.Deployment.AppSettings
import GeoBench.Proofs.Machine.Place
import GeoBench.Proofs.Toml.Path

/-!
# The addresses of the datastores

The settings for a region are made from a template by pointing the addresses of its sections at a
host. A section is a table directly at the root: an address directly in it is replaced, whatever
stood under its key, and all else stays as it is. An address that stands elsewhere, at the root or
in a table further in, is no address of a section and keeps its value.

So what is made depends on the template and the last host only. That a document reads back from its
text is nothing that these settings decide on; where it is needed, it is asked of the document that
is written.

## Sections and what is further in

What is pointed at the host are values that can be reached from the root in two steps, through a
table and then by the name of an address. Paths of other lengths, and steps into the members of
lists, lead to what was there before, or to nothing if they lead through an address that was
replaced. That all addresses of a document are the host's is therefore a condition on the template,
and it is the exact one (`allPointed_pointAt_iff`).

## Main results

* `at?_pointAt`, `alike_pointAt` — what stands beside the addresses of the sections stays.
* `pointAt_pointAt` — of two hosts the last one counts.
* `addresses_pointed` — which addresses are pointed at the host, and when all of them are.
* `settings_of_last_host` — what is read from settings that were made, and what becomes of them when
  they are made again.
-/

namespace GeoBench.Deployment

open GeoBench.Toml GeoBench.Machine

variable {host : String} {doc : Entries} {p : List Step}

/-! ### Sections -/

/-- What becomes of a value at the root: a table is a **section**, and its addresses are pointed at
the host. -/
def pointValue (host : String) : Value → Value
  | .table section_ => .table (pointSection host section_)
  | other => other

/-- A document is pointed at a host entry by entry. -/
theorem pointAt_eq_map (host : String) (doc : Entries) :
    pointAt host doc = doc.map fun e => (e.1, pointValue host e.2) := by
  refine List.map_congr_left fun e _ => ?_
  obtain ⟨name, v⟩ := e
  cases v <;> rfl

/-- No key of a section changes. -/
theorem keys_pointSection (host : String) (section_ : Entries) :
    (pointSection host section_).map Prod.fst = section_.map Prod.fst := by
  rw [pointSection, List.map_map]
  rfl

/-- No key of a document changes. -/
theorem keys_pointAt (host : String) (doc : Entries) :
    (pointAt host doc).map Prod.fst = doc.map Prod.fst := by
  rw [pointAt_eq_map, List.map_map]
  rfl

/-- What is under a name afterwards is what was there, pointed at the host. -/
theorem lookup_pointAt (host : String) (doc : Entries) (name : String) :
    (pointAt host doc).lookup name = (doc.lookup name).map (pointValue host) := by
  rw [pointAt_eq_map]
  induction doc with
  | nil => rfl
  | cons e doc ih =>
      obtain ⟨k, v⟩ := e
      rw [List.map_cons, List.lookup_cons, List.lookup_cons, ih]
      cases name == k <;> rfl

/-- An address of a section is pointed at the host if it is there, and every other entry stays. -/
theorem child?_pointValue (host : String) (v : Value) (key : String) :
    (pointValue host v).child? (.key key) =
      if addressKeys.contains key then (v.child? (.key key)).map fun _ => .string host
      else v.child? (.key key) := by
  cases v with
  | table section_ => exact lookup_pointSection host section_ key
  | string | integer | float | boolean | moment | array => exact (ite_self none).symm

/-- Members of lists are out of reach. -/
theorem child?_pointValue_member (host : String) (v : Value) (i : Nat) :
    (pointValue host v).child? (.member i) = v.child? (.member i) := by
  cases v <;> rfl

/-- Of two hosts the later one counts. -/
theorem pointSection_pointSection (first last : String) (section_ : Entries) :
    pointSection last (pointSection first section_) = pointSection last section_ := by
  rw [pointSection, pointSection, pointSection, List.map_map]
  refine List.map_congr_left fun e _ => ?_
  obtain ⟨key, v⟩ := e
  show (key, _) = (key, _)
  split <;> rfl

/-- **Of two hosts the last one counts.** -/
theorem pointAt_pointAt (first last : String) (doc : Entries) :
    pointAt last (pointAt first doc) = pointAt last doc := by
  rw [pointAt_eq_map, pointAt_eq_map, pointAt_eq_map, List.map_map]
  refine List.map_congr_left fun e _ => ?_
  obtain ⟨name, v⟩ := e
  cases v with
  | table section_ =>
      show (name, Value.table _) = (name, Value.table _)
      rw [pointSection_pointSection]
  | string | integer | float | boolean | moment | array => rfl

/-! ### Paths -/

/-- Whether a path leads **through an address** of a section, or to one: its second step is to one
of their keys. -/
def throughAddress : List Step → Bool
  | .key _ :: .key key :: _ => addressKeys.contains key
  | _ => false

/-- An address of a section holds the host exactly if there was one. -/
theorem at?_pointAt_address (host : String) (doc : Entries) (name : String) {key : String}
    (h : key ∈ addressKeys) :
    (Value.table (pointAt host doc)).at? [.key name, .key key] =
      ((Value.table doc).at? [.key name, .key key]).map fun _ => .string host := by
  have hkey : addressKeys.contains key = true := List.contains_iff_mem.mpr h
  rw [Value.at?_cons, Value.at?_cons, Value.child?_table_key, Value.child?_table_key,
    lookup_pointAt]
  cases doc.lookup name with
  | none => rfl
  | some v =>
      rw [Option.map_some, Option.bind_some, Option.bind_some, Value.at?_cons, Value.at?_cons,
        child?_pointValue, if_pos hkey]
      cases v.child? (.key key) <;> rfl

/-- Behind an address of a section there is nothing. -/
theorem at?_pointAt_through (host : String) (doc : Entries) {s t : Step} {rest : List Step}
    (h : throughAddress (s :: t :: rest) = true) :
    (Value.table (pointAt host doc)).at? (s :: t :: rest) = none ∨
      rest = [] ∧ (Value.table (pointAt host doc)).at? [s, t] = some (.string host) := by
  cases s with
  | member i => cases h
  | key name =>
      cases t with
      | member i => cases h
      | key key =>
          have haddress := at?_pointAt_address host doc name (List.contains_iff_mem.mp h)
          rw [show Step.key name :: Step.key key :: rest = [.key name, .key key] ++ rest from rfl,
            Value.at?_append, haddress]
          cases (Value.table doc).at? [.key name, .key key] with
          | none => exact .inl rfl
          | some v =>
              cases rest with
              | nil => exact .inr ⟨rfl, rfl⟩
              | cons u rest => exact .inl (by cases u <;> rfl)

/-- **Two steps in**, what stands beside the addresses of the sections stays. -/
theorem at?_pointAt {s t : Step} {rest : List Step}
    (h : throughAddress (s :: t :: rest) = false) :
    (Value.table (pointAt host doc)).at? (s :: t :: rest) =
      (Value.table doc).at? (s :: t :: rest) := by
  cases s with
  | member i => rfl
  | key name =>
      rw [Value.at?_cons, Value.at?_cons, Value.child?_table_key, Value.child?_table_key,
        lookup_pointAt]
      cases doc.lookup name with
      | none => rfl
      | some v =>
          rw [Option.map_some, Option.bind_some, Option.bind_some, Value.at?_cons, Value.at?_cons]
          cases t with
          | member i => rw [child?_pointValue_member]
          | key key =>
              have hkey : ¬ addressKeys.contains key = true := Bool.eq_false_iff.mp h
              rw [child?_pointValue, if_neg hkey]

/-- Two values that are **alike**: the same value, or tables with the same keys in the same
order. -/
inductive Alike : Value → Value → Prop
  | same (v : Value) : Alike v v
  | tables {es fs : Entries} (hkeys : fs.map Prod.fst = es.map Prod.fst) :
    Alike (.table es) (.table fs)

/-- A value and what it is pointed at are alike. -/
theorem alike_pointValue (host : String) (v : Value) : Alike v (pointValue host v) := by
  cases v with
  | table section_ => exact .tables (keys_pointSection host section_)
  | string | integer | float | boolean | moment | array => exact .same _

/-- **Whatever is no address of a section** is there exactly if it was, and is alike. -/
theorem alike_pointAt (h : throughAddress p = false) :
    Option.Rel Alike ((Value.table doc).at? p) ((Value.table (pointAt host doc)).at? p) := by
  have hrefl : ∀ v? : Option Value, Option.Rel Alike v? v?
    | none => .none
    | some v => .some (.same v)
  match p with
  | [] => exact .some (.tables (keys_pointAt host doc))
  | [.member i] => exact .none
  | [.key name] =>
      rw [Value.at?_cons, Value.at?_cons, Value.child?_table_key, Value.child?_table_key,
        lookup_pointAt]
      cases doc.lookup name with
      | none => exact .none
      | some v => exact .some (alike_pointValue host v)
  | s :: t :: rest =>
      rw [at?_pointAt h]
      exact hrefl _

/-! ### All addresses -/

/-- A document in which **all addresses** are those of a host: in every table, however deep it
stands. -/
def AllPointed (host : String) (doc : Entries) : Prop :=
  ∀ p es key old, (Value.table doc).at? p = some (.table es) → key ∈ addressKeys →
    es.lookup key = some old → old = .string host

/-- A document whose addresses **beside the sections** are those of a host: at the root, and in the
tables further in that no address of a section holds. -/
def PointedBeside (host : String) (doc : Entries) : Prop :=
  ∀ p es key old, (Value.table doc).at? p = some (.table es) → key ∈ addressKeys →
    es.lookup key = some old → (∀ name, p ≠ [.key name]) → throughAddress p = false →
    old = .string host

/-- An address of a section is the host. -/
theorem eq_of_lookup_pointAt {name key : String} {section_ : Entries} {old : Value}
    (hsection : (pointAt host doc).lookup name = some (.table section_)) (hkey : key ∈ addressKeys)
    (hold : section_.lookup key = some old) : old = .string host := by
  have haddress := at?_pointAt_address host doc name hkey
  rw [Value.at?_cons, Value.child?_table_key, hsection, Option.bind_some, Value.at?_cons,
    Value.child?_table_key, hold, Option.bind_some, Value.at?_nil] at haddress
  obtain ⟨_, -, hhost⟩ := Option.map_eq_some_iff.mp haddress.symm
  exact hhost.symm

/-- **All addresses are pointed** at the host if those beside the sections were, and only then. -/
theorem allPointed_pointAt_iff : AllPointed host (pointAt host doc) ↔ PointedBeside host doc := by
  constructor
  · intro hall p es key old htable hkey hold hsection hbeside
    match p with
    | [] =>
        -- an address at the root may itself be a table, and the host is none
        obtain rfl : doc = es := Value.table.inj (Option.some.inj htable)
        have hpointed := hall [] (pointAt host doc) key (pointValue host old) rfl hkey
          (by rw [lookup_pointAt, hold, Option.map_some])
        cases old with
        | table section_ => cases hpointed
        | string | integer | float | boolean | moment | array => exact hpointed
    | [.member i] => cases htable
    | [.key name] => exact absurd rfl (hsection name)
    | s :: t :: rest =>
        rw [← at?_pointAt hbeside] at htable
        exact hall _ es key old htable hkey hold
  · intro hbeside p es key old htable hkey hold
    match p with
    | [] =>
        obtain rfl : pointAt host doc = es := Value.table.inj (Option.some.inj htable)
        rw [lookup_pointAt] at hold
        obtain ⟨before, hbefore, rfl⟩ := Option.map_eq_some_iff.mp hold
        obtain rfl := hbeside [] doc key before rfl hkey hbefore nofun rfl
        rfl
    | [.member i] => cases htable
    | [.key name] =>
        rw [Value.at?_cons, Value.child?_table_key] at htable
        obtain ⟨v, hv, hnil⟩ := Option.bind_eq_some_iff.mp htable
        obtain rfl := Option.some.inj hnil
        exact eq_of_lookup_pointAt hv hkey hold
    | s :: t :: rest =>
        cases hthrough : throughAddress (s :: t :: rest) with
        | false =>
            rw [at?_pointAt hthrough] at htable
            exact hbeside _ es key old htable hkey hold nofun hthrough
        | true =>
            rcases at?_pointAt_through host doc hthrough with hnone | ⟨rfl, hstring⟩
            · rw [hnone] at htable
              cases htable
            · rw [hstring] at htable
              cases Option.some.inj htable

/-! ### Settings that were made -/

/-- Settings that are made from a template that can be read. -/
theorem renderSettings_of_read {template : String} (hread : Document.read template = .ok doc)
    (host : String) : renderSettings template host = .ok (render (pointAt host doc)) := by
  rw [renderSettings, hread]
  rfl

/-- **Which addresses are pointed at the host.** In the settings that are read from what was made,
the addresses of every section are, and all addresses are if those beside the sections were. -/
theorem addresses_pointed {template : String} (hread : Document.read template = .ok doc)
    (hback : ReadsBack (pointAt host doc)) :
    ∃ text out, renderSettings template host = .ok text ∧ Document.read text = .ok out ∧
      (∀ name section_ key old, out.lookup name = some (.table section_) → key ∈ addressKeys →
        section_.lookup key = some old → old = .string host) ∧
      (AllPointed host out ↔ PointedBeside host doc) :=
  ⟨_, _, renderSettings_of_read hread host, hback,
    fun _ _ _ _ hsection hkey hold => eq_of_lookup_pointAt hsection hkey hold,
    allPointed_pointAt_iff⟩

/-- A template with an address directly in a section, and one in a table of that section. -/
def storageTemplate : String :=
  "[\"posts/Storage\"]\nmongodb_address = \"localhost\"\nregion = \"eu\"\n" ++
  "[\"posts/Storage\".cache]\nmemcached_address = \"localhost\"\n"

/-- The settings of that template. -/
def storageSettings : Entries :=
  [("posts/Storage", .table
    [("cache", .table [("memcached_address", .string "localhost")]),
      ("mongodb_address", .string "localhost"), ("region", .string "eu")])]

/-- The template is read as the settings that it spells. -/
theorem read_storageTemplate : Document.read storageTemplate = .ok storageSettings := by
  decide +kernel

/-- Pointed at a host, these settings are read back. -/
theorem readsBack_storageSettings : ReadsBack (pointAt "10.0.0.7" storageSettings) := by
  unfold ReadsBack
  decide +kernel

/-- In a section of a template, the address is pointed at the host. -/
theorem addresses_pointed_storage :
    Document.read storageTemplate = .ok storageSettings ∧
    ReadsBack (pointAt "10.0.0.7" storageSettings) ∧
    ∃ text out, renderSettings storageTemplate "10.0.0.7" = .ok text ∧
      Document.read text = .ok out ∧
      ∀ section_ old, out.lookup "posts/Storage" = some (.table section_) →
        section_.lookup "mongodb_address" = some old → old = .string "10.0.0.7" := by
  refine ⟨read_storageTemplate, readsBack_storageSettings, ?_⟩
  obtain ⟨text, out, hrender, hread, hsections, -⟩ :=
    addresses_pointed read_storageTemplate readsBack_storageSettings
  exact ⟨text, out, hrender, hread, fun section_ old hsection hold =>
    hsections _ section_ _ old hsection (by decide) hold⟩

/-- **An address further in is missed**: it still has the value of the template, although it is
read from a table of the settings that were made. -/
theorem address_further_in_missed :
    ∃ text out, renderSettings storageTemplate "10.0.0.7" = .ok text ∧
      Document.read text = .ok out ∧
      (Value.table out).at? [.key "posts/Storage", .key "cache", .key "memcached_address"] =
        some (.string "localhost") ∧
      ¬ AllPointed "10.0.0.7" out := by
  refine ⟨_, _, renderSettings_of_read read_storageTemplate _, readsBack_storageSettings,
    by decide, fun hall => ?_⟩
  have hcache : (Value.table (pointAt "10.0.0.7" storageSettings)).at?
      [.key "posts/Storage", .key "cache"] =
        some (.table [("memcached_address", .string "localhost")]) := by decide
  exact absurd (hall _ _ "memcached_address" _ hcache (by decide) rfl) (by decide)

/-- **The last host wins**, and nothing else changes. What is read from settings that were made is
the template with its addresses replaced: everything else is there exactly if it was there, and the
same; and made again for another host, the settings are those that the template gives. -/
theorem settings_of_last_host {template : String} (hread : Document.read template = .ok doc)
    (hback : ReadsBack (pointAt host doc)) :
    ∃ text out, renderSettings template host = .ok text ∧ Document.read text = .ok out ∧
      (∀ p, throughAddress p = false →
        Option.Rel Alike ((Value.table doc).at? p) ((Value.table out).at? p) ∧
        (2 ≤ p.length → (Value.table out).at? p = (Value.table doc).at? p)) ∧
      (∀ name, ∀ key ∈ addressKeys, (Value.table out).at? [.key name, .key key] =
        ((Value.table doc).at? [.key name, .key key]).map fun _ => .string host) ∧
      ∀ last, ∃ text', renderSettings text last = .ok text' ∧
        renderSettings template last = .ok text' := by
  refine ⟨_, _, renderSettings_of_read hread host, hback, fun p hp => ⟨alike_pointAt hp, ?_⟩,
    fun name key hkey => at?_pointAt_address host doc name hkey, fun last => ?_⟩
  · intro hlength
    match p, hlength with
    | s :: t :: rest, _ => exact at?_pointAt hp
  · refine ⟨_, renderSettings_of_read hback last, ?_⟩
    rw [renderSettings_of_read hread, pointAt_pointAt]

/-- Settings for one host that are made again for another one. -/
theorem settings_of_last_host_storage :
    Document.read storageTemplate = .ok storageSettings ∧
    ReadsBack (pointAt "10.0.0.7" storageSettings) ∧
    ∃ text out, renderSettings storageTemplate "10.0.0.7" = .ok text ∧
      Document.read text = .ok out ∧
      (Value.table out).at? [.key "posts/Storage", .key "mongodb_address"] =
        some (.string "10.0.0.7") ∧
      (Value.table out).at? [.key "posts/Storage", .key "region"] = some (.string "eu") ∧
      renderSettings text "10.0.0.8" = renderSettings storageTemplate "10.0.0.8" := by
  refine ⟨read_storageTemplate, readsBack_storageSettings, ?_⟩
  obtain ⟨text, out, hrender, hread, hframe, haddresses, hagain⟩ :=
    settings_of_last_host read_storageTemplate readsBack_storageSettings
  obtain ⟨text', hlast, htemplate⟩ := hagain "10.0.0.8"
  refine ⟨text, out, hrender, hread, ?_, ?_, hlast.trans htemplate.symm⟩
  · rw [haddresses _ _ (by decide)]
    decide
  · rw [(hframe _ (by decide)).2 (by decide)]
    decide

end GeoBench.Deployment
