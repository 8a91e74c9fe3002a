import GeoBench.Proofs.Machine.Place

/-!
# Routes

What the steps of a path come to, wherever they begin: a **route** climbs some directories up and
goes down some names from there. Two dots take back the name before them, and climb if there is
none. The place that a path leads to from a directory depends on its route alone, and a path with a
route without a climb leads to something in that directory.

## Why routes

Two paths below one directory can be compared without knowing where that directory is: their routes
are told by their texts alone. Only when a route climbs further than the directory is deep does it
matter where one begins, since nothing is above the root. The two lemmas about landing say exactly
when that makes a difference.

## Main results

* `Route.foldl_step` — steps lead where their route leads.
* `Path.place_sub_route` — the place of any joined path, from the root if its second part is.
* `Route.below_landing_iff` — the routes that lead below the directory where they begin.
* `Route.landing_eq_iff` — the routes that lead to the same place.
-/

namespace GeoBench.Machine

/-- What is below a place is reached from there by some names. -/
theorem Place.below_iff {top at_ : Place} :
    Place.Below top at_ ↔ ∃ names ≠ [], at_ = names ++ top := by
  constructor
  · rintro ⟨hunder, hne⟩
    obtain ⟨names, rfl⟩ := List.isSuffixOf_iff_suffix.mp hunder
    exact ⟨names, fun hnil => hne (by rw [hnil, List.nil_append]), rfl⟩
  · rintro ⟨names, hne, rfl⟩
    exact below_append top hne

/-- A **route**: how many directories it climbs, and the names that it goes down after that, from
the inside out. -/
structure Route where
  climb : Nat
  down : Place
  deriving DecidableEq, Repr

namespace Route

/-- A route that is **extended** by a step. -/
def extend (r : Route) (s : String) : Route :=
  if s = "." then r
  else if s = ".." then
    match r.down with
    | [] => ⟨r.climb + 1, []⟩
    | _ :: outer => ⟨r.climb, outer⟩
  else ⟨r.climb, s :: r.down⟩

/-- The route of some steps. -/
def ofSteps (steps : List String) : Route :=
  steps.foldl extend ⟨0, []⟩

/-- Where a route **lands** that begins at a place. The root has nothing above it. -/
def landing (r : Route) (here : Place) : Place :=
  r.down ++ here.drop r.climb

variable {r r' : Route} {top here : Place}

/-- From the root a route lands where it goes down to. -/
@[simp] theorem landing_nil (r : Route) : r.landing [] = r.down := by
  rw [landing, List.drop_nil, List.append_nil]

/-- An extended route lands one step further. -/
theorem landing_extend (r : Route) (s : String) (here : Place) :
    (r.extend s).landing here = Place.step (r.landing here) s := by
  obtain ⟨climb, down⟩ := r
  rw [extend, Place.step]
  split
  · rfl
  · split
    · cases down with
      | nil => simp only [landing, List.nil_append, List.tail_drop]
      | cons name outer => rfl
    · rfl

/-- **Steps lead where their route leads.** The induction is on the steps, for any route that was
taken before. -/
theorem foldl_step (steps : List String) (here : Place) :
    steps.foldl Place.step here = (ofSteps steps).landing here := by
  suffices h : ∀ r : Route,
      steps.foldl Place.step (r.landing here) = (steps.foldl extend r).landing here from
    h ⟨0, []⟩
  induction steps with
  | nil => exact fun _ => rfl
  | cons s rest ih =>
      intro r
      rw [List.foldl_cons, List.foldl_cons, ← landing_extend, ih]

/-- A route lands **below** the directory where it begins exactly if it goes down again by the names
that it climbed up from, and further. -/
theorem below_landing_iff :
    Place.Below top (r.landing top) ↔ ∃ names ≠ [], r.down = names ++ top.take r.climb := by
  have hsplit : ∀ names : Place,
      names ++ top = (names ++ top.take r.climb) ++ top.drop r.climb := by
    intro names
    rw [List.append_assoc, List.take_append_drop]
  simp only [Place.below_iff, landing, hsplit, List.append_left_inj]

/-- Two routes land at **the same place** exactly if the one that climbs further goes down again to
where the other one turns, and then by the same names. -/
theorem landing_eq_iff (hclimb : r.climb ≤ r'.climb) :
    r.landing here = r'.landing here ↔ r'.down = r.down ++ (here.take r'.climb).drop r.climb := by
  have hsplit : here.drop r.climb =
      (here.take r'.climb).drop r.climb ++ here.drop r'.climb := by
    have hrest : here.drop r'.climb = (here.drop r.climb).drop (r'.climb - r.climb) := by
      rw [List.drop_drop, Nat.add_sub_cancel' hclimb]
    rw [List.drop_take, hrest, List.take_append_drop]
  rw [landing, landing, hsplit, ← List.append_assoc, List.append_left_inj, eq_comm]

end Route

namespace Path

/-- The **route** of a path. -/
def route (p : Path) : Route :=
  Route.ofSteps p.steps

/-- The place of a path is where its route lands. -/
theorem place_eq_landing (cwd : Place) (p : Path) :
    p.place cwd = p.route.landing (if p.isAbsolute then [] else cwd) :=
  Route.foldl_step _ _

/-- **The place of any joined path**: its second part leads there from the place of the first one,
or from the root. -/
theorem place_sub_route (cwd : Place) (p : Path) (q : String) :
    (p.sub q).place cwd =
      (route ⟨q⟩).landing (if isAbsolute ⟨q⟩ then [] else p.place cwd) := by
  cases hq : isAbsolute ⟨q⟩ with
  | true =>
      rw [sub, join_absolute hq, place_eq_landing, hq, if_pos rfl, if_pos rfl]
  | false =>
      rw [place_sub cwd p hq, Route.foldl_step]
      rfl

end Path

end GeoBench.Machine
