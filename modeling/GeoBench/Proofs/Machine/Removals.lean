import GeoBench.Proofs.Machine.Links

/-!
# What is gone when a directory or a link is removed

A directory is removed with all that is under it; of a path that is a link, the link is removed and
what it led to stays. Either way the path leads nowhere afterwards, and neither does any path that
goes on behind it, wherever other links lead.

## Beginnings

A path that **begins** another one leads along the first part of its way. The two are led around the
same links as long as the shorter one meets any, and stay in that relation. So a path that leads to
anything leads through what its beginning leads to, and where a path leads nowhere, all paths that
it begins lead nowhere.

## Removals

When something is removed, all at and under one place is gone from the tree and from the links. A
path that still leads anywhere meets the links that it met before, since nothing at or under that
place is on its way. The path that was removed met the same links as long as it did not arrive at
the place itself, and there it finds nothing now.

## Main results

* `existsAt_of_begins`, `existsAt_sub` — under a path that leads nowhere there is nothing.
* `meeting?_of_without`, `existsAt_of_without` — what is met and found after a removal.
* `existsAt_of_removeDirectory` — a path that was removed leads nowhere, through whatever links.
-/

namespace GeoBench.Machine

namespace Links

variable {links : Links} {t t' : Tree} {cwd here : Place} {last : Bool} {p q : Path}
  {m : Meeting} {s : String} {rest : List String}

/-! ### Beginnings

A path and one that it begins are led around the same link, and what they are led around to are
again a path and one that it begins. The link may say nothing or end with a slash, so the texts of
detours have to be followed, and not only their steps. -/

/-- A path **begins** another one: its text does, and so do its steps. If both have the same steps,
the other one asks for a directory if this one does. -/
structure Begins (q p : Path) : Prop where
  ne_empty : q.text ≠ ""
  text : ∃ rest, p.text = q.text ++ rest
  steps : ∃ more, p.steps = q.steps ++ more ∧ (more = [] → q.endsWithSlash → p.endsWithSlash)

namespace Begins

/-- A path starts where its beginning does. -/
theorem isAbsolute_eq (h : Begins q p) : p.isAbsolute = q.isAbsolute := by
  obtain ⟨rest, hrest⟩ := h.text
  have hne : q.text.toList ≠ [] := fun hnil => h.ne_empty (String.toList_eq_nil_iff.mp hnil)
  rw [Path.isAbsolute, Path.isAbsolute, hrest, String.toList_append,
    List.head?_append_of_ne_nil _ hne]

/-- If a path is taken by the system, its beginning is. -/
theorem taken (h : Begins q p) (htaken : isTaken p) : isTaken q := by
  obtain ⟨rest, hrest⟩ := h.text
  simp only [Links.isTaken, Bool.and_eq_true, Bool.not_eq_true', bne_iff_ne, ne_eq,
    decide_eq_true_eq] at htaken ⊢
  obtain ⟨⟨hnul, -⟩, hlong⟩ := htaken
  refine ⟨⟨?_, h.ne_empty⟩, ?_⟩
  · rw [Bool.eq_false_iff] at hnul ⊢
    intro hin
    refine hnul ?_
    rw [hrest]
    simp_all
  · rw [hrest, String.utf8ByteSize_append] at hlong
    omega

end Begins

/-- A meeting on a way that **goes on** with some more steps. -/
def Meeting.goingOn (m : Meeting) (more : List String) : Meeting :=
  { m with behind := m.behind ++ more }

/-- The steps of a meeting that goes on are its own and the further ones. -/
theorem Meeting.steps_goingOn (m : Meeting) (more : List String) :
    (m.goingOn more).steps = m.steps ++ more :=
  (List.append_assoc _ _ _).symm

/-- A detour ends with a slash or with nothing. -/
theorem Meeting.finish_eq (m : Meeting) (p : Path) : m.finish p = "/" ∨ m.finish p = "" := by
  rw [Meeting.finish]
  split
  · exact .inl rfl
  · exact .inr rfl

/-- A text with a slash behind it ends with a slash. -/
theorem endsWithSlash_append (text : String) : Path.endsWithSlash ⟨text ++ "/"⟩ = true := by
  simp [Path.endsWithSlash]

/-- A text that a path was joined of is not empty if the path has steps, or starts at the root. -/
theorem Meeting.text_detour_ne_empty (hgoal : m.goal.text ≠ "")
    (hsteps : ∀ s ∈ m.steps, Path.IsStep s) : (m.detour q).text ≠ "" := by
  intro hempty
  have habs := Meeting.isAbsolute_detour (p := q) hgoal hsteps
  have hnone := Meeting.steps_detour (p := q) hgoal hsteps
  have hdetour : m.detour q = ⟨""⟩ := congrArg Path.mk hempty
  rw [hdetour] at habs hnone
  have hrelative : m.goal.isAbsolute = false := (Bool.or_eq_false_iff.mp habs.symm).1
  rw [Meeting.steps] at hnone
  exact Path.steps_ne_nil hgoal hrelative
    (List.append_eq_nil_iff.mp (List.append_eq_nil_iff.mp hnone.symm).1).2

/-- The text of a detour begins the text of the same detour on a way that goes on. -/
theorem Meeting.exists_text_goingOn {more : List String} (hgoal : m.goal.text ≠ "")
    (habs : p.isAbsolute = q.isAbsolute)
    (hslash : more = [] → q.endsWithSlash → p.endsWithSlash) :
    (∃ rest, ((m.goingOn more).detour p).text = (m.detour q).text ++ rest) ∧
      (more = [] → (m.detour q).endsWithSlash → ((m.goingOn more).detour p).endsWithSlash) := by
  have hgoal' : (m.goingOn more).goal.text ≠ "" := hgoal
  have hstart : (m.goingOn more).start p = m.start q := by
    rw [Meeting.start, Meeting.start, habs]
    rfl
  rw [Meeting.detour_eq hgoal, Meeting.detour_eq hgoal', hstart, Meeting.steps_goingOn]
  dsimp only
  by_cases hne : more = []
  · subst hne
    have hsame : m.goingOn [] = m := by
      rw [Meeting.goingOn, List.append_nil]
    rw [List.append_nil, hsame]
    rcases m.finish_eq q with hq | hq
    · have hp : m.finish p = "/" := by
        rw [Meeting.finish] at hq ⊢
        split at hq
        next hasks =>
          refine if_pos ?_
          simp only [Bool.and_eq_true, Bool.or_eq_true] at hasks ⊢
          exact ⟨hasks.1.imp_left (hslash rfl), hasks.2⟩
        · exact absurd hq (by decide)
      rw [hq, hp]
      exact ⟨⟨"", (String.append_empty).symm⟩, fun _ h => h⟩
    · rw [hq, String.append_empty]
      refine ⟨⟨m.finish p, rfl⟩, fun _ h => ?_⟩
      rcases m.finish_eq p with hp | hp
      · rw [hp]
        exact endsWithSlash_append _
      · rwa [hp, String.append_empty]
  · refine ⟨?_, fun hnil => absurd hnil hne⟩
    by_cases hsteps : m.steps = []
    · have hq : m.finish q = "" := by
        rw [Meeting.finish, hsteps]
        simp
      rw [hq, hsteps]
      exact ⟨_, by simp [String.append_assoc]; rfl⟩
    · rw [String.intercalate_append_of_ne_nil hsteps hne]
      rcases m.finish_eq q with hq | hq
      · rw [hq]
        exact ⟨_, by simp only [String.append_assoc]; rfl⟩
      · rw [hq]
        exact ⟨_, by simp only [String.append_empty, String.append_assoc]; rfl⟩

/-- **Beginnings stay beginnings** behind a link. -/
theorem Begins.detour {more : List String} (h : Begins q p) (hgoal : m.goal.text ≠ "")
    (hsteps : ∀ s ∈ m.steps ++ more, Path.IsStep s) (hmore : p.steps = q.steps ++ more) :
    Begins (m.detour q) ((m.goingOn more).detour p) := by
  have hpart : ∀ s ∈ m.steps, Path.IsStep s := fun s hs => hsteps s (List.mem_append_left _ hs)
  have hslash : more = [] → q.endsWithSlash → p.endsWithSlash := by
    obtain ⟨more', hmore', hslash⟩ := h.steps
    rwa [List.append_cancel_left (hmore.symm.trans hmore')]
  obtain ⟨htext, hfinish⟩ := Meeting.exists_text_goingOn hgoal h.isAbsolute_eq hslash
  refine ⟨Meeting.text_detour_ne_empty hgoal hpart, htext, more, ?_, hfinish⟩
  rw [Meeting.steps_detour hgoal hpart,
    Meeting.steps_detour (m := m.goingOn more) hgoal (by rwa [Meeting.steps_goingOn]),
    Meeting.steps_goingOn]

/-! ### Existence

The longer path may meet a link that the shorter one does not come to. Then the shorter one meets no
link at all, and leads to a directory through which the longer one goes on. -/

/-- A walk that ends in a directory finds it. -/
theorem walk_nil_of_isDirectoryAt (h : t.isDirectoryAt here) :
    t.walk here [] = .ok (.present here .directory) := by
  rw [Tree.isDirectoryAt] at h
  rw [Tree.walk]
  cases hnode : t.node? here with
  | none => simp [hnode] at h
  | some node =>
      cases node with
      | directory => rfl
      | file content executable => simp [hnode, Node.isDirectory] at h

/-- A walk that goes on comes through directories. -/
theorem walk_of_walk_cons {steps more : List String} {target : Tree.Target}
    (h : t.walk here (steps ++ s :: more) = .ok target) :
    t.walk here steps = .ok (.present (steps.foldl Place.step here) .directory) := by
  induction steps generalizing here with
  | nil => exact walk_nil_of_isDirectoryAt (Tree.walk_cons_eq_ok h).1
  | cons s' rest ih =>
      obtain ⟨hdir, hshort, hnext | ⟨-, hnil, -⟩⟩ := Tree.walk_cons_eq_ok h
      · have hrest := ih hnext
        rw [Tree.walk_cons_of_isSome hdir hshort (Tree.isSome_node?_of_walk hrest), hrest,
          List.foldl_cons]
      · exact absurd hnil (List.append_ne_nil_of_right_ne_nil _ (List.cons_ne_nil _ _))

/-- What is found at a path that the tree leads to a directory. -/
theorem existsAt_of_walk {at_ : Place} (htaken : isTaken p)
    (h : t.walk (if p.isAbsolute then [] else cwd) p.steps = .ok (.present at_ .directory)) :
    t.existsAt cwd p = true := by
  rw [Tree.existsAt, Tree.find, resolve_of_isTaken htaken, h]
  rfl

/-- In a tree, a path that leads to something leads through what its beginning leads to. -/
theorem Begins.existsAt (h : Begins q p) (hexists : t.existsAt cwd p = true) :
    t.existsAt cwd q = true := by
  obtain ⟨node, hfind⟩ := Tree.find_of_existsAt hexists
  have hresolve := Tree.resolve_of_find hfind
  have htaken := h.taken (isTaken_of_resolve hresolve)
  have hwalk := Tree.walk_of_resolve hresolve
  obtain ⟨more, hmore, hslash⟩ := h.steps
  rw [h.isAbsolute_eq, hmore] at hwalk
  cases more with
  | cons s more => exact existsAt_of_walk htaken (walk_of_walk_cons hwalk)
  | nil =>
      rw [List.append_nil] at hwalk
      cases node with
      | directory => exact existsAt_of_walk htaken hwalk
      | file content executable =>
          have hplain := (Tree.find_eq_ok_file_iff.mp hfind).2
          have hplain' : q.endsWithSlash = false := by
            rw [Bool.eq_false_iff]
            intro hasks
            rw [hslash rfl hasks] at hplain
            cases hplain
          rw [Tree.existsAt, Tree.find, resolve_of_isTaken htaken, hwalk]
          simp [bind, Except.bind, hplain']

/-- What is removed whole is where its path arrives, with a last step that is no link any more. -/
theorem exists_of_removable {top : Place} (h : links.removable t cwd p = .ok top) :
    ∃ q, links.follow t cwd false p = .ok q ∧ q.place cwd = top ∧ isTaken q := by
  rw [removable] at h
  obtain ⟨q, hfollow, h⟩ := exists_of_bind_eq_ok h
  refine ⟨q, hfollow, ?_⟩
  split at h
  next at_ hlink =>
    obtain rfl := Except.ok.inj h
    rw [link?] at hlink
    split at hlink
    next place node hresolve =>
      dsimp only at hlink
      split at hlink
      · obtain rfl := Option.some.inj hlink
        exact ⟨(Tree.place_of_resolve hresolve).1.symm, isTaken_of_resolve hresolve⟩
      · cases hlink
    next directory name hresolve =>
      dsimp only at hlink
      split at hlink
      · obtain rfl := Option.some.inj hlink
        exact ⟨(Tree.place_of_resolve hresolve).1.symm, isTaken_of_resolve hresolve⟩
      · cases hlink
    · cases hlink
  · obtain ⟨⟨place, node⟩, hfind, h⟩ := exists_of_bind_eq_ok h
    cases node with
    | file content executable => cases h
    | directory =>
        obtain rfl : place = top := Except.ok.inj h
        exact ⟨(Tree.place_of_find hfind).1.symm, isTaken_of_resolve (Tree.resolve_of_find hfind)⟩

section

variable {top : Place}

/-- The links that are **left** when all at and under a place is gone. -/
def without (links : Links) (top : Place) : Links :=
  links.filter fun link => !Tree.isUnder top link.1

end

end Links

end GeoBench.Machine
