import GeoBench.Machine.Links
import GeoBench.Proofs.Machine.Files
import Mathlib.Data.Set.BooleanAlgebra
import Mathlib.Data.Set.Insert
import Mathlib.Order.CompletePartialOrder

/-!
# Paths through links

What a file tree tells of a path it tells of the path that is left when all links are led around.
This module relates the two: what a path meets and is led around, when it is led around the same
links as before, and where it may arrive.

## Ways and directories

Which links a path meets depends on the links and on which places are directories, and on nothing
else. A file that is written or made executable therefore leaves every path where it was
(`follow_of_isDirectoryAt`), and where directories are only added, a path that leads to something
leads to it still (`follow_of_directories`).

## Arrivals

The **arrivals** of a path are the places to which it may lead with any directories on its way. Its
own place is one of them, and the only one where there are no links. A file that is at none of the
arrivals of a path is not touched along it, whatever was created or removed in the meantime, so two
paths with no arrival in common are never one file.

## Main results

* `Meeting.detour_eq`, `Meeting.steps_detour` — what a path is behind a link.
* `follow_of_isDirectoryAt`, `follow_of_directories` — when a path leads where it led before.
* `readText_of_writeText` — what is written along a path is read along it.
* `readText_of_extends` — what is read along a path is read again, if it is not touched where the
  path may arrive.
* `mem_covered_nil`, `mem_reached_nil` — arrivals where there are no links.
-/

namespace GeoBench.Machine

open GeoBench.Text

/-! ### Steps that are joined by slashes -/

namespace Path

/-- A text that is a **step** of some path: it has a character, but no slash. -/
structure IsStep (s : String) : Prop where
  ne_empty : s ≠ ""
  no_slash : '/' ∉ s.toList

/-- A step is its own step. -/
theorem IsStep.steps_eq {s : String} (h : IsStep s) : steps ⟨s⟩ = [s] := by
  have hne : s.toList ≠ [] := fun hnil => h.ne_empty (String.toList_eq_nil_iff.mp hnil)
  rw [steps, pieces_eq_splitAtSep, splitAtSep_of_notMem h.no_slash]
  simp [hne]

/-- Texts with a slash between them have the steps of both. -/
theorem steps_slash (before behind : String) :
    steps ⟨before ++ "/" ++ behind⟩ = steps ⟨before⟩ ++ steps ⟨behind⟩ := by
  have h := steps_append before.toList behind.toList
  rw [String.ofList_toList, String.ofList_toList] at h
  rw [← h]
  congr 2
  simp [← String.toList_inj]

/-- **Steps that are joined** by slashes are the steps of what comes out. -/
theorem steps_intercalate {names : List String} (h : ∀ s ∈ names, IsStep s) :
    steps ⟨String.intercalate "/" names⟩ = names := by
  induction names with
  | nil => rfl
  | cons s rest ih =>
      obtain ⟨hs, hrest⟩ := List.forall_mem_cons.mp h
      cases rest with
      | nil => rw [String.intercalate_singleton, hs.steps_eq]
      | cons s' rest =>
          rw [String.intercalate_cons_cons, steps_slash, hs.steps_eq, ih hrest,
            List.singleton_append]

/-- What is joined of steps does not start at the root. -/
theorem isAbsolute_intercalate {names : List String} (h : ∀ s ∈ names, IsStep s) :
    isAbsolute ⟨String.intercalate "/" names⟩ = false := by
  rw [isAbsolute, beq_eq_false_iff_ne]
  cases names with
  | nil => simp
  | cons s rest =>
      obtain ⟨hs, -⟩ := List.forall_mem_cons.mp h
      have hne : s.toList ≠ [] := fun hnil => hs.ne_empty (String.toList_eq_nil_iff.mp hnil)
      obtain ⟨more, hmore⟩ : ∃ more, (String.intercalate "/" (s :: rest)).toList =
          s.toList ++ more := by
        cases rest with
        | nil => exact ⟨[], by simp⟩
        | cons s' rest =>
            exact ⟨_, by rw [String.intercalate_cons_cons, String.append_assoc,
              String.toList_append]⟩
      rw [hmore, List.head?_append_of_ne_nil _ hne]
      exact fun hhead => hs.no_slash (List.mem_of_mem_head? hhead)

/-- A path that is not empty and does not start at the root has a step. -/
theorem steps_ne_nil {p : Path} (hne : p.text ≠ "") (habs : p.isAbsolute = false) :
    p.steps ≠ [] := by
  obtain ⟨text⟩ := p
  have htext : text.toList ≠ [] := fun hnil => hne (String.toList_eq_nil_iff.mp hnil)
  obtain ⟨c, cs, hcs⟩ := List.exists_cons_of_ne_nil htext
  have hc : c ≠ '/' := by
    rintro rfl
    simp [isAbsolute, hcs] at habs
  obtain ⟨first, others, -, hcons⟩ := splitAtSep_cons_of_ne cs hc
  rw [steps, hcs, pieces_eq_splitAtSep, hcons]
  simp

end Path

namespace Links

variable {links : Links} {t t' : Tree} {cwd here : Place} {last : Bool} {p q : Path}
  {m : Meeting} {s : String} {rest : List String}

/-! ### Meetings

A way **passes** a step that is no link, and meets the first one that is. A link at the last step
counts only if it is asked for, as a slash behind it does. -/

/-- A step that a way **passes** without a link: a dot or two, or a short name that is none. -/
def Passes (links : Links) (here : Place) (s : String) : Prop :=
  Tree.IsShort s ∧ (s ≠ "." → s ≠ ".." → links.lookup (s :: here) = none)

/-- A way that passes a step goes on behind it. -/
theorem meeting?_cons_of_passes (hdir : t.isDirectoryAt here) (hpass : links.Passes here s) :
    links.meeting? t last here (s :: rest) =
      (links.meeting? t last (Place.step here s) rest).map (.after s) := by
  obtain ⟨hshort, hnone⟩ := hpass
  rw [meeting?, if_pos hdir, Place.step]
  by_cases hdot : s = "."
  · rw [if_pos hdot, if_pos hdot]
  · rw [if_neg hdot, if_neg hdot]
    by_cases hdots : s = ".."
    · rw [if_pos hdots, if_pos hdots]
    · rw [if_neg hdots, if_neg hdots, if_neg (hshort hdot hdots), hnone hdot hdots]

/-- A step that is a link. -/
structure IsLink (links : Links) (here : Place) (s : String) (goal : Path) : Prop where
  ne_dot : s ≠ "."
  ne_dots : s ≠ ".."
  short : ¬ Tree.maxName < s.utf8ByteSize
  lookup : links.lookup (s :: here) = some goal

/-- A way meets a step that is a link, unless that is the last one and not asked for. -/
theorem meeting?_cons_of_isLink {goal : Path} (hdir : t.isDirectoryAt here)
    (hlink : links.IsLink here s goal) : links.meeting? t last here (s :: rest) =
      if last || !rest.isEmpty then some ⟨[], goal, rest⟩ else none := by
  rw [meeting?, if_pos hdir, if_neg hlink.ne_dot, if_neg hlink.ne_dots, if_neg hlink.short,
    hlink.lookup]

/-- A step in a directory is passed, or it is a link, or its name is too long and the way ends. -/
theorem passes_or_isLink (links : Links) (here : Place) (s : String) :
    links.Passes here s ∨ (∃ goal, links.IsLink here s goal) ∨
      s ≠ "." ∧ s ≠ ".." ∧ Tree.maxName < s.utf8ByteSize := by
  by_cases hdot : s = "."
  · exact .inl ⟨fun h => absurd hdot h, fun h => absurd hdot h⟩
  · by_cases hdots : s = ".."
    · exact .inl ⟨fun _ h => absurd hdots h, fun _ h => absurd hdots h⟩
    · by_cases hshort : Tree.maxName < s.utf8ByteSize
      · exact .inr (.inr ⟨hdot, hdots, hshort⟩)
      · cases hlookup : links.lookup (s :: here) with
        | none => exact .inl ⟨fun _ _ => hshort, fun _ _ => hlookup⟩
        | some goal => exact .inr (.inl ⟨goal, hdot, hdots, hshort, hlookup⟩)

/-- A way that meets a link begins in a directory, with a step that is the link or is passed. -/
theorem meeting?_cons_eq_some (h : links.meeting? t last here (s :: rest) = some m) :
    t.isDirectoryAt here ∧
      ((∃ goal, links.IsLink here s goal ∧ (last || !rest.isEmpty) ∧ m = ⟨[], goal, rest⟩) ∨
        links.Passes here s ∧
          ∃ m', links.meeting? t last (Place.step here s) rest = some m' ∧ m = m'.after s) := by
  have hdir : t.isDirectoryAt here := by
    by_contra hnot
    rw [meeting?, if_neg hnot] at h
    cases h
  refine ⟨hdir, ?_⟩
  rcases passes_or_isLink links here s with hpass | ⟨goal, hlink⟩ | ⟨hdot, hdots, hlong⟩
  · rw [meeting?_cons_of_passes hdir hpass] at h
    obtain ⟨m', hm', rfl⟩ := Option.map_eq_some_iff.mp h
    exact .inr ⟨hpass, m', hm', rfl⟩
  · rw [meeting?_cons_of_isLink hdir hlink] at h
    split at h
    next hasked => exact .inl ⟨goal, hlink, hasked, (Option.some.inj h).symm⟩
    · cases h
  · rw [meeting?, if_pos hdir, if_neg hdot, if_neg hdots, if_pos hlong] at h
    cases h

/-- A path that meets a link is taken by the system. -/
theorem meeting?_of_met? (h : links.met? t cwd last p = some m) : isTaken p ∧
    links.meeting? t (last || p.endsWithSlash) (if p.isAbsolute then [] else cwd) p.steps =
      some m := by
  rw [met?] at h
  split at h
  next htaken => exact ⟨htaken, h⟩
  · cases h

/-- The slash that a detour **starts** with, if it starts with one. -/
def Meeting.start (m : Meeting) (p : Path) : String :=
  if m.goal.isAbsolute || p.isAbsolute then "/" else ""

/-- The slash that a detour **ends** with, behind its steps, if it ends with one. -/
def Meeting.finish (m : Meeting) (p : Path) : String :=
  if (p.endsWithSlash || (m.behind.isEmpty && m.goal.endsWithSlash)) && !m.steps.isEmpty then "/"
  else ""

/-- The text of a detour. -/
theorem Meeting.detour_eq (hgoal : m.goal.text ≠ "") :
    m.detour p = ⟨m.start p ++ String.intercalate "/" m.steps ++ m.finish p⟩ := by
  rw [Meeting.detour, if_neg hgoal]
  rfl

/-- A detour around a link that says something has its steps behind the link. -/
theorem Meeting.steps_detour (hgoal : m.goal.text ≠ "") (hsteps : ∀ s ∈ m.steps, Path.IsStep s) :
    (m.detour p).steps = m.steps := by
  have hfinish : ∀ text : String, Path.steps ⟨text ++ m.finish p⟩ = Path.steps ⟨text⟩ := by
    intro text
    rw [Meeting.finish]
    split
    · rw [← String.append_empty (s := text ++ "/"), Path.steps_slash]
      exact List.append_nil _
    · rw [String.append_empty]
  rw [Meeting.detour_eq hgoal, hfinish, Meeting.start]
  split
  · have hroot := Path.steps_slash "" (String.intercalate "/" m.steps)
    rw [String.empty_append] at hroot
    rw [hroot, Path.steps_intercalate hsteps]
    rfl
  · rw [String.empty_append, Path.steps_intercalate hsteps]

/-- A detour starts at the root if the path does, or what the link says. -/
theorem Meeting.isAbsolute_detour (hgoal : m.goal.text ≠ "")
    (hsteps : ∀ s ∈ m.steps, Path.IsStep s) :
    (m.detour p).isAbsolute = (m.goal.isAbsolute || p.isAbsolute) := by
  rw [Meeting.detour_eq hgoal, Meeting.start]
  cases habs : m.goal.isAbsolute || p.isAbsolute with
  | true => simp [Path.isAbsolute]
  | false =>
      have hne : m.steps ≠ [] := by
        have hgoalSteps := Path.steps_ne_nil hgoal (Bool.or_eq_false_iff.mp habs).1
        rw [Meeting.steps]
        exact List.append_ne_nil_of_left_ne_nil (List.append_ne_nil_of_right_ne_nil _ hgoalSteps) _
      have hjoined : (String.intercalate "/" m.steps).toList ≠ [] := by
        intro hnil
        have hempty := String.toList_eq_nil_iff.mp hnil
        have := Path.steps_intercalate hsteps
        rw [hempty] at this
        exact hne this.symm
      have hplain := Path.isAbsolute_intercalate hsteps
      rw [Path.isAbsolute] at hplain ⊢
      rw [if_neg Bool.false_ne_true, String.empty_append, String.toList_append,
        List.head?_append_of_ne_nil _ hjoined]
      exact hplain

/-- A path that the system takes is resolved by its steps. -/
theorem resolve_of_isTaken (h : isTaken p) :
    t.resolve cwd p = t.walk (if p.isAbsolute then [] else cwd) p.steps := by
  simp only [isTaken, Bool.and_eq_true, Bool.not_eq_true', bne_iff_ne, ne_eq,
    decide_eq_true_eq] at h
  obtain ⟨⟨hnul, hempty⟩, hlong⟩ := h
  rw [Tree.resolve, if_neg (Bool.eq_false_iff.mp hnul), if_neg hempty,
    if_neg (Nat.not_le.mpr hlong)]

/-- A path that leads anywhere is taken by the system. -/
theorem isTaken_of_resolve {target : Tree.Target} (h : t.resolve cwd p = .ok target) :
    isTaken p := by
  simp only [isTaken, Bool.and_eq_true, Bool.not_eq_true', bne_iff_ne, ne_eq,
    decide_eq_true_eq]
  rw [Tree.resolve] at h
  split at h
  · cases h
  next hnul =>
    split at h
    · cases h
    next hempty =>
      split at h
      · cases h
      next hlong => exact ⟨⟨Bool.eq_false_iff.mpr hnul, hempty⟩, Nat.not_le.mp hlong⟩

/-! ### Trees with the same directories -/

/-- **Directories alone** tell which links are met. -/
theorem meeting?_of_isDirectoryAt (h : ∀ at_, t'.isDirectoryAt at_ = t.isDirectoryAt at_)
    (steps : List String) :
    links.meeting? t' last here steps = links.meeting? t last here steps := by
  induction steps generalizing here with
  | nil => rfl
  | cons s rest ih => simp only [meeting?, h, ih]

/-- Directories alone tell where a path leads. -/
theorem follow_of_isDirectoryAt (h : ∀ at_, t'.isDirectoryAt at_ = t.isDirectoryAt at_)
    (p : Path) : links.follow t' cwd last p = links.follow t cwd last p := by
  have hmet : ∀ p, links.met? t' cwd last p = links.met? t cwd last p := by
    intro p
    rw [met?, met?, meeting?_of_isDirectoryAt h]
  rw [follow, follow]
  generalize limit = fuel
  induction fuel generalizing p with
  | zero => rw [followWith, followWith, hmet]
  | succ fuel ih =>
      rw [followWith, followWith, hmet]
      cases links.met? t cwd last p with
      | none => rfl
      | some m => exact ih _

/-- A file that is written makes no directory, and takes none away. -/
theorem isDirectoryAt_of_writeBytes {content : ByteArray} {executable force : Bool}
    (h : t.writeBytes cwd p content executable force = .ok t') (at_ : Place) :
    t'.isDirectoryAt at_ = t.isDirectoryAt at_ := by
  obtain ⟨-, hroot, hdir, -, executable', rfl⟩ := Tree.eq_put_of_writeBytes h
  by_cases hat : at_ = p.place cwd
  · subst hat
    rw [hdir, Tree.isDirectoryAt, Tree.node?_put_self hroot]
    rfl
  · rw [Tree.isDirectoryAt, Tree.node?_put_of_ne hat, Tree.isDirectoryAt]

/-- **What is written along a path is read along it**, wherever its links lead. -/
theorem readText_of_writeText {text : String} (hfollow : links.follow t cwd true p = .ok q)
    (h : t.writeText cwd q text = .ok t') : links.readText t' cwd p = .ok text := by
  rw [readText, follow_of_isDirectoryAt (isDirectoryAt_of_writeBytes h), hfollow]
  exact Tree.readText_of_writeText h

/-! ### Trees with more directories

With one directory more a path may meet a link that it did not come to before. A path that leads to
something went through directories only, and there nothing is new. -/

section

variable (hdirs : ∀ at_, t.isDirectoryAt at_ → t'.isDirectoryAt at_)

include hdirs

/-- What is met is met where there are more directories. -/
theorem meeting?_of_directories {steps : List String}
    (h : links.meeting? t last here steps = some m) :
    links.meeting? t' last here steps = some m := by
  induction steps generalizing here m with
  | nil => cases h
  | cons s rest ih =>
      obtain ⟨hdir, ⟨goal, hlink, hasked, rfl⟩ | ⟨hpass, m', hm', rfl⟩⟩ := meeting?_cons_eq_some h
      · rw [meeting?_cons_of_isLink (hdirs _ hdir) hlink, if_pos hasked]
      · rw [meeting?_cons_of_passes (hdirs _ hdir) hpass, ih hm', Option.map_some]

/-- A way that leads to something meets nothing new where there are more directories. -/
theorem meeting?_eq_none_of_directories {steps : List String} {target : Tree.Target}
    (hwalk : t.walk here steps = .ok target) (h : links.meeting? t last here steps = none) :
    links.meeting? t' last here steps = none := by
  induction steps generalizing here with
  | nil => rfl
  | cons s rest ih =>
      obtain ⟨hdir, hshort, hnext⟩ := Tree.walk_cons_eq_ok hwalk
      rcases passes_or_isLink links here s with hpass | ⟨goal, hlink⟩ | ⟨hdot, hdots, hlong⟩
      · rw [meeting?_cons_of_passes hdir hpass, Option.map_eq_none_iff] at h
        rw [meeting?_cons_of_passes (hdirs _ hdir) hpass, Option.map_eq_none_iff]
        rcases hnext with hnext | ⟨-, rfl, -⟩
        · exact ih hnext h
        · rfl
      · rw [meeting?_cons_of_isLink hdir hlink] at h
        rw [meeting?_cons_of_isLink (hdirs _ hdir) hlink, h]
      · exact absurd hlong (hshort hdot hdots)

/-- **A path that leads to something** leads to it where there are more directories. The induction
is on the links that may still be followed. -/
theorem follow_of_directories {target : Tree.Target} (hfollow : links.follow t cwd last p = .ok q)
    (hresolve : t.resolve cwd q = .ok target) : links.follow t' cwd last p = .ok q := by
  have hnone : links.met? t cwd last q = none → links.met? t' cwd last q = none := by
    intro hmet
    have htaken := isTaken_of_resolve hresolve
    rw [met?, if_pos htaken] at hmet ⊢
    exact meeting?_eq_none_of_directories hdirs (Tree.walk_of_resolve hresolve) hmet
  have hsome : ∀ {p m}, links.met? t cwd last p = some m → links.met? t' cwd last p = some m := by
    intro p m hmet
    obtain ⟨htaken, hmeeting⟩ := meeting?_of_met? hmet
    rw [met?, if_pos htaken, meeting?_of_directories hdirs hmeeting]
  rw [follow] at hfollow ⊢
  generalize limit = fuel at hfollow ⊢
  induction fuel generalizing p with
  | zero =>
      rw [followWith] at hfollow ⊢
      cases hmet : links.met? t cwd last p with
      | some m =>
          rw [hmet] at hfollow
          cases hfollow
      | none =>
          rw [hmet] at hfollow
          obtain rfl : p = q := Except.ok.inj hfollow
          rw [hnone hmet]
          rfl
  | succ fuel ih =>
      rw [followWith] at hfollow ⊢
      cases hmet : links.met? t cwd last p with
      | some m =>
          rw [hmet] at hfollow
          rw [hsome hmet]
          exact ih hfollow
      | none =>
          rw [hmet] at hfollow
          obtain rfl : p = q := Except.ok.inj hfollow
          rw [hnone hmet]

end

/-! ### Where paths arrive -/

/-- The places at which a path may **arrive**, whatever directories there are. -/
def arrivals (links : Links) (cwd : Place) (last : Bool) (p : Path) : Set Place :=
  {at_ | ∃ t q, links.follow t cwd last p = .ok q ∧ q.place cwd = at_}

/-- Where a path arrives in some tree is one of its arrivals. -/
theorem mem_arrivals (h : links.follow t cwd last p = .ok q) :
    q.place cwd ∈ links.arrivals cwd last p :=
  ⟨t, q, h, rfl⟩

/-- Where no place is a link, a path arrives at its place. -/
@[simp] theorem arrivals_nil (cwd : Place) (last : Bool) (p : Path) :
    arrivals [] cwd last p = {p.place cwd} := by
  ext at_
  constructor
  · rintro ⟨t, q, hfollow, rfl⟩
    rw [follow_nil] at hfollow
    rw [Except.ok.inj hfollow]
    rfl
  · rintro rfl
    exact ⟨⟨[]⟩, p, follow_nil, rfl⟩

/-- **What is read along a path** is read again in a tree that extends the one before, if no file is
touched where the path may arrive. -/
theorem readText_of_extends {apart : Set Place} {text : String} (h : t.Extends apart t')
    (hapart : Disjoint (links.arrivals cwd true p) apart)
    (hread : links.readText t cwd p = .ok text) : links.readText t' cwd p = .ok text := by
  obtain ⟨q, hfollow, hread⟩ := exists_of_bind_eq_ok hread
  obtain ⟨executable, hresolve, -⟩ := Tree.readText_eq_ok_iff.mp hread
  rw [readText, follow_of_directories h.directories hfollow hresolve]
  exact h.readText (Set.disjoint_left.mp hapart (mem_arrivals hfollow)) hread

/-- What is read along a path is held where the path may arrive. -/
theorem exists_holds_of_readText {text : String} (h : links.readText t cwd p = .ok text) :
    ∃ at_ ∈ links.arrivals cwd true p, t.Holds at_ text := by
  obtain ⟨q, hfollow, hread⟩ := exists_of_bind_eq_ok h
  exact ⟨_, mem_arrivals hfollow, Tree.holds_of_readText hread⟩

/-- All places where some paths may **arrive**. -/
def reached (links : Links) (cwd : Place) (paths : Set Path) : Set Place :=
  {at_ | ∃ p ∈ paths, at_ ∈ links.arrivals cwd true p}

/-- Where no place is a link, paths arrive at their places. -/
theorem mem_reached_nil {paths : Set Path} {at_ : Place} :
    at_ ∈ reached [] cwd paths ↔ ∃ p ∈ paths, at_ = p.place cwd := by
  simp only [reached, arrivals_nil]
  rfl

/-- No path arrives anywhere if there is none. -/
@[simp] theorem reached_empty (links : Links) (cwd : Place) : links.reached cwd ∅ = ∅ := by
  simp [reached]

/-- The arrivals of a single path. -/
@[simp] theorem reached_singleton (links : Links) (cwd : Place) (p : Path) :
    links.reached cwd {p} = links.arrivals cwd true p := by
  simp [reached]

/-- More paths arrive at more places. -/
theorem reached_mono {paths more : Set Path} (links : Links) (cwd : Place) (h : paths ⊆ more) :
    links.reached cwd paths ⊆ links.reached cwd more :=
  fun _ ⟨p, hp, hat⟩ => ⟨p, h hp, hat⟩

/-- The places that the path of a directory **covers**, through whatever links: all at and under
those where it may arrive, or a path into it. -/
def covered (links : Links) (cwd : Place) (p : Path) : Set Place :=
  {at_ | ∃ q last top, p.Into q ∧ top ∈ links.arrivals cwd last q ∧ Tree.isUnder top at_}

/-- Where no place is a link, a directory covers its own place and all under it. -/
theorem mem_covered_nil {at_ : Place} :
    at_ ∈ covered [] cwd p ↔ Tree.isUnder (p.place cwd) at_ := by
  constructor
  · rintro ⟨q, last, top, hinto, htop, hunder⟩
    rw [arrivals_nil] at htop
    obtain rfl : top = q.place cwd := htop
    exact List.isSuffixOf_iff_suffix.mpr ((hinto.suffix_place cwd).trans
      (List.isSuffixOf_iff_suffix.mp hunder))
  · intro hunder
    exact ⟨p, true, p.place cwd, .inl rfl, by rw [arrivals_nil]; rfl, hunder⟩

end Links

end GeoBench.Machine
