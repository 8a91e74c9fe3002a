import GeoBench.Machine.Tree
import GeoBench.Proofs.Text.Pieces
import Mathlib.Data.Set.Basic

/-!
# Places that paths name

In a file tree every path has a meaning of its own: its steps lead to one **place**, whatever the
tree holds, and a request of the tree that succeeds is a request on that place. So the effect of a
request can be told by places, and the place of a path that is joined from a directory and a name is
the name in front of the place of the directory.

A world may have links beside its tree. Then a path is led around them first, and what is told here
of a path is true of the path that comes out, which is the same one where there are no links.

## Places and paths

A place is a list of names from the file up to the root, so what is below a directory has the place
of the directory for a suffix. A path is a text, and its steps are the pieces between its slashes;
a step may go up, and at the root it stays there. Two paths lead to one place if their steps do,
however they are written.

## Names

Which file a path is about can often be told by the last step of the path alone. A path has a name
(`Path.HasName`) if its place begins with it whatever the working directory is, and paths with
different names lead to different places. All generated files are told apart in this way, and no
file has to be located for it.

## Main results

* `Path.place_sub`, `Path.place_sub_name` — the place of a joined path.
* `Path.hasName_sub`, `Path.HasName.place_ne` — its name, and that other names are other places.
* `Tree.place_of_resolve` — a path that leads anywhere leads to its place.
-/

namespace GeoBench.Machine

open GeoBench.Text

/-- What follows a result that is there was given that result. -/
theorem exists_of_bind_eq_ok {ε α β : Type} {x : Except ε α} {next : α → Except ε β} {b : β}
    (h : (x >>= next) = .ok b) : ∃ a, x = .ok a ∧ next a = .ok b := by
  cases x with
  | error fault => cases h
  | ok a => exact ⟨a, rfl, h⟩

/-- Whether a result is there, and which one it is, can be decided if values can be compared. -/
instance decidableEqOk {ε α : Type} [DecidableEq α] (x : Except ε α) (a : α) :
    Decidable (x = .ok a) :=
  decidable_of_iff (x.toOption = some a) (by cases x <;> simp [Except.toOption])

/-! ### Places -/

/-- One **step** from a place, taken without a look at the tree. -/
def Place.step (here : Place) (s : String) : Place :=
  if s = "." then here else if s = ".." then here.tail else s :: here

namespace Path

/-- The **place** that a path names, seen from a working directory. -/
def place (cwd : Place) (p : Path) : Place :=
  p.steps.foldl Place.step (if p.isAbsolute then [] else cwd)

/-- A text that is a single step into a directory: it has a character, but no slash, and is neither
of the two names that lead elsewhere. -/
structure IsName (s : String) : Prop where
  ne_empty : s ≠ ""
  ne_dot : s ≠ "."
  ne_dots : s ≠ ".."
  no_slash : '/' ∉ s.toList

/-- Whether a text is a name can be decided. -/
instance decidableIsName (s : String) : Decidable (IsName s) :=
  decidable_of_iff (s ≠ "" ∧ s ≠ "." ∧ s ≠ ".." ∧ '/' ∉ s.toList)
    ⟨fun ⟨hempty, hdot, hdots, hslash⟩ => ⟨hempty, hdot, hdots, hslash⟩,
      fun h => ⟨h.ne_empty, h.ne_dot, h.ne_dots, h.no_slash⟩⟩

/-- A path falls into the pieces between its slashes. -/
theorem pieces_eq_splitAtSep (cs : List Char) : pieces cs = splitAtSep '/' cs := by
  induction cs with
  | nil => rfl
  | cons c cs ih =>
      rw [pieces, splitAtSep, ih]
      cases splitAtSep '/' cs <;> rfl

/-- The steps of a text with a slash in it are those before the slash and those behind it. -/
theorem steps_append (before behind : List Char) :
    steps ⟨String.ofList (before ++ '/' :: behind)⟩ =
      steps ⟨String.ofList before⟩ ++ steps ⟨String.ofList behind⟩ := by
  simp only [steps, String.toList_ofList, pieces_eq_splitAtSep, splitAtSep_append,
    List.filter_append, List.map_append]

/-- A name is its own step. -/
theorem IsName.steps_eq {s : String} (h : IsName s) : steps ⟨s⟩ = [s] := by
  have hne : s.toList ≠ [] := fun hnil => h.ne_empty (String.toList_eq_nil_iff.mp hnil)
  rw [steps, pieces_eq_splitAtSep, splitAtSep_of_notMem h.no_slash]
  simp [hne]

/-- A name does not start at the root. -/
theorem IsName.not_isAbsolute {s : String} (h : IsName s) : isAbsolute ⟨s⟩ = false := by
  rw [isAbsolute, beq_eq_false_iff_ne]
  exact fun hhead => h.no_slash (List.mem_of_mem_head? hhead)

/-- A text that ends with a slash has no step behind it. -/
theorem steps_concat_slash (cs : List Char) :
    steps ⟨String.ofList (cs ++ ['/'])⟩ = steps ⟨String.ofList cs⟩ := by
  rw [steps_append]
  exact List.append_nil _

/-- A path that is joined with a relative one is that one behind a slash, unless the path is
empty. -/
theorem sub_eq (p : Path) {q : String} (hq : isAbsolute ⟨q⟩ = false) :
    p.text = "" ∧ p.sub q = ⟨q⟩ ∨
      ∃ before, p.sub q = ⟨String.ofList (before ++ '/' :: q.toList)⟩ ∧
        (before ≠ [] ∧ p.text.toList = before ∨ p.text.toList = before ++ ['/']) := by
  simp only [sub, join, hq, Bool.false_eq_true, if_false]
  cases hlast : p.text.toList.getLast? with
  | none =>
      have hempty : p.text = "" :=
        String.toList_eq_nil_iff.mp (List.getLast?_eq_none_iff.mp hlast)
      exact .inl ⟨hempty, by rw [hempty]; simp⟩
  | some c =>
      obtain ⟨before, hbefore⟩ := List.getLast?_eq_some_iff.mp hlast
      by_cases hc : c = '/'
      · subst hc
        refine .inr ⟨before, ?_, .inr hbefore⟩
        simp [← String.toList_inj, hbefore]
      · refine .inr ⟨p.text.toList, ?_, .inl ⟨?_, rfl⟩⟩
        · simp [← String.toList_inj, hc]
        · simp [hbefore]

/-- A joined path takes the steps of both parts. -/
theorem steps_sub (p : Path) {q : String} (hq : isAbsolute ⟨q⟩ = false) :
    (p.sub q).steps = p.steps ++ steps ⟨q⟩ := by
  obtain ⟨text⟩ := p
  rcases sub_eq ⟨text⟩ hq with ⟨hempty, hsub⟩ | ⟨before, hsub, hbefore⟩
  · obtain rfl : text = "" := hempty
    rw [hsub]
    rfl
  · rw [hsub, steps_append, String.ofList_toList]
    congr 1
    rcases hbefore with ⟨-, hbefore⟩ | hbefore
    · rw [← hbefore, String.ofList_toList]
    · rw [← steps_concat_slash, ← hbefore, String.ofList_toList]

/-- A joined path starts where its first part does. -/
theorem isAbsolute_sub (p : Path) {q : String} (hq : isAbsolute ⟨q⟩ = false) :
    (p.sub q).isAbsolute = p.isAbsolute := by
  obtain ⟨text⟩ := p
  rcases sub_eq ⟨text⟩ hq with ⟨hempty, hsub⟩ | ⟨before, hsub, hbefore⟩
  · obtain rfl : text = "" := hempty
    rw [hsub, hq]
    rfl
  · rw [hsub, isAbsolute, isAbsolute, String.toList_ofList]
    rcases hbefore with ⟨hne, hbefore⟩ | hbefore
    · rw [hbefore, List.head?_append_of_ne_nil _ hne]
    · rw [hbefore]
      cases before <;> rfl

/-- **The place of a joined path** is reached by the steps of the second part from the place of the
first one. -/
theorem place_sub (cwd : Place) (p : Path) {q : String} (hq : isAbsolute ⟨q⟩ = false) :
    (p.sub q).place cwd = (steps ⟨q⟩).foldl Place.step (p.place cwd) := by
  rw [place, steps_sub p hq, isAbsolute_sub p hq, List.foldl_append, place]

/-- The place of a name in a directory. -/
theorem place_sub_name (cwd : Place) (p : Path) {name : String} (h : IsName name) :
    (p.sub name).place cwd = name :: p.place cwd := by
  rw [place_sub cwd p h.not_isAbsolute, h.steps_eq, List.foldl_cons, List.foldl_nil, Place.step,
    if_neg h.ne_dot, if_neg h.ne_dots]

/-- The place that ordinary steps lead to from a directory. -/
theorem place_sub_names (cwd : Place) (p : Path) {q : String} (hq : isAbsolute ⟨q⟩ = false)
    (hsteps : ∀ s ∈ steps ⟨q⟩, s ≠ "." ∧ s ≠ "..") :
    (p.sub q).place cwd = (steps ⟨q⟩).reverse ++ p.place cwd := by
  rw [place_sub cwd p hq]
  generalize steps ⟨q⟩ = names at hsteps ⊢
  generalize p.place cwd = here
  induction names generalizing here with
  | nil => rfl
  | cons s rest ih =>
      obtain ⟨hdot, hdots⟩ := hsteps s List.mem_cons_self
      rw [List.foldl_cons, Place.step, if_neg hdot, if_neg hdots,
        ih (fun s' hs' => hsteps s' (List.mem_cons_of_mem s hs')), List.reverse_cons,
        List.append_assoc, List.singleton_append]

/-- A path that leads **into** a directory: that of the directory itself, or one that goes on from
it with steps that do not lead up. -/
def Into (p q : Path) : Prop :=
  q = p ∨ ∃ r, isAbsolute ⟨r⟩ = false ∧ ".." ∉ steps ⟨r⟩ ∧ q = p.sub r

/-- A path into a directory names a place at or under that of the directory. -/
theorem Into.suffix_place {p q : Path} (h : p.Into q) (cwd : Place) :
    p.place cwd <:+ q.place cwd := by
  have hsteps : ∀ (names : List String) (here : Place), ".." ∉ names →
      here <:+ names.foldl Place.step here := by
    intro names
    induction names with
    | nil => exact fun here _ => List.suffix_rfl
    | cons s rest ih =>
        intro here hup
        rw [List.mem_cons, not_or] at hup
        refine List.IsSuffix.trans ?_ (ih (Place.step here s) hup.2)
        rw [Place.step]
        split
        · exact List.suffix_rfl
        · rw [if_neg (Ne.symm hup.1)]
          exact List.suffix_cons s here
  rcases h with rfl | ⟨r, hr, hup, rfl⟩
  · exact List.suffix_rfl
  · rw [place_sub cwd p hr]
    exact hsteps _ _ hup

/-! ### Names -/

/-- A path **has a name** if its place does, whatever the working directory. -/
def HasName (p : Path) (name : String) : Prop :=
  ∀ cwd, (p.place cwd).head? = some name

/-- A joined path has the name of its last step, unless that leads elsewhere. -/
theorem hasName_sub (p : Path) {q name : String} (hq : isAbsolute ⟨q⟩ = false)
    (hlast : (steps ⟨q⟩).getLast? = some name) (hdot : name ≠ ".") (hdots : name ≠ "..") :
    (p.sub q).HasName name := by
  intro cwd
  obtain ⟨init, hinit⟩ := List.getLast?_eq_some_iff.mp hlast
  rw [place_sub cwd p hq, hinit, List.foldl_append, List.foldl_cons, List.foldl_nil, Place.step,
    if_neg hdot, if_neg hdots, List.head?_cons]

end Path

namespace Path.HasName

variable {p q : Path} {a b : String} {cwd : Place}

/-- Paths with different names have different places. -/
theorem place_ne (hp : p.HasName a) (hq : q.HasName b) (hne : a ≠ b) :
    p.place cwd ≠ q.place cwd := by
  intro heq
  have hhead := hq cwd
  rw [← heq, hp cwd] at hhead
  exact hne (Option.some.inj hhead)

/-- Paths with different names are different. -/
theorem ne (hp : p.HasName a) (hq : q.HasName b) (hne : a ≠ b) : p ≠ q :=
  fun heq => hp.place_ne hq hne (congrArg (Path.place []) heq)

end Path.HasName

/-- A place is **below** another one: under it, and not the same. -/
def Place.Below (top at_ : Place) : Prop :=
  Tree.isUnder top at_ ∧ at_ ≠ top

/-- What some names lead to from a place is below it. -/
theorem Place.below_append (top : Place) {names : List String} (h : names ≠ []) :
    Place.Below top (names ++ top) :=
  ⟨List.isSuffixOf_iff_suffix.mpr (List.suffix_append names top),
    fun heq => h (List.append_left_eq_self.mp heq)⟩

namespace Tree

variable {t t' : Tree} {cwd here at_ : Place} {p : Path} {node : Node} {target : Target}

/-! ### Targets -/

/-- The place where a target is, or would be. -/
def Target.place : Target → Place
  | present at_ _ => at_
  | absent directory name => name :: directory

/-- What is at the place of a target. -/
def Target.node? : Target → Option Node
  | present _ node => some node
  | absent _ _ => none

/-- A name that a directory may hold. The two names that lead elsewhere are of any directory. -/
def IsShort (s : String) : Prop :=
  s ≠ "." → s ≠ ".." → ¬ maxName < s.utf8ByteSize

/-- A step of a walk begins in a directory, and leads on to the next place or is the last one. -/
theorem walk_cons_eq_ok {s : String} {rest : List String}
    (h : t.walk here (s :: rest) = .ok target) :
    t.isDirectoryAt here ∧ IsShort s ∧ (t.walk (Place.step here s) rest = .ok target ∨
      target = .absent here s ∧ rest = [] ∧ Place.step here s = s :: here ∧
        t.node? (s :: here) = none) := by
  unfold walk at h
  split at h
  next hdir =>
    refine ⟨hdir, ?_⟩
    split at h
    next hdot =>
      exact ⟨fun hne => absurd hdot hne, .inl (by rw [Place.step, if_pos hdot]; exact h)⟩
    next hdot =>
      split at h
      next hdots =>
        refine ⟨fun _ hne => absurd hdots hne, .inl ?_⟩
        rw [Place.step, if_neg hdot, if_pos hdots]
        exact h
      next hdots =>
        have hstep : Place.step here s = s :: here := by
          rw [Place.step, if_neg hdot, if_neg hdots]
        split at h
        · cases h
        next hshort =>
          refine ⟨fun _ _ => hshort, ?_⟩
          split at h
          next hnone => exact .inr ⟨(Except.ok.inj h).symm, rfl, hstep, hnone⟩
          · cases h
          next => exact .inl (by rw [hstep]; exact h)
  · cases h

/-- A step that leads to something leads on from there. -/
theorem walk_cons_of_isSome {s : String} (hdir : t.isDirectoryAt here) (hshort : IsShort s)
    (hsome : (t.node? (Place.step here s)).isSome) (rest : List String) :
    t.walk here (s :: rest) = t.walk (Place.step here s) rest := by
  conv_lhs => unfold walk
  rw [if_pos hdir]
  by_cases hdot : s = "."
  · rw [if_pos hdot, Place.step, if_pos hdot]
  · rw [if_neg hdot]
    by_cases hdots : s = ".."
    · rw [if_pos hdots, Place.step, if_neg hdot, if_pos hdots]
    · rw [Place.step, if_neg hdot, if_neg hdots] at hsome ⊢
      obtain ⟨node, hnode⟩ := Option.isSome_iff_exists.mp hsome
      rw [if_neg hdots, if_neg (hshort hdot hdots), hnode]

/-- A place that holds a directory holds something. -/
theorem isSome_node?_of_isDirectoryAt (h : t.isDirectoryAt here) : (t.node? here).isSome := by
  cases hnode : t.node? here with
  | some node => rfl
  | none => simp [isDirectoryAt, hnode] at h

/-- A walk leads to the place of its steps, and finds what is there. -/
theorem place_of_walk {steps : List String} (h : t.walk here steps = .ok target) :
    target.place = steps.foldl Place.step here ∧ t.node? target.place = target.node? := by
  induction steps generalizing here with
  | nil =>
      rw [walk] at h
      split at h
      next node hnode =>
        obtain rfl := Except.ok.inj h
        exact ⟨rfl, hnode⟩
      · cases h
  | cons s rest ih =>
      rw [List.foldl_cons]
      obtain ⟨-, -, hnext | ⟨rfl, rfl, hstep, hnone⟩⟩ := walk_cons_eq_ok h
      · exact ih hnext
      · exact ⟨hstep.symm, hnone⟩

/-- What begins with a step begins at something. -/
theorem isSome_node?_of_walk {steps : List String}
    (h : t.walk here steps = .ok (.present at_ node)) : (t.node? here).isSome := by
  cases steps with
  | nil =>
      obtain ⟨rfl, hnode⟩ := place_of_walk h
      exact Option.isSome_iff_exists.mpr ⟨node, hnode⟩
  | cons s rest => exact isSome_node?_of_isDirectoryAt (walk_cons_eq_ok h).1

/-- **A walk in a tree with the same directories**, or more of them, leads to the same place if
there is something at that place. -/
theorem walk_of_directories {steps : List String}
    (hdirs : ∀ at_, t.isDirectoryAt at_ → t'.isDirectoryAt at_)
    (h : t.walk here steps = .ok target) (hnode : t'.node? target.place = some node) :
    t'.walk here steps = .ok (.present target.place node) := by
  induction steps generalizing here with
  | nil =>
      obtain ⟨hplace, -⟩ := place_of_walk h
      obtain rfl : target.place = here := hplace
      rw [walk, hnode]
  | cons s rest ih =>
      obtain ⟨hdir, hshort, hnext | ⟨rfl, rfl, hstep, -⟩⟩ := walk_cons_eq_ok h
      · have hsome : (t'.node? (Place.step here s)).isSome := by
          cases rest with
          | nil =>
              obtain ⟨hplace, -⟩ := place_of_walk hnext
              rw [List.foldl_nil] at hplace
              rw [← hplace, hnode]
              rfl
          | cons s' rest =>
              exact isSome_node?_of_isDirectoryAt (hdirs _ (walk_cons_eq_ok hnext).1)
        rw [walk_cons_of_isSome (hdirs _ hdir) hshort hsome]
        exact ih hnext
      · obtain hnode : t'.node? (s :: here) = some node := hnode
        have hsome : (t'.node? (Place.step here s)).isSome := by rw [hstep, hnode]; rfl
        rw [walk_cons_of_isSome (hdirs _ hdir) hshort hsome, hstep, walk, hnode]
        rfl

/-- A path that leads somewhere was walked, from the root or from the working directory. -/
theorem walk_of_resolve (h : t.resolve cwd p = .ok target) :
    t.walk (if p.isAbsolute then [] else cwd) p.steps = .ok target := by
  rw [resolve] at h
  split at h
  · cases h
  · split at h
    · cases h
    · split at h
      · cases h
      · exact h

/-- **A path that leads anywhere leads to its place.** -/
theorem place_of_resolve (h : t.resolve cwd p = .ok target) :
    target.place = p.place cwd ∧ t.node? (p.place cwd) = target.node? := by
  obtain ⟨hplace, hnode⟩ := place_of_walk (walk_of_resolve h)
  rw [hplace] at hnode
  exact ⟨hplace, hnode⟩

/-- A path leads to its place in a tree with the same directories, or more of them. -/
theorem resolve_of_directories (hdirs : ∀ at_, t.isDirectoryAt at_ → t'.isDirectoryAt at_)
    (h : t.resolve cwd p = .ok target) (hnode : t'.node? (p.place cwd) = some node) :
    t'.resolve cwd p = .ok (.present (p.place cwd) node) := by
  rw [← (place_of_resolve h).1] at hnode ⊢
  have hwalk := walk_of_directories hdirs (walk_of_resolve h) hnode
  rw [resolve] at h ⊢
  split at h
  · cases h
  next hnul =>
    split at h
    · cases h
    next hempty =>
      split at h
      · cases h
      next hlong => rw [if_neg hnul, if_neg hempty, if_neg hlong, hwalk]

/-- What is found at a path is what the path leads to. -/
theorem resolve_of_find (h : t.find cwd p = .ok (at_, node)) :
    t.resolve cwd p = .ok (.present at_ node) := by
  rw [find] at h
  obtain ⟨target, hresolve, h⟩ := exists_of_bind_eq_ok h
  cases target with
  | absent directory name => cases h
  | present place found =>
      cases found with
      | directory =>
          obtain ⟨rfl, rfl⟩ := Prod.mk.inj (Except.ok.inj h)
          exact hresolve
      | file content executable =>
          dsimp only at h
          split at h
          · cases h
          · obtain ⟨rfl, rfl⟩ := Prod.mk.inj (Except.ok.inj h)
            exact hresolve

/-- What is found at a path is at its place. -/
theorem place_of_find (h : t.find cwd p = .ok (at_, node)) :
    at_ = p.place cwd ∧ t.node? (p.place cwd) = some node :=
  place_of_resolve (resolve_of_find h)

/-! ### Existence -/

/-- A path that leads to something, leads to what is found there. -/
theorem find_of_existsAt (h : t.existsAt cwd p = true) :
    ∃ node, t.find cwd p = .ok (p.place cwd, node) := by
  rw [existsAt] at h
  split at h
  next found hfind =>
    obtain ⟨at_, node⟩ := found
    obtain ⟨rfl, -⟩ := place_of_find hfind
    exact ⟨node, hfind⟩
  · cases h

end Tree

end GeoBench.Machine
