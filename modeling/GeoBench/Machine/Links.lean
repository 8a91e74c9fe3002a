import GeoBench.Machine.Tree

/-!
# Symbolic links

A **link** is a place that stands for a path: a path that comes across it goes on along the path
that the link says. The links of a file system are kept beside its tree, as a list of the places
that are links with what each of them says; the tree has nothing at these places.

## Detours

A path is led around its links one at a time. The first link on the way is replaced, in the path, by
what the link says: behind the steps before it, or from the root if it says an absolute path. What
comes out is a path again, with the same meaning and one link less on its way; when no link is left,
it is a path of the tree. The system follows forty links and no more, so links in a circle are a
fault and not an endless way. A path that the system refuses as it stands is led around nothing, and
a link that says nothing leads nowhere.

The last step of a path is led around its link when a file is read, written or looked for, and when
the path ends with a slash. It is not when a directory is made or removed: where a link is, no
directory can be made, and to remove the link is all that a removal does. Whatever the link led to
stays.

The limit on the length of a path is put on every path of the way, and so on what comes out of a
detour too, where the system puts it on the path and on what each link says.

## Main results

* `Links.follow_of_met?` — a path that meets no link is what it is.
* `Links.follow_nil`, `Links.readText_nil`, `Links.maker_nil` — where no place is a link, paths and
  requests mean what they mean to the tree.
-/

namespace GeoBench.Machine

/-- The **links** of a file system: the places that are links, with the path that each says. -/
abbrev Links := List (Place × Path)

namespace Links

/-- How many links are followed on the way of one path. -/
abbrev limit : Nat := 40

/-- A link that a path **meets**: the steps before it, the path that it says, and the steps behind
it. -/
structure Meeting where
  before : List String
  goal : Path
  behind : List String
  deriving DecidableEq, Repr

namespace Meeting

/-- The same meeting after one step more. -/
def after (step : String) (m : Meeting) : Meeting :=
  { m with before := step :: m.before }

/-- The steps of a path **around** a link: what the link says stands in its place, and alone before
the rest if it is absolute. -/
def steps (m : Meeting) : List String :=
  (if m.goal.isAbsolute then [] else m.before) ++ m.goal.steps ++ m.behind

/-- The **detour** of a path around a link. -/
def detour (m : Meeting) (p : Path) : Path :=
  if m.goal.text = "" then ⟨""⟩
  else
    let slash := p.endsWithSlash || (m.behind.isEmpty && m.goal.endsWithSlash)
    ⟨(if m.goal.isAbsolute || p.isAbsolute then "/" else "") ++ String.intercalate "/" m.steps ++
      (if slash && !m.steps.isEmpty then "/" else "")⟩

end Meeting

/-- The first link that some steps **meet** on their way from a place. The last step counts only if
it is asked for. Where a step is no directory the way ends, and where a name is too long. -/
def meeting? (links : Links) (t : Tree) (last : Bool) (here : Place) : List String → Option Meeting
  | [] => none
  | step :: rest =>
    if t.isDirectoryAt here then
      if step = "." then (links.meeting? t last here rest).map (.after step)
      else if step = ".." then (links.meeting? t last here.tail rest).map (.after step)
      else if Tree.maxName < step.utf8ByteSize then none
      else
        match links.lookup (step :: here) with
        | some goal => if last || !rest.isEmpty then some ⟨[], goal, rest⟩ else none
        | none => (links.meeting? t last (step :: here) rest).map (.after step)
    else none

/-- Whether the system **takes** a path, wherever it leads. -/
def isTaken (p : Path) : Bool :=
  !p.text.contains '\x00' && p.text != "" && p.text.utf8ByteSize < Tree.pathLimit

/-- The first link that a path meets. A path that ends with a slash means what its last step leads
to. -/
def met? (links : Links) (t : Tree) (cwd : Place) (last : Bool) (p : Path) : Option Meeting :=
  if isTaken p then
    links.meeting? t (last || p.endsWithSlash) (if p.isAbsolute then [] else cwd) p.steps
  else none

/-- A path led around its links, as many as the fuel allows. -/
def followWith (links : Links) (t : Tree) (cwd : Place) (last : Bool) :
    Nat → Path → Except Fault Path
  | 0, p => if (links.met? t cwd last p).isSome then .error .tooManyLinks else .ok p
  | fuel + 1, p =>
    match links.met? t cwd last p with
    | none => .ok p
    | some m => links.followWith t cwd last fuel (m.detour p)

variable (links : Links)

/-- A path **led around** its links, the last step too if that is asked for. -/
def follow (t : Tree) (cwd : Place) (last : Bool) (p : Path) : Except Fault Path :=
  links.followWith t cwd last limit p

/-! ### Requests -/

/-- The text of the file that a path leads to. -/
def readText (t : Tree) (cwd : Place) (p : Path) : Except Fault String := do
  t.readText cwd (← links.follow t cwd true p)

/-- Whether a path leads to something of some kind. -/
def leadsTo (kind : Path → Bool) (t : Tree) (cwd : Place) (p : Path) : Bool :=
  match links.follow t cwd true p with
  | .ok q => kind q
  | .error _ => false

/-- Whether a path leads to anything. -/
def existsAt (t : Tree) (cwd : Place) (p : Path) : Bool :=
  links.leadsTo (t.existsAt cwd) t cwd p

/-- Whether a path leads to a regular file. -/
def isFile (t : Tree) (cwd : Place) (p : Path) : Bool :=
  links.leadsTo (t.isFile cwd) t cwd p

/-- Whether a path leads to a directory. -/
def isDirectory (t : Tree) (cwd : Place) (p : Path) : Bool :=
  links.leadsTo (t.isDirectory cwd) t cwd p

/-- The link that a path **is**, when no other link is on its way. -/
def link? (t : Tree) (cwd : Place) (p : Path) : Option Place :=
  let among (at_ : Place) := if (links.lookup at_).isSome then some at_ else none
  match t.resolve cwd p with
  | .ok (.present at_ _) => among at_
  | .ok (.absent directory name) => among (name :: directory)
  | .error _ => none

/-- The tree with a new directory at a path. There is something already where a link is. -/
def makeDirectory (t : Tree) (cwd : Place) (p : Path) : Except Fault Tree := do
  let q ← links.follow t cwd false p
  if (links.link? t cwd q).isSome then .error .alreadyExists else t.makeDirectory cwd q

/-- Directories are made where the links lead. -/
def maker (cwd : Place) : Tree.Maker where
  make t p := links.makeDirectory t cwd p
  isThere t p := links.isDirectory t cwd p

/-- The tree with a directory at a path and at every parent of it. -/
def makeAll (t : Tree) (cwd : Place) (p : Path) : Tree.Made :=
  (links.maker cwd).makeAll t p

/-- Where something can be removed **whole**: at the link that a path is, or at the directory that
it leads to. -/
def removable (t : Tree) (cwd : Place) (p : Path) : Except Fault Place := do
  let q ← links.follow t cwd false p
  match links.link? t cwd q with
  | some at_ => .ok at_
  | none =>
    match ← t.find cwd q with
    | (top, .directory) => .ok top
    | (_, .file _ _) => .error .notADirectory

/-- The tree and the links without the directory at a path, or the link that the path is, and all
that is under its place. Under a link there is nothing. -/
def removeDirectory (t : Tree) (cwd : Place) (p : Path) : Except Fault (Tree × Links) := do
  let top ← links.removable t cwd p
  .ok (t.removeAll top, links.filter fun link => !Tree.isUnder top link.1)

/-! ### Laws -/

variable {links} {t : Tree} {cwd here : Place} {last : Bool} {p : Path}

/-- Where no place is a link, no link is met. -/
theorem meeting?_nil (steps : List String) : meeting? [] t last here steps = none := by
  induction steps generalizing here with
  | nil => rfl
  | cons step rest ih =>
      simp only [meeting?, List.lookup_nil, ih, Option.map_none, ite_self]

/-- Where no place is a link, no path meets one. -/
theorem met?_nil : met? [] t cwd last p = none := by
  rw [met?, meeting?_nil, ite_self]

/-- A path that meets no link is what it is. -/
theorem follow_of_met? (h : links.met? t cwd last p = none) :
    links.follow t cwd last p = .ok p := by
  rw [follow, limit, followWith, h]

/-- Where no place is a link, **every path is what it is**. -/
@[simp] theorem follow_nil : follow [] t cwd last p = .ok p :=
  follow_of_met? met?_nil

/-- Where no place is a link, the text that is read is the tree's. -/
@[simp] theorem readText_nil : readText [] t cwd p = t.readText cwd p := by
  rw [readText, follow_nil]
  rfl

/-- Where no place is a link, the tree tells what a path leads to. -/
@[simp] theorem leadsTo_nil (kind : Path → Bool) : leadsTo [] kind t cwd p = kind p := by
  rw [leadsTo, follow_nil]

/-- Where no place is a link, no path is one. -/
@[simp] theorem link?_nil : link? [] t cwd p = none := by
  simp only [link?, List.lookup_nil, Option.isSome_none, Bool.false_eq_true, if_false]
  split <;> rfl

/-- Where no place is a link, directories are made in the tree itself. -/
@[simp] theorem maker_nil : maker [] cwd = Tree.maker cwd := by
  have hmake : ∀ t p, makeDirectory [] t cwd p = Tree.makeDirectory t cwd p := by
    intro t p
    rw [makeDirectory, follow_nil]
    simp only [bind, Except.bind, link?_nil, Option.isSome_none, Bool.false_eq_true, if_false]
  have hthere : ∀ t p, isDirectory [] t cwd p = Tree.isDirectory t cwd p :=
    fun t p => leadsTo_nil _
  simp only [maker, Tree.maker, hmake, hthere]

end Links

end GeoBench.Machine
