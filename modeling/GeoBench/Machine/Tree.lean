import GeoBench.Machine.Fault
import GeoBench.Machine.Path
import GeoBench.Text.Utf8

/-!
# The file tree

Directories and regular files by their places. A **place** is the list of names from the inside out,
so that the parent of a place is its tail and everything at or under a place has that place as a
suffix. A path is resolved from the working directory one step at a time; every step but the last
has to lead to a directory.

## What a tree does not tell

A tree has directories and regular files only. The symbolic links of a file system are kept beside
its tree (`GeoBench.Machine.Links`): a path is first led around the links on its way, and what it is
then is a path of the tree. A tree grants every request that its shape allows; that a disk may give
up in the middle of a write is told of the world (`GeoBench.Machine.World`), and that a user may
lack a permission is not told at all.

## Main results

* `Tree.node?_put_self`, `Tree.node?_put_of_ne` — what is found after something is put at a place.
* `Tree.node?_removeAll` — after a removal, nothing at or under the place is left, and all else is
  as before.
-/

namespace GeoBench.Machine

/-- A **place** in the tree: its names from the inside out, none for the root. -/
abbrev Place := List String

/-- The path of a place from the root. -/
def placePath (place : Place) : Path :=
  ⟨"/" ++ String.intercalate "/" place.reverse⟩

/-- What is at a place. -/
inductive Node where
  | directory
  | file (content : ByteArray) (executable : Bool)

namespace Node

/-- Whether this is a directory. -/
def isDirectory : Node → Bool
  | directory => true
  | file _ _ => false

/-- Whether this holds the same bytes as another, or is a directory like it. -/
def agrees : Node → Node → Bool
  | directory, directory => true
  | file content _, file other _ => content.data == other.data
  | _, _ => false

end Node

/-- The **file tree**: what is at which place. The root is always a directory. -/
structure Tree where
  entries : List (Place × Node)
  deriving Inhabited

namespace Tree

/-- What is at a place, if anything. -/
def node? (t : Tree) (at_ : Place) : Option Node :=
  if at_ = [] then some .directory else t.entries.lookup at_

/-- The tree with something put at a place. -/
def put (t : Tree) (at_ : Place) (node : Node) : Tree :=
  ⟨(at_, node) :: t.entries.filter (fun e => e.1 != at_)⟩

/-- Whether a place is at or under another one. -/
def isUnder (top at_ : Place) : Bool :=
  top.isSuffixOf at_

/-- The tree without a place and all under it. -/
def removeAll (t : Tree) (top : Place) : Tree :=
  ⟨t.entries.filter fun e => !isUnder top e.1⟩

/-- Whether a place holds a directory. -/
def isDirectoryAt (t : Tree) (at_ : Place) : Bool :=
  (t.node? at_).any Node.isDirectory

/-! ### Resolution -/

/-- Where a path leads: to something that is there, or to a name that its directory does not
have. -/
inductive Target where
  | present (at_ : Place) (node : Node)
  | absent (directory : Place) (name : String)

/-- The longest name of a file, in bytes. -/
abbrev maxName : Nat := 255

/-- The length that a path must stay below, in bytes. -/
abbrev pathLimit : Nat := 4096

/-- The target of the remaining steps from a place. -/
def walk (t : Tree) (here : Place) : List String → Except Fault Target
  | [] =>
    match t.node? here with
    | some node => .ok (.present here node)
    | none => .error .notFound
  | step :: rest =>
    if t.isDirectoryAt here then
      if step = "." then t.walk here rest
      else if step = ".." then t.walk here.tail rest
      else if maxName < step.utf8ByteSize then .error .nameTooLong
      else
        match t.node? (step :: here), rest with
        | none, [] => .ok (.absent here step)
        | none, _ => .error .notFound
        | some _, _ => t.walk (step :: here) rest
    else .error .notADirectory

/-- The **target** of a path, seen from a working directory. -/
def resolve (t : Tree) (cwd : Place) (p : Path) : Except Fault Target :=
  if p.text.contains '\x00' then .error .nulInPath
  else if p.text = "" then .error .notFound
  else if pathLimit ≤ p.text.utf8ByteSize then .error .nameTooLong
  else t.walk (if p.isAbsolute then [] else cwd) p.steps

/-- What is at a path. A path that ends with a slash finds directories only. -/
def find (t : Tree) (cwd : Place) (p : Path) : Except Fault (Place × Node) := do
  match ← t.resolve cwd p with
  | .absent _ _ => .error .notFound
  | .present at_ .directory => .ok (at_, .directory)
  | .present at_ node => if p.endsWithSlash then .error .notADirectory else .ok (at_, node)

/-- Whether there is something at a path. -/
def existsAt (t : Tree) (cwd : Place) (p : Path) : Bool :=
  match t.find cwd p with
  | .ok _ => true
  | .error _ => false

/-- Whether a path leads to a regular file. -/
def isFile (t : Tree) (cwd : Place) (p : Path) : Bool :=
  match t.find cwd p with
  | .ok (_, .file _ _) => true
  | _ => false

/-- Whether a path leads to a directory. -/
def isDirectory (t : Tree) (cwd : Place) (p : Path) : Bool :=
  match t.find cwd p with
  | .ok (_, .directory) => true
  | _ => false

/-! ### Requests -/

/-- The bytes of the file at a path. -/
def readBytes (t : Tree) (cwd : Place) (p : Path) : Except Fault ByteArray := do
  match ← t.find cwd p with
  | (_, .directory) => .error .isADirectory
  | (_, .file content _) => .ok content

/-- The text of the file at a path. -/
def readText (t : Tree) (cwd : Place) (p : Path) : Except Fault String := do
  match Text.decode? (← t.readBytes cwd p) with
  | some s => .ok s
  | none => .error .notText

/-- The tree after the file at a path is given new content; the file is made if its directory lacks
it. `executable` applies to a new file, and with `force` to an old one too. -/
def writeBytes (t : Tree) (cwd : Place) (p : Path) (content : ByteArray) (executable force : Bool) :
    Except Fault Tree := do
  match ← t.resolve cwd p with
  | .absent directory name =>
    if p.endsWithSlash then .error .isADirectory
    else .ok (t.put (name :: directory) (.file content executable))
  | .present _ .directory => .error .isADirectory
  | .present at_ (.file _ old) =>
    if p.endsWithSlash then .error .isADirectory
    else .ok (t.put at_ (.file content (if force then executable else old)))

/-- The tree after the file at a path is given a new text. -/
def writeText (t : Tree) (cwd : Place) (p : Path) (content : String) : Except Fault Tree :=
  t.writeBytes cwd p (Text.encode content) false false

/-- The tree with a new directory at a path. -/
def makeDirectory (t : Tree) (cwd : Place) (p : Path) : Except Fault Tree := do
  match ← t.resolve cwd p with
  | .absent directory name => .ok (t.put (name :: directory) .directory)
  | .present _ _ => .error .alreadyExists

/-- The result of making directories: the tree as far as they were made, and the fault that stopped
it. -/
structure Made where
  tree : Tree
  fault? : Option Fault

/-- The two **requests** that directories are made with: to make one, and to tell whether there is
one. -/
structure Maker where
  make : Tree → Path → Except Fault Tree
  isThere : Tree → Path → Bool

namespace Maker

/-- One more directory after its parents were made. A directory that is there already will do. -/
def makeLast (maker : Maker) (t : Tree) (p : Path) : Made :=
  match maker.make t p with
  | .ok t' => ⟨t', none⟩
  | .error fault => if maker.isThere t p then ⟨t, none⟩ else ⟨t, some fault⟩

/-- The tree with a directory at a path and at every parent that is missing; `fuel` bounds how many
parents are tried. -/
def makeAllWith (maker : Maker) (t : Tree) : Nat → Path → Made
  | 0, _ => ⟨t, some (.remark "failed to create whole tree")⟩
  | fuel + 1, p =>
    if p.text = "" then ⟨t, none⟩
    else match maker.make t p with
      | .ok t' => ⟨t', none⟩
      | .error fault =>
        if fault = .notFound then
          match p.parent? with
          | none => ⟨t, some (.remark "failed to create whole tree")⟩
          | some parent =>
            match maker.makeAllWith t fuel parent with
            | ⟨t', some fault⟩ => ⟨t', some fault⟩
            | ⟨t', none⟩ => maker.makeLast t' p
        else if maker.isThere t p then ⟨t, none⟩
        else ⟨t, some fault⟩

/-- The tree with a directory at a path and at every parent of it. A path has fewer parents than
characters. -/
def makeAll (maker : Maker) (t : Tree) (p : Path) : Made :=
  maker.makeAllWith t (p.text.length + 1) p

end Maker

/-- Directories are made in the tree itself. -/
def maker (cwd : Place) : Maker where
  make t p := t.makeDirectory cwd p
  isThere t p := t.isDirectory cwd p

/-- The tree with a directory at a path and at every parent of it. -/
def makeAll (t : Tree) (cwd : Place) (p : Path) : Made :=
  (maker cwd).makeAll t p

/-- The tree without the directory at a path and all under it. -/
def removeDirectory (t : Tree) (cwd : Place) (p : Path) : Except Fault Tree := do
  match ← t.find cwd p with
  | (at_, .directory) => .ok (t.removeAll at_)
  | (_, .file _ _) => .error .notADirectory

/-- What a copy of the file at a path is made of: its bytes, and its permission to be executed. -/
def source (t : Tree) (cwd : Place) (p : Path) : Except Fault (ByteArray × Bool) := do
  match ← t.find cwd p with
  | (_, .directory) => .error .copyOfNonFile
  | (_, .file content executable) => .ok (content, executable)

/-- The tree after a file is copied, with its permission to be executed. -/
def copyFile (t : Tree) (cwd : Place) (source destination : Path) : Except Fault Tree := do
  let (content, executable) ← t.source cwd source
  t.writeBytes cwd destination content executable true

/-! ### Laws -/

/-- What was put at a place is found there. -/
theorem node?_put_self {t : Tree} {at_ : Place} {node : Node} (h : at_ ≠ []) :
    (t.put at_ node).node? at_ = some node := by
  simp [node?, put, h]

/-- What is listed for one place is untouched when the entry of another one goes. -/
private theorem lookup_filter_ne {es : List (Place × Node)} {at_ other : Place} (h : other ≠ at_) :
    (es.filter fun e => e.1 != at_).lookup other = es.lookup other := by
  induction es with
  | nil => rfl
  | cons e es ih =>
    obtain ⟨p, n⟩ := e
    by_cases hp : p = at_
    · subst hp
      have : (other == p) = false := by simpa using h
      simp [List.lookup_cons, this, ih]
    · have hb : (p != at_) = true := by simpa using hp
      by_cases ho : other = p
      · subst ho
        simp [List.filter, hb]
      · have : (other == p) = false := by simpa using ho
        simp [List.filter, hb, List.lookup_cons, this, ih]

/-- Putting something at a place changes no other place. -/
theorem node?_put_of_ne {t : Tree} {at_ other : Place} {node : Node} (h : other ≠ at_) :
    (t.put at_ node).node? other = t.node? other := by
  have : (other == at_) = false := by simpa using h
  simp [node?, put, List.lookup_cons, this, lookup_filter_ne h]

/-- After a removal, nothing at or under the place is left, and all else is as before. -/
theorem node?_removeAll {t : Tree} {top other : Place} (h : other ≠ []) :
    (t.removeAll top).node? other = if isUnder top other then none else t.node? other := by
  simp only [node?, h, if_false, removeAll]
  generalize t.entries = es
  induction es with
  | nil => simp
  | cons e es ih =>
    obtain ⟨p, n⟩ := e
    by_cases hp : isUnder top p
    · simp only [List.filter, hp, Bool.not_true]
      rw [ih]
      by_cases ho : other = p
      · subst ho
        simp [hp]
      · have : (other == p) = false := by simpa using ho
        simp [List.lookup_cons, this]
    · simp only [List.filter, hp, Bool.not_false]
      by_cases ho : other = p
      · subst ho
        simp [hp]
      · have : (other == p) = false := by simpa using ho
        simp [List.lookup_cons, this, ih]

end Tree

end GeoBench.Machine
