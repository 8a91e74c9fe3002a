/-!
# Paths

A path is a text that names a place in the file tree: steps separated by slashes, from the root if
it starts with a slash and from the working directory otherwise. Joining and taking the parent work
on the text alone.

## Main results

* `Path.join_absolute` — joining an absolute path gives that path.
-/

namespace GeoBench.Machine

/-- A **path**. -/
structure Path where
  text : String
  deriving DecidableEq, Repr, Inhabited

namespace Path

/-- Whether a path starts at the root. -/
def isAbsolute (p : Path) : Bool :=
  p.text.toList.head? == some '/'

/-- The path `q` seen from the directory `p`. An absolute `q` is taken as it is; otherwise one slash
separates the two, unless `p` is empty or ends with one. -/
def join (p q : Path) : Path :=
  if q.isAbsolute then q
  else
    let separator := match p.text.toList.getLast? with
      | none => ""
      | some c => if c = '/' then "" else "/"
    ⟨p.text ++ separator ++ q.text⟩

/-- A path seen from a directory, by its text. -/
def sub (p : Path) (steps : String) : Path :=
  p.join ⟨steps⟩

/-- The stretches of some characters between slashes. -/
def pieces : List Char → List (List Char)
  | [] => [[]]
  | c :: cs =>
    if c = '/' then [] :: pieces cs
    else match pieces cs with
      | [] => [[c]]
      | first :: others => (c :: first) :: others

/-- A piece that leads nowhere: nothing between two slashes, or a single dot. -/
def isIdle (piece : List Char) : Bool :=
  piece == [] || piece == ['.']

/-- The pieces without the idle ones at their end. -/
def withoutIdleEnd (ps : List (List Char)) : List (List Char) :=
  (ps.reverse.dropWhile isIdle).reverse

/-- The start of a path, which is no step of its own: the root's slash, or a dot before anything
else. -/
def lead (cs : List Char) : List Char :=
  match cs with
  | '/' :: _ => ['/']
  | ['.'] => ['.']
  | '.' :: '/' :: _ => ['.']
  | _ => []

/-- The **parent** of a path: what is left without its last step. The root and the empty path have
none. -/
def parent? (p : Path) : Option Path :=
  let cs := p.text.toList
  let start := lead cs
  match withoutIdleEnd (pieces (cs.drop start.length)) with
  | [] => if start = ['.'] then some ⟨""⟩ else none
  | steps => some ⟨String.ofList (start ++ ['/'].intercalate (withoutIdleEnd steps.dropLast))⟩

/-- The steps that the file tree takes along a path: what stands between its slashes. -/
def steps (p : Path) : List String :=
  ((pieces p.text.toList).filter (· ≠ [])).map String.ofList

/-- Whether a path ends with a slash, and so asks for a directory. -/
def endsWithSlash (p : Path) : Bool :=
  p.text.toList.getLast? == some '/'

/-- Joining an absolute path gives that path. -/
theorem join_absolute {p q : Path} (h : q.isAbsolute) : p.join q = q := by
  simp [join, h]

end Path

end GeoBench.Machine
