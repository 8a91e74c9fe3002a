import GeoBench.Proofs.Machine.Removals
import GeoBench.Proofs.Machine.Session
import Mathlib.Data.Set.Insert

/-!
# Requests of the file system

A session asks the file system to read and write files, to make and remove directories, and to copy.
What each request does to the world is said here once: for every world, what it leaves alone, and
for a world without links, which place it is about.

## How a write ends

A write is refused, it is whole, or it falls short (`Session.Filled`), and everything about writes
follows from these three cases. A write that succeeded was whole, whatever the disk does. A write
that failed may have left the first bytes of its text in the file, unless no write falls short: then
it left everything as it was. Either way no other file is touched, since the first bytes are
requested at the same place as all of them.

## Main results

* `Session.filled_run_fill` — how a write ends.
* `Session.requested_writeBytes`, `Session.requested_copyFile`, `Session.requested_makeAll`,
  `Session.requested_removeDirectory` — requests are not recorded, and make no link.
* `Session.extends_arrivals_run_writeBytes`, `Session.extends_arrivals_run_copyFile`,
  `Session.sameFiles_arrivals_run_removeDirectory` — what requests leave alone, wherever links lead.
* `Session.extends_run_writeBytes`, `Session.extends_run_copyFile`, `Session.extends_run_makeAll` —
  the same by places, in a world without links.
* `Session.readText_of_run_writeText`, `Session.tree_eq_of_run_writeBytes` — a write that succeeded
  is whole, and one that failed changed nothing if no write falls short.
* `Session.file?_run_writeText` — what a write may leave in its file.
-/

namespace GeoBench.Machine

open GeoBench.Text

variable {σ ε α : Type}

/-- The regular file at a place holds the **first bytes** of a text, or all of them. -/
def Tree.HoldsStart (t : Tree) (at_ : Place) (text : String) : Prop :=
  ∃ n executable, t.file? at_ = some ((encode text).extract 0 n, executable)

/-- A whole text is a start of it. -/
theorem Tree.Holds.start {t : Tree} {at_ : Place} {text : String} (h : t.Holds at_ text) :
    t.HoldsStart at_ text := by
  obtain ⟨executable, hfile⟩ := h
  refine ⟨(encode text).size, executable, ?_⟩
  rw [hfile, ByteArray.extract_zero_size]

/-- A tree that has the same file holds the same start of a text. -/
theorem Tree.HoldsStart.of_eq {t t' : Tree} {at_ : Place} {text : String}
    (h : t.HoldsStart at_ text) (heq : t'.file? at_ = t.file? at_) : t'.HoldsStart at_ text := by
  obtain ⟨n, executable, hfile⟩ := h
  exact ⟨n, executable, heq.trans hfile⟩

/-- The empty text has one start. -/
theorem Tree.HoldsStart.holds_empty {t : Tree} {at_ : Place} (h : t.HoldsStart at_ "") :
    t.Holds at_ "" := by
  obtain ⟨n, executable, hfile⟩ := h
  have hempty : (encode "").extract 0 n = encode "" := by
    rw [encode, show "".toUTF8 = ByteArray.empty from rfl]
    ext1
    simp
  exact ⟨executable, hfile.trans (by rw [hempty])⟩

/-- The bytes that are written to a path are the file at its place. -/
theorem Tree.file?_of_writeBytes {t t' : Tree} {cwd : Place} {p : Path} {content : ByteArray}
    {executable force : Bool} (h : t.writeBytes cwd p content executable force = .ok t') :
    ∃ executable', t'.file? (p.place cwd) = some (content, executable') := by
  obtain ⟨-, hroot, -, -, executable', rfl⟩ := Tree.eq_put_of_writeBytes h
  exact ⟨executable', Tree.file?_eq_some_iff.mpr (Tree.node?_put_self hroot)⟩

namespace Session

variable {content : ByteArray} {request : ByteArray → Tree → Place → Except Fault Tree}
  {w v : World σ} {result : Except Fault Unit} {p : Path} {executable force : Bool} {text : String}

/-! ### Writes

What is said of a write is said first for each of its three ends, and then read off for the requests
that write: a file from bytes, a text, and the copy of a file. -/

/-- How a **write** ends. -/
inductive Filled (content : ByteArray) (request : ByteArray → Tree → Place → Except Fault Tree)
    (w : World σ) : Except Fault Unit → World σ → Prop
  /-- The file is not opened, and nothing has changed. -/
  | refused (bytes : ByteArray) (fault : Fault)
      (hrefused : request bytes w.tree w.around.cwd = .error fault) :
      Filled content request w (.error fault) { w with shortfalls := w.shortfalls.tail }
  /-- All bytes are in the file. -/
  | whole (t : Tree) (hnone : w.shortfall? content = none)
      (hgranted : request content w.tree w.around.cwd = .ok t) :
      Filled content request w (.ok ()) { w with tree := t, shortfalls := w.shortfalls.tail }
  /-- The first bytes are in the file, and a fault stopped the others. -/
  | short (s : Shortfall) (t : Tree) (hsome : w.shortfall? content = some s)
      (hgranted : request (content.extract 0 s.written) w.tree w.around.cwd = .ok t) :
      Filled content request w (.error s.fault)
        { w with tree := t, shortfalls := w.shortfalls.tail }

/-- The first part of a write looks for what stops it. -/
theorem run_takeShortfall (content : ByteArray) (w : World σ) :
    (takeShortfall content : Session σ ε (Option Shortfall)).run w =
      (.ok (w.shortfall? content), { w with shortfalls := w.shortfalls.tail }) := rfl

/-- A write that nothing stops does what is requested. -/
theorem run_fill_of_granted {t : Tree} (hnone : w.shortfall? content = none)
    (hgranted : request content w.tree w.around.cwd = .ok t) :
    (fill content request).run w =
      (.ok (), { w with tree := t, shortfalls := w.shortfalls.tail }) := by
  rw [fill, run_bind_of_ok (run_takeShortfall content w), hnone]
  exact run_change_of_ok hgranted

/-- **How a write ends**: it is refused, it is whole, or it falls short. -/
theorem filled_run_fill (content : ByteArray)
    (request : ByteArray → Tree → Place → Except Fault Tree) (w : World σ) :
    Filled content request w ((fill content request).run w).1
      ((fill content request).run w).2 := by
  let u : World σ := { w with shortfalls := w.shortfalls.tail }
  have hgrant : ∀ {bytes t}, request bytes w.tree w.around.cwd = .ok t →
      (change (request bytes)).run u = (.ok (), { u with tree := t }) := fun h =>
    run_change_of_ok h
  have hrefuse : ∀ {bytes fault}, request bytes w.tree w.around.cwd = .error fault →
      (change (request bytes)).run u = (.error fault, u) := fun h => run_change_of_error h
  rw [fill, run_bind_of_ok (run_takeShortfall content w)]
  cases hshort : w.shortfall? content with
  | none =>
      show Filled content request w ((change (request content)).run u).1
        ((change (request content)).run u).2
      cases hrequest : request content w.tree w.around.cwd with
      | ok t =>
          rw [hgrant hrequest]
          exact .whole t hshort hrequest
      | error fault =>
          rw [hrefuse hrequest]
          exact .refused _ fault hrequest
  | some s =>
      cases hrequest : request (content.extract 0 s.written) w.tree w.around.cwd with
      | ok t =>
          rw [run_bind_of_ok (hgrant hrequest)]
          exact .short s t hshort hrequest
      | error fault =>
          rw [run_bind_of_error (hrefuse hrequest)]
          exact .refused _ fault hrequest

namespace Filled

/-- A write only requests a file. -/
theorem requested (h : Filled content request w result v) : w.Requested v := by
  cases h <;> exact ⟨rfl, rfl, List.Subset.refl _, List.tail_suffix _⟩

/-- A write leaves the links as they are. -/
theorem links (h : Filled content request w result v) : v.links = w.links := by
  cases h <;> rfl

/-- A tree that every granted request keeps is kept by a write. -/
theorem rel {R : Tree → Tree → Prop} (h : Filled content request w result v)
    (hrefl : R w.tree w.tree)
    (hrequest : ∀ bytes t, request bytes w.tree w.around.cwd = .ok t → R w.tree t) :
    R w.tree v.tree := by
  cases h with
  | refused => exact hrefl
  | whole t _ hgranted => exact hrequest _ t hgranted
  | short s t _ hgranted => exact hrequest _ t hgranted

/-- A write that succeeded was granted with all bytes. -/
theorem eq_ok (h : Filled content request w (.ok ()) v) :
    request content w.tree w.around.cwd = .ok v.tree := by
  cases h with
  | whole t _ hgranted => exact hgranted

/-- A write that failed changed nothing, if no write falls short. -/
theorem tree_eq {fault : Fault} (h : Filled content request w (.error fault) v)
    (hwhole : w.WritesWhole) : v.tree = w.tree := by
  cases h with
  | refused => rfl
  | short s t hsome =>
      rw [World.WritesWhole.shortfall?_eq_none hwhole] at hsome
      cases hsome

end Filled

/-- A write at a path is refused by the links on its way, or is a write where they lead. -/
theorem run_writeBytes (p : Path) (content : ByteArray) (executable force : Bool) (w : World σ) :
    (writeBytes p content executable force).run w =
      match w.links.follow w.tree w.around.cwd true p with
      | .ok q => (fill content fun bytes t cwd => t.writeBytes cwd q bytes executable force).run w
      | .error fault => (.error fault, w) := by
  rw [writeBytes, run_bind, run_reach]
  cases w.links.follow w.tree w.around.cwd true p <;> rfl

/-- Where no place is a link, a write at a path is a write there. -/
theorem run_writeBytes_of_linkFree (h : w.LinkFree) (p : Path) (content : ByteArray)
    (executable force : Bool) : (writeBytes p content executable force).run w =
      (fill content fun bytes t cwd => t.writeBytes cwd p bytes executable force).run w := by
  rw [run_writeBytes, show w.links = [] from h, Links.follow_nil]

/-- A write is a request. -/
theorem requested_writeBytes (p : Path) (content : ByteArray) (executable force : Bool)
    (w : World σ) : w.Requested ((writeBytes p content executable force).run w).2 := by
  rw [run_writeBytes]
  split
  · exact (filled_run_fill _ _ w).requested
  · exact .refl w

/-- A write leaves the links as they are. -/
theorem links_run_writeBytes (p : Path) (content : ByteArray) (executable force : Bool)
    (w : World σ) : ((writeBytes p content executable force).run w).2.links = w.links := by
  rw [run_writeBytes]
  split
  · exact (filled_run_fill _ _ w).links
  · rfl

/-- **A file that is written** touches no file but where its path may arrive, even if the write
falls short. -/
theorem extends_arrivals_run_writeBytes (p : Path) (content : ByteArray) (executable force : Bool)
    (w : World σ) : w.tree.Extends (w.links.arrivals w.around.cwd true p)
      ((writeBytes p content executable force).run w).2.tree := by
  rw [run_writeBytes]
  split
  next q hfollow =>
    refine (filled_run_fill _ _ w).rel (.refl _ _) fun _ _ hwrite => ?_
    exact (Tree.extends_writeBytes hwrite).mono
      (Set.singleton_subset_iff.mpr (Links.mem_arrivals hfollow))
  · exact .refl _ _

/-- Where no place is a link, a file that is written touches no other file. -/
theorem extends_run_writeBytes (h : w.LinkFree) (p : Path) (content : ByteArray)
    (executable force : Bool) : w.tree.Extends {p.place w.around.cwd}
      ((writeBytes p content executable force).run w).2.tree := by
  have hextends := extends_arrivals_run_writeBytes p content executable force w
  rwa [show w.links = [] from h, Links.arrivals_nil] at hextends

/-- **What was written along a path is read along it**, wherever its links lead. -/
theorem readText_of_run_writeText (h : (writeText p text).run w = (.ok (), v)) :
    v.links.readText v.tree w.around.cwd p = .ok text := by
  rw [writeText, run_writeBytes] at h
  split at h
  next q hfollow =>
    have hfilled := filled_run_fill (encode text)
      (fun bytes t cwd => t.writeBytes cwd q bytes false false) w
    rw [h] at hfilled
    rw [hfilled.links]
    exact Links.readText_of_writeText hfollow hfilled.eq_ok
  · cases (Prod.mk.inj h).1

/-- **A write that failed** changed nothing, if no write falls short. -/
theorem tree_eq_of_run_writeBytes {fault : Fault} (hwhole : w.WritesWhole)
    (h : (writeBytes p content executable force).run w = (.error fault, v)) : v.tree = w.tree := by
  rw [run_writeBytes] at h
  split at h
  next q _ =>
    have hfilled := filled_run_fill content
      (fun bytes t cwd => t.writeBytes cwd q bytes executable force) w
    rw [h] at hfilled
    exact hfilled.tree_eq hwhole
  · rw [← (Prod.mk.inj h).2]

/-- Where no place is a link, what is read along a path is the tree's. -/
theorem readText_eq_of_linkFree (h : w.LinkFree) (cwd : Place) (p : Path) :
    w.links.readText w.tree cwd p = w.tree.readText cwd p := by
  rw [show w.links = [] from h, Links.readText_nil]

/-- A text that the tree lets be written is written, if no write falls short. -/
theorem run_writeText_of_writeText {t : Tree} (hfree : w.LinkFree) (hwhole : w.WritesWhole)
    (h : w.tree.writeText w.around.cwd p text = .ok t) :
    (writeText p text).run w = (.ok (), { w with tree := t, shortfalls := w.shortfalls.tail }) := by
  rw [writeText, run_writeBytes_of_linkFree hfree]
  exact run_fill_of_granted (hwhole.shortfall?_eq_none _) h

/-- **What a write leaves** at its place: the old file, or a start of the new text; and all of it,
if no write falls short. -/
theorem file?_run_writeText (hfree : w.LinkFree) (p : Path) (text : String) :
    ((writeText p text).run w).2.tree.file? (p.place w.around.cwd) =
        w.tree.file? (p.place w.around.cwd) ∨
      ((writeText p text).run w).2.tree.HoldsStart (p.place w.around.cwd) text ∧
        (w.WritesWhole → ((writeText p text).run w).2.tree.Holds (p.place w.around.cwd) text) := by
  have hfilled := filled_run_fill (encode text)
    (fun bytes t cwd => t.writeBytes cwd p bytes false false) w
  rw [writeText, run_writeBytes_of_linkFree hfree]
  generalize (fill (encode text) _).run w = r at hfilled ⊢
  obtain ⟨result, v⟩ := r
  cases hfilled with
  | refused => exact .inl rfl
  | whole t _ hgranted =>
      have hholds : t.Holds (p.place w.around.cwd) text := Tree.file?_of_writeBytes hgranted
      exact .inr ⟨hholds.start, fun _ => hholds⟩
  | short s t hsome hgranted =>
      obtain ⟨executable, hfile⟩ := Tree.file?_of_writeBytes hgranted
      refine .inr ⟨⟨s.written, executable, hfile⟩, fun hwhole => ?_⟩
      rw [hwhole.shortfall?_eq_none] at hsome
      cases hsome

/-! ### Directories -/

/-- A directory that is made where the links lead takes the place of no file. -/
theorem extends_makeDirectory {links : Links} {t t' : Tree} {cwd : Place}
    (h : links.makeDirectory t cwd p = .ok t') : t.Extends ∅ t' := by
  rw [Links.makeDirectory] at h
  obtain ⟨q, -, h⟩ := exists_of_bind_eq_ok h
  split at h
  · cases h
  · exact Tree.extends_makeDirectory h

/-- The making of directories is a request. -/
theorem requested_makeAll (p : Path) (w : World σ) : w.Requested ((makeAll p).run w).2 :=
  ⟨rfl, rfl, List.Subset.refl _, List.suffix_rfl⟩

/-- The making of directories leaves the links as they are. -/
theorem links_run_makeAll (p : Path) (w : World σ) : ((makeAll p).run w).2.links = w.links := rfl

/-- **Directories** are made without touching a file, wherever the links lead. -/
theorem extends_run_makeAll (p : Path) (w : World σ) :
    w.tree.Extends ∅ ((makeAll p).run w).2.tree :=
  Tree.Maker.extends_makeAll (fun _ _ _ hmade => extends_makeDirectory hmade) _ _

/-- Where no place is a link, directories are made in the tree itself. -/
theorem run_makeAll_of_linkFree (h : w.LinkFree) (p : Path) :
    (makeAll p).run w =
      (match (w.tree.makeAll w.around.cwd p).fault? with
        | none => .ok ()
        | some fault => .error fault,
      { w with tree := (w.tree.makeAll w.around.cwd p).tree }) := by
  have hmade : w.links.makeAll w.tree w.around.cwd p = w.tree.makeAll w.around.cwd p := by
    rw [show w.links = [] from h, Links.makeAll, Links.maker_nil, Tree.makeAll]
  rw [← hmade]
  rfl

/-- What is removed is all at and under a place where the path may arrive. -/
theorem exists_of_removeDirectory {links links' : Links} {t t' : Tree} {cwd : Place}
    (h : links.removeDirectory t cwd p = .ok (t', links')) :
    ∃ top ∈ links.arrivals cwd false p, t' = t.removeAll top ∧ links' = links.without top := by
  rw [Links.removeDirectory] at h
  obtain ⟨top, hremovable, h⟩ := exists_of_bind_eq_ok h
  obtain ⟨rfl, rfl⟩ := Prod.mk.inj (Except.ok.inj h)
  obtain ⟨q, hfollow, rfl, -⟩ := Links.exists_of_removable hremovable
  exact ⟨_, Links.mem_arrivals hfollow, rfl, rfl⟩

/-- A removal takes links away, and makes none. -/
theorem subset_of_removeDirectory {links links' : Links} {t t' : Tree} {cwd : Place}
    (h : links.removeDirectory t cwd p = .ok (t', links')) : links' ⊆ links := by
  obtain ⟨top, -, -, rfl⟩ := exists_of_removeDirectory h
  exact List.filter_subset_self _

/-- Where no place is a link, a removal is the tree's. -/
theorem removeDirectory_nil (t : Tree) (cwd : Place) (p : Path) :
    Links.removeDirectory [] t cwd p = (t.removeDirectory cwd p).map (·, []) := by
  simp only [Links.removeDirectory, Links.removable, Links.follow_nil, Links.link?_nil, bind,
    Except.bind, Tree.removeDirectory]
  rcases t.find cwd p with fault | ⟨top, _ | _⟩ <;> rfl

/-- A removal ends before it is begun, or takes something away. -/
theorem run_removeDirectory (p : Path) (w : World σ) :
    (removeDirectory p).run w =
      match w.links.removeDirectory w.tree w.around.cwd p with
      | .ok (t, links) => (.ok (), { w with tree := t, links := links })
      | .error fault => (.error fault, w) := rfl

/-- A removal is a request. -/
theorem requested_removeDirectory (p : Path) (w : World σ) :
    w.Requested ((removeDirectory p).run w).2 := by
  rw [run_removeDirectory]
  split
  next hremoved => exact ⟨rfl, rfl, subset_of_removeDirectory hremoved, List.suffix_rfl⟩
  · exact .refl w

/-- Where no place is a link, a removal is a change of the tree. -/
theorem run_removeDirectory_of_linkFree (h : w.LinkFree) (p : Path) :
    (removeDirectory p).run w = (change fun t cwd => t.removeDirectory cwd p).run w := by
  rw [run_removeDirectory, show w.links = [] from h, removeDirectory_nil]
  cases hremove : w.tree.removeDirectory w.around.cwd p with
  | ok t =>
      rw [run_change_of_ok hremove, ← show w.links = [] from h]
      rfl
  | error fault =>
      rw [run_change_of_error hremove]
      rfl

/-- **A removal** takes along only files at or under a place where its path may arrive. -/
theorem sameFiles_arrivals_run_removeDirectory (p : Path) (w : World σ) :
    Tree.SameFiles {at_ | ∃ top ∈ w.links.arrivals w.around.cwd false p, Tree.isUnder top at_}
      w.tree ((removeDirectory p).run w).2.tree := by
  rw [run_removeDirectory]
  split
  next t links hremove =>
    obtain ⟨top, htop, rfl, -⟩ := exists_of_removeDirectory hremove
    intro at_ hat
    have hunder : ¬ Tree.isUnder top at_ := fun hunder => hat ⟨top, htop, hunder⟩
    by_cases hroot : at_ = []
    · rw [hroot]
      rfl
    · rw [Tree.file?, Tree.file?, Tree.node?_removeAll hroot, if_neg hunder]
  · exact fun _ _ => rfl

/-- **A directory that is removed** takes along what is below it, and no other file. -/
theorem sameFiles_run_removeDirectory (h : w.LinkFree) (p : Path) :
    Tree.SameFiles {at_ | Place.Below (p.place w.around.cwd) at_} w.tree
      ((removeDirectory p).run w).2.tree := by
  intro at_ hat
  rw [run_removeDirectory_of_linkFree h]
  cases hremove : w.tree.removeDirectory w.around.cwd p with
  | ok t =>
      rw [run_change_of_ok hremove]
      exact Tree.sameFiles_below_removeDirectory hremove at_ hat
  | error fault => rw [run_change_of_error hremove]

/-- A removal leaves at a place the file that was there, or nothing. -/
theorem file?_run_removeDirectory (h : w.LinkFree) (p : Path) (at_ : Place) :
    ((removeDirectory p).run w).2.tree.file? at_ = w.tree.file? at_ ∨
      ((removeDirectory p).run w).2.tree.file? at_ = none := by
  by_cases hat : Place.Below (p.place w.around.cwd) at_
  · rw [run_removeDirectory_of_linkFree h]
    cases hremove : w.tree.removeDirectory w.around.cwd p with
    | ok t =>
        have hroot : at_ ≠ [] := by
          rintro rfl
          exact hat.2 (List.suffix_nil.mp (List.isSuffixOf_iff_suffix.mp hat.1)).symm
        rw [run_change_of_ok hremove]
        refine .inr (Tree.file?_eq_none_of_node? ?_)
        rw [Tree.eq_removeAll_of_removeDirectory hremove, Tree.node?_removeAll hroot, if_pos hat.1]
    | error fault =>
        rw [run_change_of_error hremove]
        exact .inl rfl
  · exact .inl (sameFiles_run_removeDirectory h p at_ hat)

/-! ### Copies -/

/-- A copy ends before it is begun, or is a write of the bytes of its source. -/
theorem run_copyFile (source destination : Path) (w : World σ) :
    (∃ fault, (copyFile source destination).run w = (.error fault, w)) ∨
      ∃ content executable, (copyFile source destination).run w =
        (writeBytes destination content executable true).run w := by
  rw [copyFile]
  cases hreach : w.links.follow w.tree w.around.cwd true source with
  | error fault =>
      have hrun : (reach source).run w = (.error fault, w) := by rw [run_reach, hreach]
      exact .inl ⟨fault, run_bind_of_error hrun _⟩
  | ok q =>
      have hrun : (reach source).run w = (.ok q, w) := by rw [run_reach, hreach]
      rw [run_bind_of_ok hrun, run_bind_of_ok (run_ask _ w), run_bind, run_ofExcept]
      cases w.tree.source w.around.cwd q with
      | error fault => exact .inl ⟨fault, rfl⟩
      | ok found => exact .inr ⟨found.1, found.2, rfl⟩

/-- A copy is a request. -/
theorem requested_copyFile (source destination : Path) (w : World σ) :
    w.Requested ((copyFile source destination).run w).2 := by
  rcases run_copyFile source destination w with ⟨fault, hrun⟩ | ⟨content, executable, hrun⟩
  · rw [hrun]
    exact .refl w
  · rw [hrun]
    exact requested_writeBytes _ _ _ _ w

/-- A copy leaves the links as they are. -/
theorem links_run_copyFile (source destination : Path) (w : World σ) :
    ((copyFile source destination).run w).2.links = w.links := by
  rcases run_copyFile source destination w with ⟨fault, hrun⟩ | ⟨content, executable, hrun⟩
  · rw [hrun]
  · rw [hrun]
    exact links_run_writeBytes _ _ _ _ w

/-- **A file that is copied** touches no file but where the path of the copy may arrive. -/
theorem extends_arrivals_run_copyFile (source destination : Path) (w : World σ) :
    w.tree.Extends (w.links.arrivals w.around.cwd true destination)
      ((copyFile source destination).run w).2.tree := by
  rcases run_copyFile source destination w with ⟨fault, hrun⟩ | ⟨content, executable, hrun⟩
  · rw [hrun]
    exact .refl _ _
  · rw [hrun]
    exact extends_arrivals_run_writeBytes _ _ _ _ w

/-- Where no place is a link, a file that is copied touches the copy only. -/
theorem extends_run_copyFile (h : w.LinkFree) (source destination : Path) :
    w.tree.Extends {destination.place w.around.cwd}
      ((copyFile source destination).run w).2.tree := by
  have hextends := extends_arrivals_run_copyFile source destination w
  rwa [show w.links = [] from h, Links.arrivals_nil] at hextends

end Session

end GeoBench.Machine
