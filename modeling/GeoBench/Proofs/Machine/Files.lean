import GeoBench.Proofs.Machine.Place

/-!
# Regular files

What a request does to the regular files of a tree is told by places. A tree **holds** a text at a
place, two trees have the **same files** apart from those at some places, and one **extends** the
other if no directory is lost either, so that every path that led to a file still leads there.

## Two relations

Most requests only add to a tree: after them every directory is still there, so a path leads where
it led before and reads what it read before, unless the file itself was written. That is what it
means that one tree `Extends` another one. The removal of a directory keeps less: a path may lose
the directory that it went through, and nothing but the files at other places can be compared. So
there is a weaker relation (`SameFiles`), and the first one implies it.

Both are told apart from a set of places, the files that may be changed; more places may always be
put into the set, and one change after another asks for the union.

## Main results

* `Tree.readText_of_writeText` — what is written to a path is read from it.
* `Tree.Extends.readText` — what is read from a path is read from it in every tree that extends this
  one, unless the file is at one of the places.
* `Tree.extends_writeBytes`, `Tree.Maker.extends_makeAll` — what these requests leave alone.
* `Tree.sameFiles_removeDirectory`, `Tree.node?_removeDirectory` — what the removal of a directory
  leaves alone, and what it leaves nothing of.
-/

namespace GeoBench.Machine

open GeoBench.Text

/-- The bytes of a text spell it. -/
theorem decode?_encode (text : String) : decode? (encode text) = some text := by
  rw [decode?, encode, String.fromUTF8?, String.toUTF8_eq_toByteArray, dif_pos text.isValidUTF8]
  rfl

/-- Bytes that spell a text are the bytes of that text. -/
theorem eq_encode_of_decode? {bytes : ByteArray} {text : String} (h : decode? bytes = some text) :
    bytes = encode text := by
  rw [decode?, String.fromUTF8?] at h
  split at h
  · obtain rfl := Option.some.inj h
    rfl
  · cases h

namespace Tree

variable {t t' : Tree} {cwd at_ : Place} {p : Path}

/-! ### Regular files -/

/-- The regular **file** at a place: its bytes, and whether it may be executed. -/
def file? (t : Tree) (at_ : Place) : Option (ByteArray × Bool) :=
  match t.node? at_ with
  | some (.file content executable) => some (content, executable)
  | _ => none

/-- The regular file at a place **holds** a text. -/
def Holds (t : Tree) (at_ : Place) (text : String) : Prop :=
  ∃ executable, t.file? at_ = some (encode text, executable)

/-- Two trees have the **same files**, apart from those at some places. -/
def SameFiles (apart : Set Place) (t t' : Tree) : Prop :=
  ∀ at_ ∉ apart, t'.file? at_ = t.file? at_

/-- A tree **extends** another one, apart from the files at some places: all other files are the
same, and no directory is lost. -/
structure Extends (apart : Set Place) (t t' : Tree) : Prop where
  files : SameFiles apart t t'
  directories : ∀ at_, t.isDirectoryAt at_ → t'.isDirectoryAt at_

/-- A place has a file if there is one in the tree. -/
theorem file?_eq_some_iff {content : ByteArray} {executable : Bool} :
    t.file? at_ = some (content, executable) ↔
      t.node? at_ = some (.file content executable) := by
  rw [file?]
  split
  next node content' executable' hnode => simp [hnode]
  next hnot =>
    constructor
    · intro h
      cases h
    · intro h
      exact absurd h (hnot _ _)

/-- A place where nothing is has no file. -/
theorem file?_eq_none_of_node? (h : t.node? at_ = none) : t.file? at_ = none := by
  rw [file?, h]

/-- A tree that has the same file holds the same text. -/
theorem Holds.of_eq {text : String} (h : t.Holds at_ text) (heq : t'.file? at_ = t.file? at_) :
    t'.Holds at_ text := by
  obtain ⟨executable, hfile⟩ := h
  exact ⟨executable, heq.trans hfile⟩

/-- The text that is held at a place is one text. -/
theorem Holds.eq {text text' : String} (h : t.Holds at_ text) (h' : t.Holds at_ text') :
    text = text' := by
  obtain ⟨executable, hfile⟩ := h
  obtain ⟨executable', hfile'⟩ := h'
  have hbytes : encode text = encode text' :=
    congrArg Prod.fst (Option.some.inj (hfile.symm.trans hfile'))
  have hdecoded := decode?_encode text
  rw [hbytes, decode?_encode] at hdecoded
  exact (Option.some.inj hdecoded).symm

/-! ### Reading -/

/-- A file is found where a path leads, unless the path asks for a directory. -/
theorem find_eq_ok_file_iff {content : ByteArray} {executable : Bool} :
    t.find cwd p = .ok (at_, .file content executable) ↔
      t.resolve cwd p = .ok (.present at_ (.file content executable)) ∧
        p.endsWithSlash = false := by
  constructor
  · intro h
    have hresolve := resolve_of_find h
    rw [find, hresolve] at h
    refine ⟨hresolve, ?_⟩
    cases hslash : p.endsWithSlash with
    | false => rfl
    | true =>
        change (if p.endsWithSlash then Except.error Fault.notADirectory else _) = _ at h
        rw [hslash] at h
        cases h
  · rintro ⟨hresolve, hslash⟩
    rw [find, hresolve]
    change (if p.endsWithSlash then Except.error Fault.notADirectory else _) = _
    rw [hslash]
    rfl

/-- A text is read from a path that leads to a file with its bytes. -/
theorem readText_eq_ok_iff {text : String} :
    t.readText cwd p = .ok text ↔
      ∃ executable, t.resolve cwd p = .ok (.present (p.place cwd)
        (.file (encode text) executable)) ∧ p.endsWithSlash = false := by
  constructor
  · intro h
    rw [readText] at h
    obtain ⟨bytes, hbytes, h⟩ := exists_of_bind_eq_ok h
    rw [readBytes] at hbytes
    obtain ⟨⟨at_, node⟩, hfind, hbytes⟩ := exists_of_bind_eq_ok hbytes
    cases node with
    | directory => cases hbytes
    | file content executable =>
        obtain rfl : content = bytes := Except.ok.inj hbytes
        split at h
        next s hs =>
          obtain rfl : s = text := Except.ok.inj h
          obtain ⟨rfl, -⟩ := place_of_find hfind
          rw [eq_encode_of_decode? hs] at hfind
          exact ⟨executable, find_eq_ok_file_iff.mp hfind⟩
        · cases h
  · rintro ⟨executable, hfile⟩
    have hbytes : t.readBytes cwd p = .ok (encode text) := by
      rw [readBytes, find_eq_ok_file_iff.mpr hfile]
      rfl
    simp only [readText, hbytes, bind, Except.bind, decode?_encode]

/-- What is read from a path is held at its place. -/
theorem holds_of_readText {text : String} (h : t.readText cwd p = .ok text) :
    t.Holds (p.place cwd) text := by
  obtain ⟨executable, hresolve, -⟩ := readText_eq_ok_iff.mp h
  exact ⟨executable, file?_eq_some_iff.mpr (place_of_resolve hresolve).2⟩

namespace Extends

variable {apart more : Set Place} {t'' : Tree}

/-- A tree goes on from itself. -/
theorem refl (apart : Set Place) (t : Tree) : Extends apart t t :=
  ⟨fun _ _ => rfl, fun _ h => h⟩

/-- One change after another. -/
theorem trans (h : Extends apart t t') (h' : Extends apart t' t'') : Extends apart t t'' :=
  ⟨fun at_ hat => (h'.files at_ hat).trans (h.files at_ hat),
    fun at_ hat => h'.directories at_ (h.directories at_ hat)⟩

/-- More files may be changed. -/
theorem mono (h : Extends apart t t') (hsub : apart ⊆ more) : Extends more t t' :=
  ⟨fun at_ hat => h.files at_ fun hin => hat (hsub hin), h.directories⟩

/-- **What is read from a path** is read from it in a tree that extends this one, unless the file is
at one of the places. -/
theorem readText {text : String} (h : Extends apart t t') (hat : p.place cwd ∉ apart)
    (hread : t.readText cwd p = .ok text) : t'.readText cwd p = .ok text := by
  obtain ⟨executable, hresolve, hslash⟩ := readText_eq_ok_iff.mp hread
  have hnode : t'.node? (p.place cwd) = some (.file (encode text) executable) := by
    rw [← file?_eq_some_iff, h.files _ hat]
    exact file?_eq_some_iff.mpr (place_of_resolve hresolve).2
  exact readText_eq_ok_iff.mpr
    ⟨executable, resolve_of_directories h.directories hresolve hnode, hslash⟩

end Extends

/-! ### Requests -/

/-- A place at which no directory is may be given a file. -/
theorem extends_put_file {content : ByteArray} {executable : Bool}
    (h : t.isDirectoryAt at_ = false) :
    Extends {at_} t (t.put at_ (.file content executable)) where
  files other hother := by rw [file?, file?, node?_put_of_ne hother]
  directories other hdir := by
    have hne : other ≠ at_ := by
      rintro rfl
      rw [h] at hdir
      cases hdir
    rw [isDirectoryAt, node?_put_of_ne hne]
    exact hdir

/-- A place at which nothing is may be given a directory. -/
theorem extends_put_directory (h : t.node? at_ = none) : Extends ∅ t (t.put at_ .directory) := by
  have hroot : at_ ≠ [] := by
    rintro rfl
    cases h
  constructor
  · intro other _
    by_cases hother : other = at_
    · subst hother
      rw [file?_eq_none_of_node? h, file?, node?_put_self hroot]
    · rw [file?, file?, node?_put_of_ne hother]
  · intro other hdir
    by_cases hother : other = at_
    · subst hother
      rw [isDirectoryAt, node?_put_self hroot]
      rfl
    · rw [isDirectoryAt, node?_put_of_ne hother]
      exact hdir

/-- A file that is written is put at the place of its path, which does not ask for a directory, and
where none was. -/
theorem eq_put_of_writeBytes {content : ByteArray} {executable force : Bool}
    (h : t.writeBytes cwd p content executable force = .ok t') :
    p.endsWithSlash = false ∧ p.place cwd ≠ [] ∧ t.isDirectoryAt (p.place cwd) = false ∧
      (∃ target, t.resolve cwd p = .ok target) ∧
      ∃ executable', t' = t.put (p.place cwd) (.file content executable') := by
  rw [writeBytes] at h
  obtain ⟨target, hresolve, h⟩ := exists_of_bind_eq_ok h
  obtain ⟨hplace, hnode⟩ := place_of_resolve hresolve
  have hfile : target.node? ≠ some .directory → p.place cwd ≠ [] ∧
      t.isDirectoryAt (p.place cwd) = false := by
    intro hne
    rw [← hnode] at hne
    refine ⟨fun hroot => hne (by rw [hroot]; rfl), ?_⟩
    rw [isDirectoryAt]
    rcases hcase : t.node? (p.place cwd) with _ | _ | _
    · rfl
    · exact absurd hcase hne
    · rfl
  cases target with
  | absent directory name =>
      obtain ⟨hroot, hdir⟩ := hfile fun hnode => by cases hnode
      dsimp only at h
      split at h
      · cases h
      next hslash =>
        refine ⟨Bool.eq_false_iff.mpr hslash, hroot, hdir, ⟨_, hresolve⟩, executable, ?_⟩
        rw [← hplace]
        exact (Except.ok.inj h).symm
  | present at_ found =>
      cases found with
      | directory => cases h
      | file old wasExecutable =>
          obtain rfl : at_ = p.place cwd := hplace
          obtain ⟨hroot, hdir⟩ := hfile fun hnode => by cases hnode
          dsimp only at h
          split at h
          · cases h
          next hslash =>
            exact ⟨Bool.eq_false_iff.mpr hslash, hroot, hdir, ⟨_, hresolve⟩,
              if force then executable else wasExecutable, (Except.ok.inj h).symm⟩

/-- Writing a file changes that one only. -/
theorem extends_writeBytes {content : ByteArray} {executable force : Bool}
    (h : t.writeBytes cwd p content executable force = .ok t') :
    Extends {p.place cwd} t t' := by
  obtain ⟨-, -, hdir, -, executable', rfl⟩ := eq_put_of_writeBytes h
  exact extends_put_file hdir

/-- **What is written** to a path is read from it. -/
theorem readText_of_writeText {text : String} (h : t.writeText cwd p text = .ok t') :
    t'.readText cwd p = .ok text := by
  obtain ⟨hslash, hroot, hdir, ⟨target, hresolve⟩, executable, rfl⟩ := eq_put_of_writeBytes h
  exact readText_eq_ok_iff.mpr ⟨executable,
    resolve_of_directories (extends_put_file hdir).directories hresolve (node?_put_self hroot),
    hslash⟩

/-- A text that can be read can be replaced. -/
theorem writeText_of_readText {text : String} (h : t.readText cwd p = .ok text)
    (content : String) : ∃ t', t.writeText cwd p content = .ok t' := by
  obtain ⟨executable, hresolve, hslash⟩ := readText_eq_ok_iff.mp h
  refine ⟨t.put (p.place cwd) (.file (encode content) executable), ?_⟩
  rw [writeText, writeBytes, hresolve]
  change (if p.endsWithSlash then Except.error Fault.isADirectory else _) = _
  rw [hslash]
  rfl

/-- A directory that is made takes the place of no file. -/
theorem extends_makeDirectory (h : t.makeDirectory cwd p = .ok t') : Extends ∅ t t' := by
  rw [makeDirectory] at h
  obtain ⟨target, hresolve, h⟩ := exists_of_bind_eq_ok h
  cases target with
  | present at_ node => cases h
  | absent directory name =>
      obtain rfl : t.put (name :: directory) .directory = t' := Except.ok.inj h
      exact extends_put_directory (place_of_walk (walk_of_resolve hresolve)).2

/-- **Directories that are made** change no file, if none that is made does, even if not all of them
could be made. The induction is on the parents that are tried. -/
theorem Maker.extends_makeAll {maker : Maker}
    (h : ∀ t p t', maker.make t p = .ok t' → Extends ∅ t t') (t : Tree) (p : Path) :
    Extends ∅ t (maker.makeAll t p).tree := by
  have hlast : ∀ t p, Extends ∅ t (maker.makeLast t p).tree := by
    intro t p
    rw [makeLast]
    split
    next hmade => exact h _ _ _ hmade
    · split <;> exact .refl _ _
  suffices hall : ∀ fuel p, Extends ∅ t (maker.makeAllWith t fuel p).tree from hall _ _
  intro fuel p
  induction fuel generalizing p with
  | zero => exact .refl _ _
  | succ fuel ih =>
      rw [makeAllWith]
      split
      · exact .refl _ _
      · split
        next hmade => exact h _ _ _ hmade
        · split
          · split
            · exact .refl _ _
            next parent _ =>
              have hparents := ih parent
              split
              next hmade => rwa [hmade] at hparents
              next hmade =>
                rw [hmade] at hparents
                exact hparents.trans (hlast _ _)
          · split <;> exact .refl _ _

/-- Directories that are made change no file. -/
theorem extends_makeAll (t : Tree) (cwd : Place) (p : Path) :
    Extends ∅ t (t.makeAll cwd p).tree :=
  Maker.extends_makeAll (fun _ _ _ hmade => extends_makeDirectory hmade) t p

/-- A directory that is there needs no making. -/
theorem makeAll_of_resolve (h : t.resolve cwd p = .ok (.present at_ .directory)) :
    t.makeAll cwd p = ⟨t, none⟩ := by
  have hmake : t.makeDirectory cwd p = .error .alreadyExists := by
    rw [makeDirectory, h]
    rfl
  have hdir : t.isDirectory cwd p = true := by
    rw [isDirectory, find, h]
    rfl
  rw [makeAll, Maker.makeAll, Maker.makeAllWith, maker]
  by_cases hempty : p.text = ""
  · rw [if_pos hempty]
  · rw [if_neg hempty]
    simp only [hmake]
    exact if_pos hdir

/-- A directory that is removed is at the place of its path. -/
theorem eq_removeAll_of_removeDirectory (h : t.removeDirectory cwd p = .ok t') :
    t' = t.removeAll (p.place cwd) := by
  rw [removeDirectory] at h
  obtain ⟨⟨at_, node⟩, hfind, h⟩ := exists_of_bind_eq_ok h
  cases node with
  | file content executable => cases h
  | directory =>
      rw [← (place_of_find hfind).1]
      exact (Except.ok.inj h).symm

/-- **Nothing is left** at or under a directory that was removed. -/
theorem node?_removeDirectory (h : t.removeDirectory cwd p = .ok t') (hroot : p.place cwd ≠ [])
    (hunder : isUnder (p.place cwd) at_) : t'.node? at_ = none := by
  have hat : at_ ≠ [] := by
    rintro rfl
    exact hroot (List.suffix_nil.mp (List.isSuffixOf_iff_suffix.mp hunder))
  rw [eq_removeAll_of_removeDirectory h, node?_removeAll hat, if_pos hunder]

/-- Only files at or under a directory that is removed are lost. -/
theorem sameFiles_removeDirectory (h : t.removeDirectory cwd p = .ok t') :
    SameFiles {at_ | isUnder (p.place cwd) at_} t t' := by
  intro at_ hat
  rw [eq_removeAll_of_removeDirectory h]
  by_cases hroot : at_ = []
  · subst hroot
    rfl
  · have hunder : ¬ isUnder (p.place cwd) at_ = true := hat
    rw [file?, file?, node?_removeAll hroot, if_neg hunder]

/-- Where a directory is removed there was no file, so only files below it are lost. -/
theorem sameFiles_below_removeDirectory (h : t.removeDirectory cwd p = .ok t') :
    SameFiles {at_ | Place.Below (p.place cwd) at_} t t' := by
  intro at_ hat
  by_cases hself : at_ = p.place cwd
  · subst hself
    have hthere : t.node? (p.place cwd) = some .directory := by
      rw [removeDirectory] at h
      obtain ⟨⟨at_, node⟩, hfind, hnode⟩ := exists_of_bind_eq_ok h
      cases node with
      | file content executable => cases hnode
      | directory => exact (place_of_find hfind).2
    have hbefore : t.file? (p.place cwd) = none := by rw [file?, hthere]
    rw [hbefore]
    by_cases hroot : p.place cwd = []
    · rw [hroot]
      rfl
    · exact file?_eq_none_of_node?
        (node?_removeDirectory h hroot (List.isSuffixOf_iff_suffix.mpr List.suffix_rfl))
  · exact sameFiles_removeDirectory h at_ fun hunder => hat ⟨hunder, hself⟩

end Tree

end GeoBench.Machine
