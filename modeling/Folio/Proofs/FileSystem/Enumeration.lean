import Folio.Proofs.FileSystem.Agreement
import Folio.Proofs.FileSystem.Replacement

/-!
# Orders of enumeration

A disk may enumerate the entries of each of its directories in any order. Paths do not see the
order: they lead to the same directories, enumerated in another order.

Main definitions:

* `Directory.Reordered`: the same tree in another order of enumeration.
* `FileSystem.Reordered`: the same disk in another order of enumeration.

Results:

* `Directory.Reordered.wellFormed`, `Directory.Reordered.alike`, `Directory.Reordered.sameTree`: the
  trees are well-formed together, alike, and agree everywhere.
* `FileSystem.Reordered.readDirectory`: what a path to a directory leads to.
* `FileSystem.Reordered.readFile_eq`, `FileSystem.Reordered.readDirectory_cases`: what is read of a
  file, or why nothing is read, does not depend on the order.
* `FileSystem.exists_reordered_readDirectory`: any order of enumeration of that directory is the
  order on some disk.
-/

namespace Folio

/-- The same tree in another order of enumeration: that of the entries of the directory, or that in
one of its directories, or one after another. -/
inductive Directory.Reordered : Directory → Directory → Prop
  | here {dir dir' : Directory} (h : dir.Perm dir') : Reordered dir dir'
  | inside {before after entries entries' : Directory} {name : String}
      (h : Reordered entries entries') :
      Reordered (before ++ (name, .directory entries) :: after)
        (before ++ (name, .directory entries') :: after)
  | trans {dir dir' dir'' : Directory} (h : Reordered dir dir') (h' : Reordered dir' dir'') :
      Reordered dir dir''

namespace Directory.Reordered

theorem refl (dir : Directory) : dir.Reordered dir := .here (.refl dir)

theorem wellFormed {dir dir' : Directory} (h : dir.Reordered dir') (hwf : dir.WellFormed) :
    dir'.WellFormed := by
  induction h with
  | here h =>
    obtain ⟨hdistinct, hnamed⟩ := hwf.hasEntryNames
    refine .intro ((h.map Prod.fst).nodup_iff.mp hdistinct) ?_ ?_
    · intro entry hentry
      exact hnamed entry (h.mem_iff.mpr hentry)
    · intro name entries hmem
      exact hwf.of_find? (hwf.find?_eq_some_iff.mpr (h.mem_iff.mpr hmem))
  | inside _ ih =>
    have hentries := hwf.of_find? (find?_middle hwf.name_notMem.1)
    exact hwf.replace (ih hentries)
  | trans _ _ ih ih' => exact ih' (ih hwf)

theorem find?_eq_of_perm {dir dir' : Directory} (h : dir.Perm dir') (hwf : dir.WellFormed)
    (name : String) : dir'.find? name = dir.find? name := by
  have hwf' := (Reordered.here h).wellFormed hwf
  apply Option.ext
  intro node
  rw [hwf.find?_eq_some_iff, hwf'.find?_eq_some_iff, h.mem_iff]

theorem alike {dir dir' : Directory} (h : dir.Reordered dir') (hwf : dir.WellFormed) :
    dir.Alike dir' := by
  induction h with
  | here h =>
    apply alike_of_find?
    · intro name
      rw [find?_eq_of_perm h hwf]
    · intro name entries entries' hname hname'
      rw [find?_eq_of_perm h hwf, hname] at hname'
      cases hname'
      exact .refl entries
  | inside _ ih =>
    have hentries := hwf.of_find? (find?_middle hwf.name_notMem.1)
    exact alike_replace hwf rfl (ih hentries)
  | trans h _ ih ih' => exact (ih hwf).trans (ih' (h.wellFormed hwf))

/-- What lies under a name is the same directory, in another order of enumeration. -/
theorem find?_directory {dir dir' : Directory} (h : dir.Reordered dir') (hwf : dir.WellFormed)
    {name : String} {entries : Directory} (hname : dir.find? name = some (.directory entries)) :
    ∃ entries', dir'.find? name = some (.directory entries') ∧
      Directory.Reordered entries entries' := by
  induction h generalizing entries with
  | here h => exact ⟨entries, (find?_eq_of_perm h hwf name).trans hname, .refl entries⟩
  | @inside before after inner inner' p h _ =>
    obtain ⟨hbefore, -⟩ := hwf.name_notMem
    by_cases hp : name = p
    · subst hp
      rw [find?_middle hbefore] at hname
      cases hname
      exact ⟨inner', find?_middle hbefore, h⟩
    · exact ⟨entries, (find?_replace_of_ne hp).trans hname, .refl entries⟩
  | trans h _ ih ih' =>
    obtain ⟨entries', hname', hentries⟩ := ih hwf hname
    obtain ⟨entries'', hname'', hentries'⟩ := ih' (h.wellFormed hwf) hname'
    exact ⟨entries'', hname'', hentries.trans hentries'⟩

section SameTree

variable {dir dir' : Directory} (h : dir.Reordered dir') (hwf : dir.WellFormed)
include h hwf

theorem sameEntries : dir.SameEntries dir' := by
  induction h with
  | here h =>
    intro name
    rw [find?_eq_of_perm h hwf]
  | @inside before after inner inner' p _ _ =>
    obtain ⟨hbefore, -⟩ := hwf.name_notMem
    intro name
    by_cases hp : name = p
    · rw [hp, find?_middle hbefore, find?_middle hbefore]
      rfl
    · rw [find?_replace_of_ne hp]
  | trans h _ ih ih' =>
    intro name
    rw [ih hwf name, ih' (h.wellFormed hwf) name]

theorem sameTree : dir.SameTree dir' := by
  intro above name
  induction above generalizing dir dir' with
  | nil => exact h.sameEntries hwf name
  | cons p above ih =>
    by_cases hp : ∃ entries, dir.find? p = some (.directory entries)
    · obtain ⟨entries, hentries⟩ := hp
      obtain ⟨entries', hentries', hinner⟩ := h.find?_directory hwf hentries
      rw [node?_cons hentries, node?_cons hentries']
      exact ih hinner (hwf.of_find? hentries)
    · have hp' := mt (h.sameEntries hwf).exists_directory_iff.mpr hp
      rw [node?_cons_eq_none (not_exists.mp hp), node?_cons_eq_none (not_exists.mp hp')]

end SameTree

theorem below? {dir dir' : Directory} (h : dir.Reordered dir') (hwf : dir.WellFormed)
    {above : List String} {tree : Directory} (htree : dir.below? above = some tree) :
    ∃ tree', dir'.below? above = some tree' ∧ tree.Reordered tree' := by
  induction above generalizing dir dir' with
  | nil =>
    cases htree
    exact ⟨dir', rfl, h⟩
  | cons p above ih =>
    obtain ⟨entries, hp, hentries⟩ := below?_cons_eq_some_iff.mp htree
    obtain ⟨entries', hp', hreordered⟩ := h.find?_directory hwf hp
    obtain ⟨tree', htree', htrees⟩ := ih hreordered (hwf.of_find? hp) hentries
    exact ⟨tree', below?_cons_eq_some_iff.mpr ⟨entries', hp', htree'⟩, htrees⟩

end Directory.Reordered

theorem Directory.exists_reordered_below? {dir tree tree' : Directory} (hwf : dir.WellFormed)
    {above : List String} (htree : dir.below? above = some tree) (h : tree.Reordered tree') :
    ∃ dir', dir.Reordered dir' ∧ dir'.below? above = some tree' := by
  induction above generalizing dir with
  | nil =>
    cases htree
    exact ⟨tree', h, rfl⟩
  | cons p above ih =>
    obtain ⟨entries, hp, hentries⟩ := below?_cons_eq_some_iff.mp htree
    obtain ⟨entries', hreordered, htree'⟩ := ih (hwf.of_find? hp) hentries
    obtain ⟨before, after, rfl⟩ := List.append_of_mem (mem_of_find? hp)
    exact ⟨_, .inside hreordered, below?_cons_eq_some_iff.mpr
      ⟨entries', find?_middle hwf.name_notMem.1, htree'⟩⟩

/-! ## Disks -/

namespace FileSystem

/-- The same disk in another order of enumeration. -/
structure Reordered (fs fs' : FileSystem) : Prop where
  root : fs.root.Reordered fs'.root
  current : fs'.current = fs.current

section Path

variable {fs : FileSystem} (hdisk : fs.root.WellFormed) {path : String} {dir : Directory}
  (hpath : fs.readDirectory path = .ok dir)
include hdisk hpath

/-- A path to a directory leads to the same directory, in another order of enumeration. -/
theorem Reordered.readDirectory {fs' : FileSystem} (h : fs.Reordered fs') :
    ∃ dir', fs'.readDirectory path = .ok dir' ∧ dir.Reordered dir' := by
  obtain ⟨position, hposition, rfl⟩ := readDirectory_eq_ok_iff.mp hpath
  obtain ⟨position', hposition', hsame⟩ :=
    locate_alike (h.root.alike hdisk) h.current hposition
  obtain ⟨dir', hdir', hreordered⟩ := h.root.below? hdisk hsame.left.below?_place
  have hhere := hsame.right.below?_place
  rw [hsame.place_eq, hdir'] at hhere
  cases hhere
  exact ⟨position'.here, readDirectory_eq_ok_iff.mpr ⟨position', hposition', rfl⟩, hreordered⟩

/-- Any order of enumeration of the directory at a path is the order on some disk. -/
theorem exists_reordered_readDirectory {dir' : Directory} (h : dir.Reordered dir') :
    ∃ fs', fs.Reordered fs' ∧ fs'.readDirectory path = .ok dir' := by
  obtain ⟨position, hposition, rfl⟩ := readDirectory_eq_ok_iff.mp hpath
  obtain ⟨root', hroot, hdir'⟩ :=
    Directory.exists_reordered_below? hdisk (in_of_locate hposition).below?_place h
  have hcurrent : (FileSystem.mk root' fs.current).current = fs.current := rfl
  obtain ⟨position', hposition', hsame⟩ :=
    locate_alike (hroot.alike hdisk) hcurrent hposition
  have hhere := hsame.right.below?_place
  rw [hsame.place_eq, hdir'] at hhere
  exact ⟨⟨root', fs.current⟩, ⟨hroot, rfl⟩, readDirectory_eq_ok_iff.mpr
    ⟨position', hposition', (Option.some.inj hhere).symm⟩⟩

end Path

namespace Reordered

variable {fs fs' : FileSystem} (h : fs.Reordered fs') (hdisk : fs.root.WellFormed)
include h hdisk

theorem locate_eq (path : String) :
    (fs'.locate path).map Target.label = (fs.locate path).map Target.label :=
  locate_sameTree (h.root.sameTree hdisk) h.current path

/-- A file is read alike in all orders of enumeration. -/
theorem readFile_eq (path : String) : fs'.readFile path = fs.readFile path :=
  readFile_congr (h.locate_eq hdisk path)

/-- What a path to a directory leads to in another order of enumeration, or why it does not. -/
theorem readDirectory_cases (path : String) :
    (∃ e, fs.readDirectory path = .error e ∧ fs'.readDirectory path = .error e) ∨
      ∃ dir dir', fs.readDirectory path = .ok dir ∧ fs'.readDirectory path = .ok dir' ∧
        dir.Reordered dir' := by
  rcases readDirectory_congr (h.locate_eq hdisk path) with ⟨e, he', he⟩ | ⟨_, dir, -, hdir⟩
  · exact .inl ⟨e, he, he'⟩
  · obtain ⟨dir', hdir', hreordered⟩ := h.readDirectory hdisk hdir
    exact .inr ⟨dir, dir', hdir, hdir', hreordered⟩

end Reordered

end FileSystem

end Folio
