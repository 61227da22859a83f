import Folio.Proofs.FileSystem.Alike
import Folio.Proofs.FileSystem.Nodes

/-!
# Disks that agree

Two disks agree on an entry if they have the same there: a file with the same bytes, a link to the
same place, or a directory. What is read by the path of an entry is the same on two disks that agree
on the entry, whatever else lies on them and in whatever order they enumerate it.

Main definitions:

* `Node.label`: a node without what is below it.
* `Directory.SameEntries`, `Directory.SameTree`, `Directory.SameBelow`: directories that agree on
  their own entries, on all below them, and on one entry with all below it.
* `FileSystem.entriesAt`: the entries of the directory in which joined paths start.
* `FileSystem.PlainAt`: no link lies below the directory in which joined paths start.

Results:

* `FileSystem.readFile_join_iff`, `FileSystem.entriesAt_join`: what is read by a joined path.
* `FileSystem.locate_sameTree`, `FileSystem.locate_join_congr`: a path leads to the same, or fails
  alike, on disks that agree everywhere, and a joined path on disks that agree on the entry.
-/

namespace Folio

/-- A node without what is below it: the bytes of a file, where a link leads, or a directory. -/
def Node.label : Node → Node
  | .file bytes => .file bytes
  | .link target => .link target
  | .directory _ => .directory []

theorem Node.label_eq_file_iff {node : Node} {bytes : List UInt8} :
    node.label = .file bytes ↔ node = .file bytes := by
  cases node <;> simp [label]

theorem Node.label_eq_link_iff {node : Node} {target : String} :
    node.label = .link target ↔ node = .link target := by
  cases node <;> simp [label]

theorem Node.label_eq_directory_iff {node : Node} :
    node.label = .directory [] ↔ ∃ entries, node = .directory entries := by
  cases node <;> simp [label]

theorem Node.outline_label (node : Node) : node.label.outline = node.outline := by
  cases node <;> rfl

namespace Directory

/-! ## Trees that agree -/

/-- Directories with entries of the same names and kinds, and with the same bytes in files. -/
def SameEntries (dir dir' : Directory) : Prop :=
  ∀ name, (dir.find? name).map Node.label = (dir'.find? name).map Node.label

/-- Directories in which walks end at the same names and kinds, and at the same bytes. -/
def SameTree (dir dir' : Directory) : Prop :=
  ∀ above name, (dir.node? above name).map Node.label = (dir'.node? above name).map Node.label

/-- Directories that agree on the entry of a name and on everything below it. -/
structure SameBelow (name : String) (dir dir' : Directory) : Prop where
  entry : (dir.find? name).map Node.label = (dir'.find? name).map Node.label
  below : ∀ above inner, (dir.node? (name :: above) inner).map Node.label =
    (dir'.node? (name :: above) inner).map Node.label

theorem node?_cons_eq_entriesOf (dir : Directory) (p : String) (above : List String)
    (name : String) : dir.node? (p :: above) name = (dir.entriesOf p).node? above name := by
  by_cases hp : ∃ entries, dir.find? p = some (.directory entries)
  · obtain ⟨entries, hp⟩ := hp
    rw [node?_cons hp, entriesOf_eq hp]
  · rw [not_exists] at hp
    rw [node?_cons_eq_none hp, entriesOf_eq_nil hp]
    cases above <;> rfl

section Same

variable {dir dir' : Directory}

theorem SameBelow.entriesOf {name : String} (h : dir.SameBelow name dir') :
    (dir.entriesOf name).SameTree (dir'.entriesOf name) := by
  intro above inner
  rw [← node?_cons_eq_entriesOf, ← node?_cons_eq_entriesOf]
  exact h.below above inner

theorem SameBelow.of_find?_eq {name : String} (h : dir.find? name = dir'.find? name) :
    dir.SameBelow name dir' := by
  refine ⟨congrArg _ h, fun above inner => ?_⟩
  rw [node?_cons_eq_entriesOf, node?_cons_eq_entriesOf, Directory.entriesOf, Directory.entriesOf, h]

theorem SameTree.sameBelow (h : dir.SameTree dir') (name : String) : dir.SameBelow name dir' :=
  ⟨h [] name, fun above inner => h (name :: above) inner⟩

theorem SameTree.sameEntries (h : dir.SameTree dir') : dir.SameEntries dir' := h []

theorem SameTree.alike (h : dir.SameTree dir') : dir.Alike dir' := by
  intro above name
  have houtline := congrArg (Option.map Node.outline) (h above name)
  simpa only [Option.map_map, Function.comp_def, Node.outline_label] using houtline

theorem SameEntries.cons {name : String} {node node' : Node} (hnode : node.label = node'.label)
    (h : dir.SameEntries dir') :
    Directory.SameEntries ((name, node) :: dir) ((name, node') :: dir') := by
  intro other
  rw [find?, find?, List.lookup_cons, List.lookup_cons]
  cases other == name with
  | true => exact congrArg some hnode
  | false => exact h other

theorem SameEntries.find?_eq_file_iff (h : dir.SameEntries dir') {name : String}
    {bytes : List UInt8} :
    dir.find? name = some (.file bytes) ↔ dir'.find? name = some (.file bytes) := by
  have hfile (dir : Directory) : dir.find? name = some (.file bytes) ↔
      (dir.find? name).map Node.label = some (.file bytes) := by
    simp [Option.map_eq_some_iff, Node.label_eq_file_iff]
  rw [hfile, hfile, h name]

theorem SameEntries.exists_directory_iff (h : dir.SameEntries dir') {name : String} :
    (∃ entries, dir.find? name = some (.directory entries)) ↔
      ∃ entries, dir'.find? name = some (.directory entries) := by
  have houtline := congrArg (Option.map Node.outline) (h name)
  simp only [Option.map_map, Function.comp_def, Node.outline_label] at houtline
  rw [Directory.exists_directory_iff, Directory.exists_directory_iff, houtline]

end Same

theorem WellFormed.entriesOf {dir : Directory} (h : dir.WellFormed) (name : String) :
    (dir.entriesOf name).WellFormed := by
  by_cases hname : ∃ entries, dir.find? name = some (.directory entries)
  · obtain ⟨entries, hname⟩ := hname
    rw [entriesOf_eq hname]
    exact h.of_find? hname
  · rw [entriesOf_eq_nil (not_exists.mp hname)]
    exact .nil

theorem LinkFree.entriesOf {dir : Directory} (h : dir.LinkFree) (name : String) :
    (dir.entriesOf name).LinkFree := by
  intro above inner target
  rw [← node?_cons_eq_entriesOf]
  exact h (name :: above) inner target

theorem LinkFree.nil : Directory.LinkFree [] := by
  intro above name target hnode
  cases above <;> cases hnode

theorem LinkFree.below? {dir inner : Directory} (h : dir.LinkFree) {above : List String}
    (habove : dir.below? above = some inner) : Directory.LinkFree inner := by
  induction above generalizing dir with
  | nil => exact Option.some.inj habove ▸ h
  | cons p above ih =>
    obtain ⟨entries, hp, hinner⟩ := below?_cons_eq_some_iff.mp habove
    exact ih (h.below hp) hinner

end Directory

namespace FileSystem

/-! ## Joined paths -/

/-- The entries of the directory in which paths start that are joined to a path. The empty path adds
nothing to them, so that they start in the current directory. -/
def entriesAt (fs : FileSystem) (path : String) : Directory :=
  match fs.readDirectory (if path = "" then "." else path) with
  | .ok dir => dir
  | .error _ => []

theorem entriesAt_eq {fs : FileSystem} {path : String} {dir : Directory}
    (hdir : fs.readDirectory path = .ok dir) : fs.entriesAt path = dir := by
  rw [entriesAt, if_neg (ne_empty_of_readDirectory hdir), hdir]

theorem entriesAt_eq_nil {fs : FileSystem} {path : String} (hpath : path ≠ "")
    (hdir : ∀ dir, fs.readDirectory path ≠ .ok dir) : fs.entriesAt path = [] := by
  rw [entriesAt, if_neg hpath]
  cases h : fs.readDirectory path with
  | ok dir => exact absurd h (hdir dir)
  | error e => rfl

theorem steps_eq_singleton {name : String} (hname : IsPlainName name) : steps name = [name] := by
  rw [steps, List.splitOn_eq_singleton hname.no_separator]
  simp [hname.ne_empty]

theorem readDirectory_here (fs : FileSystem) : fs.readDirectory "." = .ok fs.here.here := by
  refine readDirectory_eq_ok_iff.mpr ⟨fs.here, locate_eq_ok_iff.mpr ?_, rfl⟩
  have hsteps : steps "." = ["."] := by decide
  refine ⟨by decide, by decide, by decide, ?_⟩
  rw [hsteps, follow_here, follow]
  rfl

theorem entriesAt_empty (fs : FileSystem) : fs.entriesAt "" = fs.here.here := by
  rw [entriesAt, if_pos rfl, readDirectory_here]

/-- The directory in which joined paths start is well-formed, and no link lies below it. -/
structure PlainAt (fs : FileSystem) (path : String) : Prop where
  wellFormed : (fs.entriesAt path).WellFormed
  linkFree : (fs.entriesAt path).LinkFree

/-- A disk on which no link lies. -/
structure Plain (fs : FileSystem) : Prop where
  wellFormed : fs.root.WellFormed
  linkFree : fs.root.LinkFree

theorem plain_iff {fs : FileSystem} :
    fs.Plain ↔ fs.root.WellFormed ∧ ∀ entry ∈ nodesIn [] fs.root, entry.node.isLink = false := by
  constructor
  · intro h
    exact ⟨h.wellFormed, (Directory.linkFree_iff h.wellFormed).mp h.linkFree⟩
  · rintro ⟨hwf, hlink⟩
    exact ⟨hwf, (Directory.linkFree_iff hwf).mpr hlink⟩

instance (fs : FileSystem) : Decidable fs.Plain := decidable_of_iff _ plain_iff.symm

theorem Plain.of_readDirectory {fs : FileSystem} (h : fs.Plain) {path : String} {dir : Directory}
    (hdir : fs.readDirectory path = .ok dir) : dir.WellFormed ∧ dir.LinkFree := by
  obtain ⟨position, hposition, rfl⟩ := readDirectory_eq_ok_iff.mp hdir
  have hplace := (in_of_locate hposition).below?_place
  exact ⟨h.wellFormed.below? hplace, h.linkFree.below? hplace⟩

theorem Plain.plainAt {fs : FileSystem} (h : fs.Plain) (path : String) : fs.PlainAt path := by
  have hentries : (fs.entriesAt path).WellFormed ∧ (fs.entriesAt path).LinkFree := by
    rw [entriesAt]
    split
    · next hdir => exact h.of_readDirectory hdir
    · exact ⟨.nil, .nil⟩
  exact ⟨hentries.1, hentries.2⟩

section Join

variable {fs : FileSystem} {path name : String} (hplain : fs.PlainAt path)
  (hname : IsPlainName name)
include hplain hname

/-- A file is read by a joined path iff it is the entry of the name and the path is short enough. -/
theorem readFile_join_iff {bytes : List UInt8} :
    fs.readFile (Path.join path name) = .ok bytes ↔
      (Path.join path name).utf8ByteSize < pathLimit ∧
        (fs.entriesAt path).find? name = some (.file bytes) := by
  have hlink := hplain.linkFree.find?_ne name
  have hwf := hplain.wellFormed
  by_cases hread : ∃ dir, fs.readDirectory path = .ok dir
  · obtain ⟨dir, hdir⟩ := hread
    rw [entriesAt_eq hdir] at hlink hwf ⊢
    exact readFile_join_eq_ok_iff hdir hwf hname hlink
  · by_cases hempty : path = ""
    · subst hempty
      have hjoin : Path.join "" name = name := by
        simp [Path.join, Path.isAbsolute_eq_false hname.no_separator]
      rw [entriesAt_empty] at hlink hwf ⊢
      have hfollow {target : Target} {short : Prop} :
          '\x00' ∉ name.toList ∧ short ∧ follow fs.top linkLimit fs.here [name] = .ok target ↔
            short ∧ fs.here.enter? name = some target := follow_entry_eq_ok_iff hwf hname hlink
      rw [hjoin, readFile_eq_ok_iff, locate_eq_ok_iff, steps_eq_singleton hname, start,
        Path.isAbsolute_eq_false hname.no_separator, ← Position.enter?_eq_file_iff, ← hfollow]
      simp [hname.ne_empty]
    · rw [entriesAt_eq_nil hempty (not_exists.mp hread)]
      constructor
      · intro hfile
        exact absurd (exists_readDirectory_of_readFile_join hempty hname hfile) hread
      · rintro ⟨-, hfile⟩
        cases hfile

theorem entriesAt_join (hpath : path ≠ "") :
    fs.entriesAt (Path.join path name) =
      if (Path.join path name).utf8ByteSize < pathLimit then (fs.entriesAt path).entriesOf name
      else [] := by
  have hjoin := Path.join_ne_empty hpath hname.no_separator
  by_cases hread : ∃ dir, fs.readDirectory path = .ok dir
  · obtain ⟨dir, hdir⟩ := hread
    have hlink := hplain.linkFree.find?_ne name
    have hwf := hplain.wellFormed
    rw [entriesAt_eq hdir] at hlink hwf ⊢
    have hentry {entries : Directory} :
        fs.readDirectory (Path.join path name) = .ok entries ↔
          (Path.join path name).utf8ByteSize < pathLimit ∧
            dir.find? name = some (.directory entries) :=
      readDirectory_join_eq_ok_iff hdir hwf hname hlink
    by_cases hfound : ∃ entries, fs.readDirectory (Path.join path name) = .ok entries
    · obtain ⟨entries, hentries⟩ := hfound
      obtain ⟨hsize, hfind⟩ := hentry.mp hentries
      rw [entriesAt_eq hentries, if_pos hsize, Directory.entriesOf_eq hfind]
    · rw [entriesAt_eq_nil hjoin (not_exists.mp hfound)]
      split
      · next hsize =>
        refine (Directory.entriesOf_eq_nil fun entries hfind => hfound ⟨entries, ?_⟩).symm
        exact hentry.mpr ⟨hsize, hfind⟩
      · rfl
  · have hnone (entries : Directory) : fs.readDirectory (Path.join path name) ≠ .ok entries := by
      intro hentries
      obtain ⟨position, hposition, -⟩ := readDirectory_eq_ok_iff.mp hentries
      obtain ⟨above, habove⟩ := exists_position_of_locate_join hpath hname hposition
      exact hread ⟨above.here, readDirectory_eq_ok_iff.mpr ⟨above, habove, rfl⟩⟩
    rw [entriesAt_eq_nil hjoin hnone, entriesAt_eq_nil hpath (not_exists.mp hread)]
    exact (ite_self _).symm

theorem PlainAt.join (hpath : path ≠ "") : fs.PlainAt (Path.join path name) := by
  have hentries := entriesAt_join hplain hname hpath
  split at hentries
  · exact ⟨hentries ▸ hplain.wellFormed.entriesOf name, hentries ▸ hplain.linkFree.entriesOf name⟩
  · exact ⟨hentries ▸ .nil, hentries ▸ .nil⟩

end Join

/-! ## Joined paths on two disks -/

section JoinCongr

variable {fs fs' : FileSystem} {path name : String} (hplain : fs.PlainAt path)
  (hplain' : fs'.PlainAt path) (hname : IsPlainName name)
include hplain hplain' hname

theorem readFile_join_eq_ok_congr
    (h : (fs.entriesAt path).SameEntries (fs'.entriesAt path)) {bytes : List UInt8} :
    fs.readFile (Path.join path name) = .ok bytes ↔
      fs'.readFile (Path.join path name) = .ok bytes := by
  rw [readFile_join_iff hplain hname, readFile_join_iff hplain' hname, h.find?_eq_file_iff]

theorem sameTree_entriesAt_join (hpath : path ≠ "")
    (h : (fs.entriesAt path).SameBelow name (fs'.entriesAt path)) :
    (fs.entriesAt (Path.join path name)).SameTree (fs'.entriesAt (Path.join path name)) := by
  rw [entriesAt_join hplain hname hpath, entriesAt_join hplain' hname hpath]
  split
  · exact h.entriesOf
  · exact fun _ _ => rfl

end JoinCongr

/-! ## What paths lead to on two disks -/

/-- What a path leads to, without what is below it. -/
def Target.label : Target → Node
  | .file bytes => .file bytes
  | .directory _ => .directory []

section SameTree

variable {root root' : Directory} (hsame : root.SameTree root')
include hsame

theorem Position.SamePlace.label_find? {position position' : Position}
    (h : SamePlace root root' position position') (name : String) :
    (position'.here.find? name).map Node.label = (position.here.find? name).map Node.label := by
  rw [← h.left.node?_place, ← h.right.node?_place, h.place_eq]
  exact (hsame _ _).symm

theorem Position.SamePlace.exists_label {position position' : Position}
    (h : SamePlace root root' position position') {name : String} {node : Node}
    (hname : position.here.find? name = some node) :
    ∃ node', position'.here.find? name = some node' ∧ node'.label = node.label := by
  have hlabel := h.label_find? hsame name
  rw [hname, Option.map_some] at hlabel
  exact Option.map_eq_some_iff.mp hlabel

/-- Steps lead to the same, or fail alike, from the same place in trees that agree. -/
theorem follow_sameTree {links : Nat} {spot spot' : Position} {names : List String}
    (hspot : Position.SamePlace root root' spot spot') :
    (follow ⟨root', []⟩ links spot' names).map Target.label =
      (follow ⟨root, []⟩ links spot names).map Target.label := by
  fun_induction follow ⟨root, []⟩ links spot names generalizing spot' with
  | case1 links spot =>
    rw [follow]
    rfl
  | case2 links spot rest ih =>
    rw [follow_here]
    exact ih hspot
  | case3 links spot rest _ ih =>
    rw [follow_above]
    exact ih hspot.up
  | case4 links spot name rest hhere habove hsize =>
    rw [follow_tooLong hhere habove hsize]
  | case5 links spot name rest hhere habove hsize hname =>
    have hlabel := hspot.label_find? hsame name
    rw [hname, Option.map_none, Option.map_eq_none_iff] at hlabel
    rw [follow_none hhere habove (Nat.not_lt.mp hsize) hlabel]
  | case6 links spot name rest hhere habove hsize bytes hname hrest =>
    obtain ⟨node', hname', hlabel⟩ := hspot.exists_label hsame hname
    obtain rfl := Node.label_eq_file_iff.mp hlabel
    rw [follow_file hhere habove (Nat.not_lt.mp hsize) hname', if_pos hrest]
  | case7 links spot name rest hhere habove hsize bytes hname hrest =>
    obtain ⟨node', hname', hlabel⟩ := hspot.exists_label hsame hname
    obtain rfl := Node.label_eq_file_iff.mp hlabel
    rw [follow_file hhere habove (Nat.not_lt.mp hsize) hname', if_neg hrest]
  | case8 links spot name rest hhere habove hsize entries hname ih =>
    obtain ⟨node', hname', hlabel⟩ := hspot.exists_label hsame hname
    obtain ⟨entries', rfl⟩ := Node.label_eq_directory_iff.mp hlabel
    rw [follow_directory hhere habove (Nat.not_lt.mp hsize) hname']
    exact ih (hspot.down hname hname')
  | case9 spot name rest hhere habove hsize target hname =>
    obtain ⟨node', hname', hlabel⟩ := hspot.exists_label hsame hname
    obtain rfl := Node.label_eq_link_iff.mp hlabel
    rw [follow_link_zero hhere habove (Nat.not_lt.mp hsize) hname']
  | case10 spot name rest hhere habove hsize target hname links ih =>
    obtain ⟨node', hname', hlabel⟩ := hspot.exists_label hsame hname
    obtain rfl := Node.label_eq_link_iff.mp hlabel
    rw [Nat.succ_eq_add_one, follow_link_succ hhere habove (Nat.not_lt.mp hsize) hname']
    refine ih ?_
    split
    · exact .top root root'
    · exact hspot

end SameTree

/-- A path leads to the same, or fails alike, on disks that agree everywhere. -/
theorem locate_sameTree {fs fs' : FileSystem} (hsame : fs.root.SameTree fs'.root)
    (hcurrent : fs'.current = fs.current) (path : String) :
    (fs'.locate path).map Target.label = (fs.locate path).map Target.label := by
  rw [locate, locate]
  split
  · rfl
  · split
    · rfl
    · split
      · rfl
      · exact follow_sameTree hsame (start_alike hsame.alike hcurrent path)

section Congr

variable {fs fs' : FileSystem} {path name : String}

theorem map_label_follow_singleton {top spot : Position} (hname : IsPlainName name)
    (hlink : ∀ target, spot.here.find? name ≠ some (.link target)) (links : Nat) :
    (follow top links spot [name]).map Target.label =
      if nameLimit < name.utf8ByteSize then .error .nameTooLong
      else ((spot.here.find? name).map Node.label).elim (.error .notFound) .ok := by
  have hhere := hname.ne_here
  have habove := hname.ne_above
  split
  · next hsize => rw [follow_tooLong hhere habove hsize, Except.map]
  · next hsize =>
    have hsize := Nat.not_lt.mp hsize
    cases hnode : spot.here.find? name with
    | none =>
      rw [follow_none hhere habove hsize hnode, Option.map_none, Option.elim_none, Except.map]
    | some node =>
      cases node with
      | link target => exact absurd hnode (hlink target)
      | file bytes => rw [follow_file hhere habove hsize hnode]; rfl
      | directory entries => rw [follow_directory hhere habove hsize hnode, follow]; rfl

/-- The path of an entry leads to the same, or fails alike, on disks that agree on the entry. -/
theorem locate_join_congr {dir dir' : Directory} (hdir : fs.readDirectory path = .ok dir)
    (hdir' : fs'.readDirectory path = .ok dir') (hname : IsPlainName name)
    (hlink : ∀ target, dir.find? name ≠ some (.link target))
    (hentry : (dir.find? name).map Node.label = (dir'.find? name).map Node.label) :
    (fs.locate (Path.join path name)).map Target.label =
      (fs'.locate (Path.join path name)).map Target.label := by
  obtain ⟨position, hposition, rfl⟩ := readDirectory_eq_ok_iff.mp hdir
  obtain ⟨position', hposition', rfl⟩ := readDirectory_eq_ok_iff.mp hdir'
  obtain ⟨left, hleft⟩ := exists_locate_join_eq hposition hname
  obtain ⟨left', hleft'⟩ := exists_locate_join_eq hposition' hname
  have hlink' (target : String) : position'.here.find? name ≠ some (.link target) := by
    intro hnode
    rw [hnode, Option.map_some, Option.map_eq_some_iff] at hentry
    obtain ⟨node, hnode, hlabel⟩ := hentry
    cases node with
    | link other => exact hlink other hnode
    | file bytes => cases hlabel
    | directory entries => cases hlabel
  rw [hleft, hleft']
  split
  · rfl
  · split
    · rfl
    · rw [map_label_follow_singleton hname hlink, map_label_follow_singleton hname hlink', hentry]

variable (h : (fs.locate path).map Target.label = (fs'.locate path).map Target.label)
include h

theorem readFile_congr : fs.readFile path = fs'.readFile path := by
  rw [readFile, readFile]
  cases hfs : fs.locate path <;> cases hfs' : fs'.locate path <;> rw [hfs, hfs'] at h
  · cases h
    rfl
  · cases h
  · cases h
  · next target target' => cases target <;> cases target' <;> cases h <;> rfl

theorem readDirectory_congr :
    (∃ e, fs.readDirectory path = .error e ∧ fs'.readDirectory path = .error e) ∨
      ∃ dir dir', fs.readDirectory path = .ok dir ∧ fs'.readDirectory path = .ok dir' := by
  rw [readDirectory, readDirectory]
  cases hfs : fs.locate path <;> cases hfs' : fs'.locate path <;> rw [hfs, hfs'] at h
  · cases h
    exact .inl ⟨_, rfl, rfl⟩
  · cases h
  · cases h
  · next target target' =>
    cases target <;> cases target' <;> cases h
    · exact .inl ⟨_, rfl, rfl⟩
    · exact .inr ⟨_, _, rfl, rfl⟩

end Congr

end FileSystem

end Folio
