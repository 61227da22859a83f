import Folio.Proofs.FileSystem.Entry

/-!
# Trees that look alike to paths

A path sees the names in a tree, the kinds of the nodes and where links lead. It sees neither the
bytes of files nor the order in which entries are enumerated. In trees that differ in nothing else
every path leads to the same place.

Main definitions:

* `Node.outline`: what a path sees of a node.
* `Directory.Alike`: walks in two directories end at nodes of one outline.
* `Position.In`: a position to which names lead from the root.

Results:

* `Directory.Alike.find?_directory`: directories that lie under one name in trees that are alike
  are alike themselves.
* `FileSystem.locate_alike`: a path that leads to a directory leads to the same place in a tree that
  is alike.
* `Directory.WellFormed.of_readDirectory`: what a path to a directory leads to is well-formed.
-/

namespace Folio

/-- What a path sees of a node: its kind, and where a link leads. -/
def Node.outline : Node → Node
  | .file _ => .file []
  | .link target => .link target
  | .directory _ => .directory []

namespace Node

theorem outline_eq_link_iff {node : Node} {target : String} :
    node.outline = .link target ↔ node = .link target := by
  cases node <;> simp [outline]

theorem outline_eq_directory_iff {node : Node} :
    node.outline = .directory [] ↔ ∃ entries, node = .directory entries := by
  cases node <;> simp [outline]

end Node

namespace Directory

/-- Walks in two directories end at nodes of one outline. -/
def Alike (dir dir' : Directory) : Prop :=
  ∀ above name, (dir.node? above name).map Node.outline = (dir'.node? above name).map Node.outline

theorem node?_cons {dir entries : Directory} {p : String}
    (hp : dir.find? p = some (.directory entries)) (above : List String) (name : String) :
    dir.node? (p :: above) name = Directory.node? entries above name := by
  rw [node?, below?, hp]
  rfl

theorem node?_cons_eq_none {dir : Directory} {p : String}
    (hp : ∀ entries, dir.find? p ≠ some (.directory entries)) (above : List String)
    (name : String) : dir.node? (p :: above) name = none := by
  rw [Option.eq_none_iff_forall_ne_some]
  intro node hnode
  obtain ⟨entries, hentries, -⟩ := node?_cons_eq_some_iff.mp hnode
  exact hp entries hentries

theorem below?_append {dir : Directory} (above rest : List String) :
    dir.below? (above ++ rest) = (dir.below? above).bind fun inner => inner.below? rest := by
  induction above generalizing dir with
  | nil => rfl
  | cons p above ih =>
    rw [List.cons_append, below?, below?]
    split
    · exact ih
    · rfl

theorem exists_directory_iff {dir : Directory} {name : String} :
    (∃ entries, dir.find? name = some (.directory entries)) ↔
      (dir.find? name).map Node.outline = some (.directory []) := by
  simp only [Option.map_eq_some_iff, Node.outline_eq_directory_iff]
  constructor
  · rintro ⟨entries, hname⟩
    exact ⟨_, hname, entries, rfl⟩
  · rintro ⟨_, hname, entries, rfl⟩
    exact ⟨entries, hname⟩

/-- Directories are alike if their entries are. -/
theorem alike_of_find? {dir dir' : Directory}
    (hentry : ∀ name, (dir.find? name).map Node.outline = (dir'.find? name).map Node.outline)
    (hbelow : ∀ name entries entries', dir.find? name = some (.directory entries) →
      dir'.find? name = some (.directory entries') → Directory.Alike entries entries') :
    dir.Alike dir' := by
  intro above name
  cases above with
  | nil => exact hentry name
  | cons p above =>
    have hp : (∃ entries, dir.find? p = some (.directory entries)) ↔
        ∃ entries, dir'.find? p = some (.directory entries) := by
      rw [exists_directory_iff, exists_directory_iff, hentry]
    by_cases hentries : ∃ entries, dir.find? p = some (.directory entries)
    · obtain ⟨entries', hentries'⟩ := hp.mp hentries
      obtain ⟨entries, hentries⟩ := hentries
      rw [node?_cons hentries, node?_cons hentries']
      exact hbelow p entries entries' hentries hentries' above name
    · have hentries' := mt hp.mpr hentries
      rw [node?_cons_eq_none (not_exists.mp hentries),
        node?_cons_eq_none (not_exists.mp hentries')]

namespace Alike

variable {dir dir' : Directory}

theorem refl (dir : Directory) : dir.Alike dir := fun _ _ => rfl

theorem symm (h : dir.Alike dir') : dir'.Alike dir := fun above name => (h above name).symm

theorem trans {dir'' : Directory} (h : dir.Alike dir') (h' : dir'.Alike dir'') :
    dir.Alike dir'' := fun above name => (h above name).trans (h' above name)

theorem exists_node? (h : dir.Alike dir') {above : List String} {name : String} {node : Node}
    (hnode : dir.node? above name = some node) :
    ∃ node', dir'.node? above name = some node' ∧ node'.outline = node.outline := by
  have houtline := h above name
  rw [hnode, Option.map_some] at houtline
  exact Option.map_eq_some_iff.mp houtline.symm

theorem find?_directory (h : dir.Alike dir') {name : String} {entries : Directory}
    (hname : dir.find? name = some (.directory entries)) :
    ∃ entries', dir'.find? name = some (.directory entries') ∧
      Directory.Alike entries entries' := by
  have hnode : dir.node? [] name = some (.directory entries) := hname
  obtain ⟨node', hnode', houtline⟩ := h.exists_node? hnode
  obtain ⟨entries', rfl⟩ := Node.outline_eq_directory_iff.mp houtline
  refine ⟨entries', hnode', fun above inner => ?_⟩
  have hinner := h (name :: above) inner
  rwa [node?_cons hname, node?_cons hnode'] at hinner

end Alike

end Directory

/-! ## Positions -/

namespace FileSystem

/-- A position to which names lead from the root. -/
inductive Position.In (root : Directory) : Position → Prop
  | top : In root ⟨root, []⟩
  | down {position : Position} {name : String} {entries : Directory} (h : In root position)
      (hname : position.here.find? name = some (.directory entries)) :
      In root (position.down name entries)

namespace Position

variable {root root' : Directory} {position position' : Position}

theorem place_down (position : Position) (name : String) (entries : Directory) :
    (position.down name entries).place = position.place ++ [name] := by
  rw [place, place, down, List.map_cons, List.reverse_cons]

theorem place_up (position : Position) : position.up.place = position.place.dropLast := by
  obtain ⟨here, above⟩ := position
  cases above with
  | nil => rfl
  | cons entry above =>
    rw [place, place, List.map_cons, List.reverse_cons, List.dropLast_concat]
    rfl

theorem In.up (h : position.In root) : position.up.In root := by
  cases h with
  | top => exact .top
  | down h _ => exact h

theorem In.below?_place (h : position.In root) :
    root.below? position.place = some position.here := by
  induction h with
  | top => rfl
  | @down position name entries _ hname ih =>
    rw [place_down, Directory.below?_append, ih, Option.bind_some]
    exact Directory.below?_cons_eq_some_iff.mpr ⟨entries, hname, rfl⟩

theorem In.node?_place (h : position.In root) (name : String) :
    root.node? position.place name = position.here.find? name := by
  rw [Directory.node?, h.below?_place, Option.bind_some]

/-- Two positions to which the same names lead, each from its own root. -/
structure SamePlace (root root' : Directory) (position position' : Position) : Prop where
  left : position.In root
  right : position'.In root'
  place_eq : position'.place = position.place

namespace SamePlace

theorem top (root root' : Directory) : SamePlace root root' ⟨root, []⟩ ⟨root', []⟩ :=
  ⟨.top, .top, rfl⟩

variable (h : SamePlace root root' position position')
include h

theorem up : SamePlace root root' position.up position'.up := by
  refine ⟨h.left.up, h.right.up, ?_⟩
  rw [place_up, place_up, h.place_eq]

theorem down {name : String} {entries entries' : Directory}
    (hname : position.here.find? name = some (.directory entries))
    (hname' : position'.here.find? name = some (.directory entries')) :
    SamePlace root root' (position.down name entries) (position'.down name entries') := by
  refine ⟨.down h.left hname, .down h.right hname', ?_⟩
  rw [place_down, place_down, h.place_eq]

variable (halike : root.Alike root')
include halike

theorem exists_find? {name : String} {node : Node}
    (hname : position.here.find? name = some node) :
    ∃ node', position'.here.find? name = some node' ∧ node'.outline = node.outline := by
  rw [← h.left.node?_place] at hname
  obtain ⟨node', hname', houtline⟩ := halike.exists_node? hname
  rw [← h.place_eq, h.right.node?_place] at hname'
  exact ⟨node', hname', houtline⟩

theorem descend (names : List String) :
    SamePlace root root' (position.descend names) (position'.descend names) := by
  induction names generalizing position position' with
  | nil => exact h
  | cons name names ih =>
    rw [Position.descend, Position.descend]
    split
    · next entries hname =>
      obtain ⟨node', hname', houtline⟩ := h.exists_find? halike hname
      obtain ⟨entries', rfl⟩ := Node.outline_eq_directory_iff.mp houtline
      rw [hname']
      exact ih (h.down hname hname')
    · next hname =>
      split
      · next entries' hname' =>
        have h' : SamePlace root' root position' position := ⟨h.right, h.left, h.place_eq.symm⟩
        obtain ⟨node, hnode, houtline⟩ := h'.exists_find? halike.symm hname'
        obtain ⟨entries, rfl⟩ := Node.outline_eq_directory_iff.mp houtline
        exact absurd hnode (hname entries)
      · exact h

end SamePlace

end Position

/-! ## Paths -/

theorem follow_alike {root root' : Directory} (halike : root.Alike root') {links : Nat}
    {spot spot' position : Position} {names : List String}
    (hspot : Position.SamePlace root root' spot spot')
    (h : follow ⟨root, []⟩ links spot names = .ok (.directory position)) :
    ∃ position', follow ⟨root', []⟩ links spot' names = .ok (.directory position') ∧
      Position.SamePlace root root' position position' := by
  fun_induction follow ⟨root, []⟩ links spot names generalizing spot' with
  | case1 links spot =>
    cases h
    exact ⟨spot', by rw [follow], hspot⟩
  | case2 links spot rest ih =>
    rw [follow_here]
    exact ih hspot h
  | case3 links spot rest _ ih =>
    rw [follow_above]
    exact ih hspot.up h
  | case4 => cases h
  | case5 => cases h
  | case6 => cases h
  | case7 => cases h
  | case8 links spot name rest hhere habove hsize entries hname ih =>
    obtain ⟨node', hname', houtline⟩ := hspot.exists_find? halike hname
    obtain ⟨entries', rfl⟩ := Node.outline_eq_directory_iff.mp houtline
    rw [follow_directory hhere habove (Nat.not_lt.mp hsize) hname']
    exact ih (hspot.down hname hname') h
  | case9 => cases h
  | case10 spot name rest hhere habove hsize target hname links ih =>
    obtain ⟨node', hname', houtline⟩ := hspot.exists_find? halike hname
    obtain rfl := Node.outline_eq_link_iff.mp houtline
    rw [Nat.succ_eq_add_one, follow_link_succ hhere habove (Nat.not_lt.mp hsize) hname']
    refine ih ?_ h
    split
    · exact .top root root'
    · exact hspot

/-- Paths start at the same place in trees that are alike. -/
theorem start_alike {fs fs' : FileSystem} (halike : fs.root.Alike fs'.root)
    (hcurrent : fs'.current = fs.current) (path : String) :
    Position.SamePlace fs.root fs'.root (fs.start path) (fs'.start path) := by
  have htop := Position.SamePlace.top fs.root fs'.root
  rw [start, start]
  split
  · exact htop
  · rw [here, here, hcurrent]
    exact htop.descend halike _

/-- A path that leads to a directory leads to the same place in a tree that is alike. -/
theorem locate_alike {fs fs' : FileSystem} (halike : fs.root.Alike fs'.root)
    (hcurrent : fs'.current = fs.current) {path : String} {position : Position}
    (h : fs.locate path = .ok (.directory position)) :
    ∃ position', fs'.locate path = .ok (.directory position') ∧
      Position.SamePlace fs.root fs'.root position position' := by
  obtain ⟨hnul, hne, hsize, hfollow⟩ := locate_eq_ok_iff.mp h
  have hstart := start_alike halike hcurrent path
  obtain ⟨position', hfollow', hplace⟩ := follow_alike halike hstart hfollow
  exact ⟨position', locate_eq_ok_iff.mpr ⟨hnul, hne, hsize, hfollow'⟩, hplace⟩

theorem in_of_locate {fs : FileSystem} {path : String} {position : Position}
    (h : fs.locate path = .ok (.directory position)) : position.In fs.root := by
  obtain ⟨position', h', hplace⟩ := locate_alike (.refl fs.root) rfl h
  exact hplace.left

end FileSystem

/-- What a path to a directory leads to is as well-formed as the disk. -/
theorem Directory.WellFormed.of_readDirectory {fs : FileSystem} (hdisk : fs.root.WellFormed)
    {path : String} {dir : Directory} (hdir : fs.readDirectory path = .ok dir) :
    dir.WellFormed := by
  obtain ⟨position, hposition, rfl⟩ := FileSystem.readDirectory_eq_ok_iff.mp hdir
  exact hdisk.below? (FileSystem.in_of_locate hposition).below?_place

end Folio
