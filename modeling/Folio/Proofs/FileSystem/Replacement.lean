import Folio.Proofs.FileSystem.Alike
import Folio.Proofs.FileSystem.Nodes

/-!
# Other bytes in a file

A directory in which one entry has another node keeps its names, and its other entries stay as they
are. So a tree in which a file has other bytes is the same tree but for that file.

Main definition:

* `FileSystem.withBytes`: the disk with other bytes in the file at a place.

Results:

* `Directory.WellFormed.replace`, `Directory.alike_replace`: a directory with another node in one
  entry is well-formed and alike if the new node is.
* `Directory.wellFormed_put_file`, `Directory.alike_put_file`: the same of a directory with other
  bytes in a file anywhere below.
* `FileSystem.readDirectory_withBytes`: what a path to a directory above the file leads to.
-/

namespace Folio

namespace Directory

/-! ## Another node in one entry -/

section Entry

variable {before after : Directory} {name : String} {node : Node}

theorem find?_middle (hname : name ∉ before.map Prod.fst) :
    find? (before ++ (name, node) :: after) name = some node := by
  refine List.lookup_eq_some_iff.mpr ⟨before, after, rfl, fun entry hentry => ?_⟩
  rw [bne_iff_ne]
  rintro rfl
  exact hname (List.mem_map_of_mem hentry)

theorem find?_replace_of_ne {node' : Node} {other : String} (hother : other ≠ name) :
    find? (before ++ (name, node') :: after) other =
      find? (before ++ (name, node) :: after) other := by
  have hname : (other == name) = false := beq_false_of_ne hother
  rw [find?, find?, List.lookup_append, List.lookup_append, List.lookup_cons, List.lookup_cons,
    hname]

variable (hwf : WellFormed (before ++ (name, node) :: after))
include hwf

theorem WellFormed.name_notMem : name ∉ before.map Prod.fst ∧ name ∉ after.map Prod.fst := by
  have hdistinct := hwf.distinct
  rw [List.map_append, List.map_cons, List.nodup_append, List.nodup_cons] at hdistinct
  obtain ⟨-, ⟨hafter, -⟩, hbefore⟩ := hdistinct
  exact ⟨fun hname => hbefore name hname name List.mem_cons_self rfl, hafter⟩

theorem WellFormed.set_eq (node' : Node) :
    set (before ++ (name, node) :: after) name node' = before ++ (name, node') :: after := by
  obtain ⟨hbefore, hafter⟩ := hwf.name_notMem
  have hkeep {entries : Directory} (hentries : name ∉ entries.map Prod.fst) :
      (entries.map fun entry => if entry.1 == name then (name, node') else entry) = entries := by
    conv_rhs => rw [← List.map_id entries]
    refine List.map_congr_left fun entry hentry => if_neg ?_
    rw [beq_iff_eq]
    rintro rfl
    exact hentries (List.mem_map_of_mem hentry)
  rw [set, find?_middle hbefore, if_pos Option.isSome_some, List.map_append, List.map_cons,
    hkeep hbefore, hkeep hafter, if_pos (beq_self_eq_true name)]

theorem WellFormed.replace {node' : Node} (hnode : WellFormed node'.entries) :
    WellFormed (before ++ (name, node') :: after) := by
  have hnames : (before ++ (name, node') :: after).map Prod.fst =
      (before ++ (name, node) :: after).map Prod.fst := by
    rw [List.map_append, List.map_append, List.map_cons, List.map_cons]
  obtain ⟨hdistinct, hnamed⟩ := hwf.hasEntryNames
  refine .intro ?_ ?_ ?_
  · rw [hnames]
    exact hdistinct
  · intro entry hentry
    have hentry := List.mem_map_of_mem (f := Prod.fst) hentry
    rw [hnames] at hentry
    obtain ⟨old, hold, hname⟩ := List.mem_map.mp hentry
    rw [← hname]
    exact hnamed old hold
  · intro p entries hmem
    have hold (h : (p, .directory entries) ∈ before ++ (name, node) :: after) :
        WellFormed entries := by
      have := hwf.entries_of_mem h
      exact this
    rcases List.mem_append.mp hmem with hmem | hmem
    · exact hold (List.mem_append_left _ hmem)
    · rcases List.mem_cons.mp hmem with hnew | hmem
      · cases hnew
        exact hnode
      · exact hold (List.mem_append_right _ (List.mem_cons_of_mem _ hmem))

theorem alike_replace {node' : Node} (houtline : node'.outline = node.outline)
    (hentries : Alike node.entries node'.entries) :
    Alike (before ++ (name, node) :: after) (before ++ (name, node') :: after) := by
  obtain ⟨hbefore, -⟩ := hwf.name_notMem
  apply alike_of_find?
  · intro other
    by_cases hother : other = name
    · rw [hother, find?_middle hbefore, find?_middle hbefore, Option.map_some, Option.map_some,
        houtline]
    · rw [find?_replace_of_ne hother]
  · intro other entries entries' h h'
    by_cases hother : other = name
    · rw [hother, find?_middle hbefore] at h h'
      cases h
      cases h'
      exact hentries
    · rw [find?_replace_of_ne hother, h] at h'
      cases h'
      exact .refl entries

end Entry

/-! ## Other bytes in a file -/

theorem put_cons {dir entries : Directory} {p : String} (node : Node)
    (hp : dir.find? p = some (.directory entries)) {rest : List String} (hrest : rest ≠ []) :
    dir.put node (p :: rest) = dir.set p (.directory (put node entries rest)) := by
  rw [put, hp]
  · rfl
  · exact hrest

theorem find?_put_cons {dir entries : Directory} (hwf : dir.WellFormed) {p : String} (node : Node)
    (hp : dir.find? p = some (.directory entries)) {rest : List String} (hrest : rest ≠ []) :
    (dir.put node (p :: rest)).find? p = some (.directory (put node entries rest)) ∧
      ∀ other ≠ p, (dir.put node (p :: rest)).find? other = dir.find? other := by
  rw [put_cons node hp hrest]
  obtain ⟨before, after, rfl⟩ := List.append_of_mem (mem_of_find? hp)
  rw [hwf.set_eq]
  exact ⟨find?_middle hwf.name_notMem.1, fun other hother => find?_replace_of_ne hother⟩

theorem below?_put {dir tree : Directory} (hwf : dir.WellFormed) {above : List String}
    (habove : dir.below? above = some tree) (node : Node) {rest : List String}
    (hrest : rest ≠ []) :
    (dir.put node (above ++ rest)).below? above = some (tree.put node rest) := by
  induction above generalizing dir with
  | nil =>
    cases habove
    rfl
  | cons p above ih =>
    obtain ⟨entries, hp, hentries⟩ := below?_cons_eq_some_iff.mp habove
    have hne : above ++ rest ≠ [] := List.append_ne_nil_of_right_ne_nil above hrest
    rw [List.cons_append]
    exact below?_cons_eq_some_iff.mpr ⟨_, (find?_put_cons hwf node hp hne).1,
      ih (hwf.of_find? hp) hentries⟩

section File

variable {dir : Directory} (hwf : dir.WellFormed) {above : List String} {name : String}
  {old : List UInt8} (hfile : dir.node? above name = some (.file old)) (bytes : List UInt8)
include hwf hfile

theorem wellFormed_put_file : (dir.put (.file bytes) (above ++ [name])).WellFormed := by
  induction above generalizing dir with
  | nil =>
    obtain ⟨before, after, rfl⟩ := List.append_of_mem (mem_of_find? hfile)
    rw [List.nil_append, put, hwf.set_eq]
    exact hwf.replace .nil
  | cons p above ih =>
    obtain ⟨entries, hp, hinner⟩ := node?_cons_eq_some_iff.mp hfile
    have hentries := ih (hwf.of_find? hp) hinner
    rw [List.cons_append, put_cons _ hp (by simp)]
    obtain ⟨before, after, rfl⟩ := List.append_of_mem (mem_of_find? hp)
    rw [hwf.set_eq]
    exact hwf.replace hentries

theorem alike_put_file : dir.Alike (dir.put (.file bytes) (above ++ [name])) := by
  induction above generalizing dir with
  | nil =>
    obtain ⟨before, after, rfl⟩ := List.append_of_mem (mem_of_find? hfile)
    rw [List.nil_append, put, hwf.set_eq]
    exact alike_replace hwf rfl (.refl [])
  | cons p above ih =>
    obtain ⟨entries, hp, hinner⟩ := node?_cons_eq_some_iff.mp hfile
    have hentries := ih (hwf.of_find? hp) hinner
    rw [List.cons_append, put_cons _ hp (by simp)]
    obtain ⟨before, after, rfl⟩ := List.append_of_mem (mem_of_find? hp)
    rw [hwf.set_eq]
    exact alike_replace hwf rfl hentries

end File

end Directory

namespace FileSystem

/-- The disk with other bytes in the file at a place. -/
def withBytes (fs : FileSystem) (place : List String) (bytes : List UInt8) : FileSystem :=
  { fs with root := fs.root.put (.file bytes) place }

/-- A path to a directory leads to the same directory when a file below that has other bytes, but for
this file. -/
theorem readDirectory_withBytes {fs : FileSystem} (hdisk : fs.root.WellFormed) {path : String}
    {position : Position} (hpath : fs.locate path = .ok (.directory position))
    {above : List String} {name : String} {old : List UInt8}
    (hfile : position.here.node? above name = some (.file old)) (bytes : List UInt8) :
    (fs.withBytes (position.place ++ (above ++ [name])) bytes).readDirectory path =
      .ok (position.here.put (.file bytes) (above ++ [name])) := by
  have hplace := (in_of_locate hpath).below?_place
  have hnode : fs.root.node? (position.place ++ above) name = some (.file old) := by
    rw [Directory.node?, Directory.below?_append, hplace]
    exact hfile
  let place := position.place ++ (above ++ [name])
  have halike : fs.root.Alike (fs.withBytes place bytes).root := by
    have := Directory.alike_put_file hdisk hnode bytes
    rwa [List.append_assoc] at this
  have hcurrent : (fs.withBytes place bytes).current = fs.current := rfl
  obtain ⟨position', hpath', hsame⟩ := locate_alike halike hcurrent hpath
  have hhere := hsame.right.below?_place
  rw [hsame.place_eq, withBytes, Directory.below?_put hdisk hplace _ (by simp)] at hhere
  rw [Option.some.inj hhere]
  exact readDirectory_eq_ok_iff.mpr ⟨position', hpath', rfl⟩

end FileSystem

end Folio
