import Folio.Proofs.FileSystem.Tree
import Mathlib.Data.List.Nodup

/-!
# The nodes of a tree

All nodes of a tree in one list, so that what holds of every walk can be checked.

Main definitions:

* `Entry`: a node with the walk that leads to it.
* `nodesIn`: the nodes of a tree in the order in which they are enumerated, each directory before
  what is in it.

Results:

* `mem_nodesIn_iff`, `nodup_nodesIn`: every node of a tree is listed, and only once.
* `Directory.wellFormed_iff`, `Directory.forall_node?_iff`, `Directory.linkFree_iff`: properties
  of trees as checks of their nodes.
-/

namespace Folio

/-- A node of a tree with the walk that leads to it. -/
structure Entry where
  /-- The directories on the way to the node. -/
  above : List String
  name : String
  node : Node

mutual

/-- The nodes that an entry below the directories `above` stands for: its own and those below. -/
def nodesAt (above : List String) (name : String) : Node → List Entry
  | .file bytes => [⟨above, name, .file bytes⟩]
  | .link target => [⟨above, name, .link target⟩]
  | .directory entries =>
    ⟨above, name, .directory entries⟩ :: nodesIn (above ++ [name]) entries

/-- The nodes below a directory, which is itself at the end of the walk `above`. -/
def nodesIn (above : List String) : Directory → List Entry
  | [] => []
  | (name, node) :: rest => nodesAt above name node ++ nodesIn above rest

end

theorem nodesIn_eq_flatMap (above : List String) (dir : Directory) :
    nodesIn above dir = dir.flatMap fun entry => nodesAt above entry.1 entry.2 := by
  induction dir with
  | nil => rfl
  | cons entry rest ih => rw [nodesIn, ih, List.flatMap_cons]

theorem nodesAt_eq_cons (above : List String) (name : String) (node : Node) :
    nodesAt above name node = ⟨above, name, node⟩ :: nodesIn (above ++ [name]) node.entries := by
  cases node <;> rfl

theorem mem_nodesAt_iff {above : List String} {name : String} {node : Node} {entry : Entry} :
    entry ∈ nodesAt above name node ↔
      entry = ⟨above, name, node⟩ ∨ entry ∈ nodesIn (above ++ [name]) node.entries := by
  rw [nodesAt_eq_cons, List.mem_cons]

namespace Directory.WellFormed

variable {dir : Directory} {name : String} {node : Node}

theorem entries_of_mem (h : dir.WellFormed) (hmem : (name, node) ∈ dir) :
    Directory.WellFormed node.entries := by
  cases node with
  | directory entries => exact h.of_find? (h.find?_eq_some_iff.mpr hmem)
  | file bytes => exact .nil
  | link target => exact .nil

end Directory.WellFormed

theorem mem_nodesIn_iff {dir : Directory} (hwf : dir.WellFormed) {above : List String}
    {entry : Entry} :
    entry ∈ nodesIn above dir ↔
      ∃ rest, entry.above = above ++ rest ∧ dir.node? rest entry.name = some entry.node := by
  induction hwf generalizing above with
  | @intro dir distinct named below ih =>
    have hfind (name : String) (node : Node) : dir.find? name = some node ↔ (name, node) ∈ dir :=
      (Directory.WellFormed.intro distinct named below).find?_eq_some_iff
    rw [nodesIn_eq_flatMap, List.mem_flatMap]
    constructor
    · rintro ⟨⟨name, node⟩, hmem, hentry⟩
      rcases mem_nodesAt_iff.mp hentry with rfl | hbelow
      · exact ⟨[], (List.append_nil _).symm, (hfind _ _).mpr hmem⟩
      · cases node with
        | file bytes => cases hbelow
        | link target => cases hbelow
        | directory entries =>
          obtain ⟨rest, habove, hnode⟩ := (ih name entries hmem).mp hbelow
          refine ⟨name :: rest, by rw [habove, List.append_assoc, List.singleton_append], ?_⟩
          exact Directory.node?_cons_eq_some_iff.mpr ⟨entries, (hfind _ _).mpr hmem, hnode⟩
    · rintro ⟨rest, habove, hnode⟩
      cases rest with
      | nil =>
        refine ⟨(entry.name, entry.node), (hfind _ _).mp hnode, mem_nodesAt_iff.mpr (Or.inl ?_)⟩
        rw [← List.append_nil above, ← habove]
      | cons name rest =>
        obtain ⟨entries, hname, hnode⟩ := Directory.node?_cons_eq_some_iff.mp hnode
        have hmem := (hfind _ _).mp hname
        refine ⟨(name, .directory entries), hmem, mem_nodesAt_iff.mpr (Or.inr ?_)⟩
        refine (ih name entries hmem).mpr ⟨rest, ?_, hnode⟩
        rw [habove, List.append_assoc, List.singleton_append]

theorem isPrefix_of_mem_nodesAt {above : List String} {name : String} {node : Node} {entry : Entry}
    (hwf : Directory.WellFormed node.entries) (hentry : entry ∈ nodesAt above name node) :
    above ++ [name] <+: entry.above ++ [entry.name] := by
  rcases mem_nodesAt_iff.mp hentry with rfl | hbelow
  · exact List.prefix_rfl
  · obtain ⟨rest, habove, -⟩ := (mem_nodesIn_iff hwf).mp hbelow
    rw [habove, List.append_assoc]
    exact List.prefix_append _ _

theorem nodup_nodesIn {dir : Directory} (hwf : dir.WellFormed) (above : List String) :
    (nodesIn above dir).Nodup := by
  induction hwf generalizing above with
  | @intro dir distinct named below ih =>
    have hwf := Directory.WellFormed.intro distinct named below
    rw [nodesIn_eq_flatMap, List.nodup_flatMap]
    constructor
    · rintro ⟨name, node⟩ hmem
      rw [nodesAt_eq_cons, List.nodup_cons, mem_nodesIn_iff (hwf.entries_of_mem hmem)]
      constructor
      · rintro ⟨rest, habove, -⟩
        simp at habove
      · cases node with
        | file bytes => exact List.nodup_nil
        | link target => exact List.nodup_nil
        | directory entries => exact ih name entries hmem _
    · -- Nodes of two entries differ in the name that their walks take after `above`.
      refine (List.pairwise_map.mp distinct).imp_of_mem ?_
      rintro ⟨name, node⟩ ⟨name', node'⟩ hmem hmem' hne entry hentry hentry'
      have hprefix := isPrefix_of_mem_nodesAt (hwf.entries_of_mem hmem) hentry
      have hprefix' := isPrefix_of_mem_nodesAt (hwf.entries_of_mem hmem') hentry'
      have heq : above ++ [name] = above ++ [name'] :=
        (List.prefix_of_prefix_length_le hprefix hprefix' (by simp)).eq_of_length (by simp)
      exact hne (List.singleton_inj.mp (List.append_cancel_left heq))

/-! ## Checks of trees -/

/-- The names in a directory are all different and can be names on disk. -/
def Directory.HasEntryNames (dir : Directory) : Prop :=
  (dir.map Prod.fst).Nodup ∧ ∀ entry ∈ dir, IsEntryName entry.1

instance (name : String) : Decidable (IsEntryName name) :=
  decidable_of_iff (name ≠ "" ∧ name ≠ "." ∧ name ≠ ".." ∧ '/' ∉ name.toList ∧
    '\x00' ∉ name.toList ∧ name.utf8ByteSize ≤ FileSystem.nameLimit)
    ⟨fun ⟨h₁, h₂, h₃, h₄, h₅, h₆⟩ => ⟨⟨h₁, h₂, h₃, h₄⟩, h₅, h₆⟩,
      fun ⟨⟨h₁, h₂, h₃, h₄⟩, h₅, h₆⟩ => ⟨h₁, h₂, h₃, h₄, h₅, h₆⟩⟩

instance (dir : Directory) : Decidable dir.HasEntryNames :=
  inferInstanceAs (Decidable (_ ∧ _))

theorem Directory.WellFormed.hasEntryNames {dir : Directory} (h : dir.WellFormed) :
    dir.HasEntryNames := by
  cases h with
  | intro distinct named _ => exact ⟨distinct, named⟩

theorem Directory.wellFormed_of_nodesIn {dir : Directory} {above : List String}
    (hdir : dir.HasEntryNames)
    (hbelow : ∀ entry ∈ nodesIn above dir, entry.node.entries.HasEntryNames) :
    dir.WellFormed := by
  refine .intro hdir.1 hdir.2 fun name entries hmem => ?_
  have hnodes : ∀ entry ∈ nodesAt above name (.directory entries), entry ∈ nodesIn above dir :=
    fun entry hentry => nodesIn_eq_flatMap above dir ▸ List.mem_flatMap.mpr ⟨_, hmem, hentry⟩
  have hentries : Directory.HasEntryNames entries :=
    hbelow _ (hnodes _ (mem_nodesAt_iff.mpr (Or.inl rfl)))
  exact wellFormed_of_nodesIn hentries fun entry hentry =>
    hbelow entry (hnodes entry (mem_nodesAt_iff.mpr (Or.inr hentry)))
termination_by sizeOf dir
decreasing_by
  have := List.sizeOf_lt_of_mem hmem
  simp at this ⊢
  omega

theorem Directory.wellFormed_iff {dir : Directory} :
    dir.WellFormed ↔
      dir.HasEntryNames ∧ ∀ entry ∈ nodesIn [] dir, entry.node.entries.HasEntryNames := by
  constructor
  · intro h
    refine ⟨h.hasEntryNames, fun entry hentry => ?_⟩
    obtain ⟨rest, -, hnode⟩ := (mem_nodesIn_iff h).mp hentry
    obtain ⟨inner, hinner, hname⟩ := Option.bind_eq_some_iff.mp hnode
    exact ((h.below? hinner).entries_of_mem (mem_of_find? hname)).hasEntryNames
  · rintro ⟨hdir, hbelow⟩
    exact wellFormed_of_nodesIn hdir hbelow

instance (dir : Directory) : Decidable dir.WellFormed :=
  decidable_of_iff _ Directory.wellFormed_iff.symm

/-- What holds of the nodes at the ends of all walks is what holds of all nodes. -/
theorem Directory.forall_node?_iff {dir : Directory} (hwf : dir.WellFormed)
    {p : List String → String → Node → Prop} :
    (∀ above name node, dir.node? above name = some node → p above name node) ↔
      ∀ entry ∈ nodesIn [] dir, p entry.above entry.name entry.node := by
  constructor
  · intro h entry hentry
    obtain ⟨rest, habove, hnode⟩ := (mem_nodesIn_iff hwf).mp hentry
    rw [List.nil_append] at habove
    exact h _ _ _ (habove ▸ hnode)
  · intro h above name node hnode
    exact h ⟨above, name, node⟩ ((mem_nodesIn_iff hwf).mpr ⟨above, rfl, hnode⟩)

/-- Whether a node is a symbolic link. -/
def Node.isLink : Node → Bool
  | .link _ => true
  | _ => false

theorem Directory.linkFree_iff {dir : Directory} (hwf : dir.WellFormed) :
    dir.LinkFree ↔ ∀ entry ∈ nodesIn [] dir, entry.node.isLink = false := by
  have hnodes : dir.LinkFree ↔
      ∀ above name node, dir.node? above name = some node → node.isLink = false := by
    constructor
    · intro h above name node hnode
      cases node with
      | link target => exact absurd hnode (h above name target)
      | file bytes => rfl
      | directory entries => rfl
    · intro h above name target hnode
      cases h above name _ hnode
  rw [hnodes, Directory.forall_node?_iff hwf]

end Folio
