import Folio.FileSystem.Basic

/-!
# Trees as they are on disk

On disk the entries of a directory have different names, and each name is one that a path can
take. The walk that listings take goes from directory to directory and follows no link.

Main definitions:

* `IsPlainName`: a text that a path can take for the name of an entry; `IsEntryName` adds what
  the disk asks of names.
* `Directory.WellFormed`: what holds of every directory on disk and of all below it.
* `Directory.below?`, `Directory.node?`: the directory and the node at the end of a walk;
  `Directory.entriesOf`: what is in the directory of a name.
* `Directory.LinkFree`, `Directory.BackslashFree`: no walk ends at a link, or at a name with a
  backslash.

Results:

* `Directory.WellFormed.find?_eq_some_iff`: looking a name up finds every entry.
* `Directory.WellFormed.below?`, `Directory.LinkFree.below`, `Directory.BackslashFree.below`: what
  holds of a directory holds of those below.
-/

namespace Folio

/-! ## Names -/

/-- A text that a path takes for the name of an entry, wherever it stands in the path. -/
structure IsPlainName (name : String) : Prop where
  ne_empty : name ≠ ""
  ne_here : name ≠ "."
  ne_above : name ≠ ".."
  no_separator : '/' ∉ name.toList

/-- A text that an entry on disk can have for its name. -/
structure IsEntryName (name : String) : Prop extends IsPlainName name where
  no_nul : '\x00' ∉ name.toList
  size_le : name.utf8ByteSize ≤ FileSystem.nameLimit

theorem isPlainName_append_dot {stem ext : String} (hstem : '/' ∉ stem.toList)
    (hext : '/' ∉ ext.toList) (hlength : 2 ≤ ext.toList.length) :
    IsPlainName (stem ++ "." ++ ext) := by
  have hlist : (stem ++ "." ++ ext).toList = stem.toList ++ '.' :: ext.toList := by
    simp
  have hlong : 2 < (stem ++ "." ++ ext).toList.length := by
    rw [hlist, List.length_append, List.length_cons]
    omega
  refine ⟨?_, ?_, ?_, ?_⟩
  · intro h
    simp [h] at hlong
  · intro h
    simp [h] at hlong
  · intro h
    simp [h] at hlong
  · rw [hlist]
    simp [hstem, hext]

namespace Directory

/-! ## Walks -/

/-- The directory below another at the end of a walk through real directories. -/
def below? : Directory → List String → Option Directory
  | dir, [] => some dir
  | dir, name :: rest =>
    match dir.find? name with
    | some (.directory entries) => below? entries rest
    | _ => none

/-- The node of a name in the directory at the end of a walk through real directories. -/
def node? (dir : Directory) (above : List String) (name : String) : Option Node :=
  (dir.below? above).bind (·.find? name)

@[simp] theorem node?_nil (dir : Directory) (name : String) : dir.node? [] name = dir.find? name :=
  rfl

theorem below?_cons_eq_some_iff {dir below : Directory} {name : String} {rest : List String} :
    dir.below? (name :: rest) = some below ↔
      ∃ entries, dir.find? name = some (.directory entries) ∧
        Directory.below? entries rest = some below := by
  rw [below?]
  split
  · next entries h => simp [h]
  · next h =>
    constructor
    · intro hnone
      cases hnone
    · rintro ⟨entries, hname, -⟩
      exact (h entries hname).elim

theorem node?_cons_eq_some_iff {dir : Directory} {p name : String} {above : List String}
    {node : Node} :
    dir.node? (p :: above) name = some node ↔
      ∃ entries, dir.find? p = some (.directory entries) ∧
        Directory.node? entries above name = some node := by
  simp only [node?, Option.bind_eq_some_iff, below?_cons_eq_some_iff]
  constructor
  · rintro ⟨below, ⟨entries, hp, hbelow⟩, hname⟩
    exact ⟨entries, hp, below, hbelow, hname⟩
  · rintro ⟨entries, hp, below, hbelow, hname⟩
    exact ⟨below, ⟨entries, hp, hbelow⟩, hname⟩

/-- The entries of the directory of a name. -/
def entriesOf (dir : Directory) (name : String) : Directory :=
  ((dir.find? name).map Node.entries).getD []

theorem entriesOf_eq {dir entries : Directory} {name : String}
    (hname : dir.find? name = some (.directory entries)) : dir.entriesOf name = entries := by
  rw [entriesOf, hname]
  rfl

theorem entriesOf_eq_nil {dir : Directory} {name : String}
    (hname : ∀ entries, dir.find? name ≠ some (.directory entries)) : dir.entriesOf name = [] := by
  rw [entriesOf]
  cases hnode : dir.find? name with
  | none => rfl
  | some node =>
    cases node with
    | directory entries => exact absurd hnode (hname entries)
    | file bytes => rfl
    | link target => rfl

/-! ## Well-formed directories -/

/-- The names in a directory are all different and can be names on disk, and so it is in every
directory below it. -/
inductive WellFormed : Directory → Prop
  | intro {dir : Directory} (distinct : (dir.map Prod.fst).Nodup)
      (named : ∀ entry ∈ dir, IsEntryName entry.1)
      (below : ∀ name entries, (name, .directory entries) ∈ dir → WellFormed entries) :
      WellFormed dir

theorem mem_of_find? {dir : Directory} {name : String} {node : Node}
    (h : dir.find? name = some node) : (name, node) ∈ dir := by
  obtain ⟨before, after, rfl, -⟩ := List.lookup_eq_some_iff.mp h
  exact List.mem_append_right _ List.mem_cons_self

namespace WellFormed

variable {dir entries : Directory} {name : String} {node : Node}

theorem nil : Directory.WellFormed [] := .intro List.nodup_nil (by simp) (by simp)

theorem distinct (h : dir.WellFormed) : (dir.map Prod.fst).Nodup := by
  cases h with
  | intro distinct _ _ => exact distinct

theorem find?_eq_some_iff (h : dir.WellFormed) :
    dir.find? name = some node ↔ (name, node) ∈ dir := by
  refine ⟨mem_of_find?, fun hmem => ?_⟩
  have hdistinct := h.distinct
  obtain ⟨before, after, rfl⟩ := List.append_of_mem hmem
  rw [List.map_append, List.map_cons, List.nodup_append] at hdistinct
  rw [find?, List.lookup_eq_some_iff]
  refine ⟨before, after, rfl, fun entry hentry => ?_⟩
  have := hdistinct.2.2 entry.1 (List.mem_map_of_mem hentry) name List.mem_cons_self
  simp [Ne.symm this]

theorem isEntryName (h : dir.WellFormed) (hname : dir.find? name = some node) :
    IsEntryName name := by
  cases h with
  | intro _ named _ => exact named _ (mem_of_find? hname)

theorem of_find? (h : dir.WellFormed) (hname : dir.find? name = some (.directory entries)) :
    Directory.WellFormed entries := by
  cases h with
  | intro _ _ below => exact below _ _ (mem_of_find? hname)

theorem below? (h : dir.WellFormed) {above : List String}
    (habove : dir.below? above = some entries) : Directory.WellFormed entries := by
  induction above generalizing dir with
  | nil => exact Option.some.inj habove ▸ h
  | cons p above ih =>
    obtain ⟨inner, hp, hinner⟩ := below?_cons_eq_some_iff.mp habove
    exact ih (h.of_find? hp) hinner

theorem isEntryName_of_mem (h : dir.WellFormed) {above : List String}
    (habove : dir.below? above = some entries) : ∀ name ∈ above, IsEntryName name := by
  induction above generalizing dir with
  | nil => simp
  | cons p above ih =>
    obtain ⟨inner, hp, hinner⟩ := below?_cons_eq_some_iff.mp habove
    exact List.forall_mem_cons.mpr ⟨h.isEntryName hp, ih (h.of_find? hp) hinner⟩

end WellFormed

/-! ## Directories without links -/

/-- No walk ends at a link: all entries below the directory are real directories and files. -/
def LinkFree (dir : Directory) : Prop :=
  ∀ above name target, dir.node? above name ≠ some (.link target)

namespace LinkFree

variable {dir entries : Directory} {name : String}

theorem find?_ne (h : dir.LinkFree) (name target : String) :
    dir.find? name ≠ some (.link target) := h [] name target

theorem below (h : dir.LinkFree) (hname : dir.find? name = some (.directory entries)) :
    Directory.LinkFree entries := fun above inner target hinner =>
  h (name :: above) inner target (node?_cons_eq_some_iff.mpr ⟨entries, hname, hinner⟩)

end LinkFree

/-! ## Directories without backslashes -/

/-- No name below the directory contains a backslash. -/
def BackslashFree (dir : Directory) : Prop :=
  ∀ above name node, dir.node? above name = some node → '\\' ∉ name.toList

theorem BackslashFree.below {dir entries : Directory} {name : String} (h : dir.BackslashFree)
    (hname : dir.find? name = some (.directory entries)) : Directory.BackslashFree entries :=
  fun above inner node hinner =>
    h (name :: above) inner node (node?_cons_eq_some_iff.mpr ⟨entries, hname, hinner⟩)

end Directory

end Folio
