import Folio.Proofs.Catalog.Files
import Folio.Proofs.Document.Order
import Folio.Proofs.FileSystem.Alike
import Folio.Proofs.Outcome

/-!
# What a listing reads

A listing reads every directory of a category and every file whose name has a format, each by its
own path. It succeeds iff all of these can be read, and then it holds the documents of the files.

Main definitions:

* `Path.joinAll`: the path at the end of a walk.
* `Readable`: whether all that a listing reads below a path can be read.

Results:

* `readable_iff_size_lt`: all can be read iff no path is too long.
* `Readable.of_alike`: so it is in trees that are alike.
* `documentsIn_eq_ok_iff`: what the walk through a category collects, and when it does.
* `documents_eq_ok_iff`, `mem_documents_iff`: the same of the sorted list.
-/

namespace Folio

/-- The path at the end of a walk from a directory. -/
def Path.joinAll (dir : String) (names : List String) : String := names.foldl Path.join dir

/-- All that a listing reads below the directory at a path can be read by its own path: the
directories and the files whose names have a format. -/
structure Readable (fs : FileSystem) (path : String) (dir : Directory) : Prop where
  directories : ∀ above name entries, dir.node? above name = some (.directory entries) →
    ∃ read, fs.readDirectory (Path.joinAll path (above ++ [name])) = .ok read
  files : ∀ above name bytes, dir.node? above name = some (.file bytes) →
    (Format.ofName? name).isSome →
    ∃ read, fs.readFile (Path.joinAll path (above ++ [name])) = .ok read

/-- All that a listing reads of an entry and below it can be read by its own path. -/
def ReadableAt (fs : FileSystem) (path name : String) : Node → Prop
  | .file _ => (Format.ofName? name).isSome → ∃ read, fs.readFile path = .ok read
  | .link _ => True
  | .directory entries => (∃ read, fs.readDirectory path = .ok read) ∧ Readable fs path entries

theorem readable_iff {fs : FileSystem} {path : String} {dir : Directory} :
    Readable fs path dir ↔ ∀ name node, dir.find? name = some node →
      ReadableAt fs (Path.join path name) name node := by
  constructor
  · intro h name node hname
    cases node with
    | file bytes => exact h.files [] name bytes hname
    | link target => trivial
    | directory entries =>
      refine ⟨h.directories [] name entries hname, ?_, ?_⟩
      · intro above inner below hinner
        exact h.directories (name :: above) inner below
          (Directory.node?_cons_eq_some_iff.mpr ⟨entries, hname, hinner⟩)
      · intro above inner bytes hinner
        exact h.files (name :: above) inner bytes
          (Directory.node?_cons_eq_some_iff.mpr ⟨entries, hname, hinner⟩)
  · intro h
    constructor
    · intro above name entries hname
      cases above with
      | nil => exact (h name _ hname).1
      | cons p above =>
        obtain ⟨inner, hp, hinner⟩ := Directory.node?_cons_eq_some_iff.mp hname
        exact (h p _ hp).2.directories above name entries hinner
    · intro above name bytes hname
      cases above with
      | nil => exact h name _ hname
      | cons p above =>
        obtain ⟨inner, hp, hinner⟩ := Directory.node?_cons_eq_some_iff.mp hname
        exact (h p _ hp).2.files above name bytes hinner

/-- Whether a listing reads the node of a name. -/
def Node.isRead (name : String) : Node → Bool
  | .file _ => (Format.ofName? name).isSome
  | .link _ => false
  | .directory _ => true

/-- Only long paths cannot be read. -/
theorem readable_iff_size_lt {fs : FileSystem} {dir : Directory} (hwf : dir.WellFormed)
    {path : String} (hpath : fs.readDirectory path = .ok dir) :
    Readable fs path dir ↔ ∀ above name node, dir.node? above name = some node →
      node.isRead name →
        (Path.joinAll path (above ++ [name])).utf8ByteSize < FileSystem.pathLimit := by
  induction hwf generalizing path with
  | @intro dir distinct named below ih =>
    have hwf := Directory.WellFormed.intro distinct named below
    rw [readable_iff]
    constructor
    · intro h above name node hname hread
      cases above with
      | nil =>
        have hat := h name node hname
        cases node with
        | file bytes =>
          obtain ⟨read, hok⟩ := hat hread
          exact ((FileSystem.readFile_entry_iff hpath hwf hname).mp hok).1
        | link target => cases hread
        | directory entries =>
          obtain ⟨⟨read, hok⟩, -⟩ := hat
          exact ((FileSystem.readDirectory_entry_iff hpath hwf hname).mp hok).1
      | cons p above =>
        obtain ⟨entries, hp, hname⟩ := Directory.node?_cons_eq_some_iff.mp hname
        obtain ⟨⟨read, hok⟩, hentries⟩ := h p _ hp
        obtain ⟨-, rfl⟩ := (FileSystem.readDirectory_entry_iff hpath hwf hp).mp hok
        exact (ih p _ (Directory.mem_of_find? hp) hok).mp hentries above name node hname hread
    · intro h name node hname
      cases node with
      | file bytes =>
        intro hformat
        exact ⟨bytes, (FileSystem.readFile_entry_iff hpath hwf hname).mpr
          ⟨h [] name _ hname hformat, rfl⟩⟩
      | link target => trivial
      | directory entries =>
        have hok : fs.readDirectory (Path.join path name) = .ok entries :=
          (FileSystem.readDirectory_entry_iff hpath hwf hname).mpr ⟨h [] name _ hname rfl, rfl⟩
        refine ⟨⟨entries, hok⟩, (ih name _ (Directory.mem_of_find? hname) hok).mpr ?_⟩
        intro above inner node hinner hread
        exact h (name :: above) inner node
          (Directory.node?_cons_eq_some_iff.mpr ⟨entries, hname, hinner⟩) hread

theorem Node.isRead_eq_of_outline {name : String} {node node' : Node}
    (h : node'.outline = node.outline) : node'.isRead name = node.isRead name := by
  cases node <;> cases node' <;> simp_all [outline, isRead]

/-- Whether all can be read shows in the names and the kinds of the nodes alone. -/
theorem Readable.of_alike {fs fs' : FileSystem} {path : String} {dir dir' : Directory}
    (h : Readable fs path dir) (halike : dir.Alike dir') (hwf : dir.WellFormed)
    (hpath : fs.readDirectory path = .ok dir) (hwf' : dir'.WellFormed)
    (hpath' : fs'.readDirectory path = .ok dir') : Readable fs' path dir' := by
  rw [readable_iff_size_lt hwf hpath] at h
  rw [readable_iff_size_lt hwf' hpath']
  intro above name node' hnode' hread
  obtain ⟨node, hnode, houtline⟩ := halike.symm.exists_node? hnode'
  rw [← Node.isRead_eq_of_outline houtline] at hread
  exact h above name node hnode hread

/-! ## The walk -/

section Walk

variable {fs : FileSystem} {category : String}

theorem documentsIn_eq_ok_iff_of_entries {subcategory : Option String} {path : String}
    (above : List String) {dir : Directory}
    (hentries : ∀ entry ∈ dir, ∀ L,
      Catalog.documentsAt fs category subcategory (Path.join path entry.1) entry.1 entry.2 = .ok L ↔
        ReadableAt fs (Path.join path entry.1) entry.1 entry.2 ∧
          L = (filesAt above entry.1 entry.2).filterMap (File.document? category))
    (L : List Document) :
    Catalog.documentsIn fs category subcategory path dir = .ok L ↔
      (∀ entry ∈ dir, ReadableAt fs (Path.join path entry.1) entry.1 entry.2) ∧
        L = (filesIn above dir).filterMap (File.document? category) := by
  induction dir generalizing L with
  | nil => simp [Catalog.documentsIn, eq_comm]
  | cons entry rest ih =>
    have hrest := ih fun e he => hentries e (List.mem_cons_of_mem entry he)
    rw [Catalog.documentsIn, filesIn_cons, List.filterMap_append, List.forall_mem_cons]
    simp only [bind_eq_ok_iff, hentries entry List.mem_cons_self, hrest]
    constructor
    · rintro ⟨here, ⟨hat, rfl⟩, others, ⟨hothers, rfl⟩, h⟩
      cases h
      exact ⟨⟨hat, hothers⟩, rfl⟩
    · rintro ⟨⟨hat, hothers⟩, rfl⟩
      exact ⟨_, ⟨hat, rfl⟩, _, ⟨hothers, rfl⟩, rfl⟩

theorem documentsAt_file_eq_ok_iff {path name : String} {above : List String}
    {bytes : List UInt8} (hread : ∀ read, fs.readFile path = .ok read → read = bytes)
    (L : List Document) :
    Catalog.documentsAt fs category above.head? path name (.file bytes) = .ok L ↔
      ReadableAt fs path name (.file bytes) ∧
        L = (filesAt above name (.file bytes)).filterMap (File.document? category) := by
  rw [Catalog.documentsAt, filesAt_file, ReadableAt]
  cases hformat : Format.ofName? name with
  | none => simp [File.document?, hformat, eq_comm]
  | some format =>
    have hdocument : File.document? category ⟨above, name, bytes⟩ =
        some (.ofFile category above.head? name format
          (Extraction.ofFile (Catalog.textOf bytes) name).metadata) := by
      rw [File.document?, hformat, Option.map_some]
    simp only [bind_eq_ok_iff, Option.isSome_some, forall_const, List.filterMap_cons, hdocument,
      List.filterMap_nil]
    constructor
    · rintro ⟨read, hok, h⟩
      cases h
      rw [hread read hok]
      exact ⟨⟨read, hok⟩, rfl⟩
    · rintro ⟨⟨read, hok⟩, rfl⟩
      exact ⟨read, hok, by rw [hread read hok]⟩

/-- The walk through the directory at a path collects the documents of its files if all that it
reads can be read, and else fails. -/
theorem documentsIn_eq_ok_iff {dir : Directory} (hwf : dir.WellFormed) {path : String}
    (hpath : fs.readDirectory path = .ok dir) (above : List String) (L : List Document) :
    Catalog.documentsIn fs category above.head? path dir = .ok L ↔
      Readable fs path dir ∧ L = (filesIn above dir).filterMap (File.document? category) := by
  induction hwf generalizing path above L with
  | @intro dir distinct named below ih =>
    have hwf := Directory.WellFormed.intro distinct named below
    rw [documentsIn_eq_ok_iff_of_entries above, readable_iff]
    · simp only [hwf.find?_eq_some_iff, Prod.forall]
    · rintro ⟨name, node⟩ hmem L
      have hfind := hwf.find?_eq_some_iff.mpr hmem
      cases node with
      | file bytes =>
        refine documentsAt_file_eq_ok_iff (fun read hread => ?_) L
        exact ((FileSystem.readFile_entry_iff hpath hwf hfind).mp hread).2.symm
      | link target => simp [Catalog.documentsAt, ReadableAt, eq_comm]
      | directory entries =>
        have hread {read : Directory} (hok : fs.readDirectory (Path.join path name) = .ok read) :
            entries = read :=
          ((FileSystem.readDirectory_entry_iff hpath hwf hfind).mp hok).2
        -- The first directory of a walk stays the first however far the walk goes on.
        have hhead : some (above.head?.getD name) = (above ++ [name]).head? := by
          cases above <;> rfl
        rw [Catalog.documentsAt, filesAt_directory, ReadableAt, bind_eq_ok_iff, hhead]
        constructor
        · rintro ⟨read, hok, h⟩
          obtain rfl := hread hok
          rw [ih name _ hmem hok] at h
          exact ⟨⟨⟨_, hok⟩, h.1⟩, h.2⟩
        · rintro ⟨⟨⟨read, hok⟩, hbelow⟩, hL⟩
          obtain rfl := hread hok
          exact ⟨_, hok, (ih name _ hmem hok _ _).mpr ⟨hbelow, hL⟩⟩

end Walk

/-! ## The list -/

section Documents

variable {catalog : Catalog} {fs : FileSystem} {category : String} {dir : Directory}
  (hdir : fs.readDirectory (Path.join catalog.root category) = .ok dir) (hwf : dir.WellFormed)
include hdir hwf

theorem documents_eq_ok_iff {L : List Document} :
    catalog.documents fs category = .ok L ↔ Readable fs (Path.join catalog.root category) dir ∧
      L = Document.sort ((filesIn [] dir).filterMap (File.document? category)) := by
  have hwalk (L : List Document) :
      Catalog.documentsIn fs category none (Path.join catalog.root category) dir = .ok L ↔
        Readable fs (Path.join catalog.root category) dir ∧
          L = (filesIn [] dir).filterMap (File.document? category) :=
    documentsIn_eq_ok_iff hwf hdir [] L
  rw [Catalog.documents, bind_eq_ok_iff]
  simp only [hdir, Except.ok.injEq, exists_eq_left', bind_eq_ok_iff]
  constructor
  · rintro ⟨L, hL, rfl⟩
    obtain ⟨hread, rfl⟩ := (hwalk _).mp hL
    exact ⟨hread, rfl⟩
  · rintro ⟨hread, rfl⟩
    exact ⟨_, (hwalk _).mpr ⟨hread, rfl⟩, rfl⟩

theorem mem_documents_iff {L : List Document} (hL : catalog.documents fs category = .ok L)
    {d : Document} : d ∈ L ↔ ∃ file : File, file.In dir ∧ file.Yields category d := by
  obtain ⟨-, rfl⟩ := (documents_eq_ok_iff hdir hwf).mp hL
  rw [(Document.sort_perm _).mem_iff, List.mem_filterMap]
  simp only [mem_filesIn_iff hwf, List.nil_append, exists_eq_left', File.document?_eq_some_iff]
  rfl

end Documents

end Folio
