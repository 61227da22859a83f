import Folio.Catalog.Basic
import Folio.Proofs.Document.FileName
import Folio.Proofs.FileSystem.Nodes

/-!
# The files of a category

The files of a directory tree are those that walks through real directories end at. A file whose
name has a format stands for a document.

Main definitions:

* `File`: a file with the walk that leads to it.
* `File.In`: whether a directory holds a file, directly or below.
* `File.Yields`: what the document of a file says; `File.document?` is that document.
* `filesIn`: the files of a directory tree in the order of listings before they are sorted.

Results:

* `File.document?_eq_some_iff`: a file has a document iff its name has a format.
* `File.Yields.toList_subcategory`: the subcategory is the whole walk to a file that is not deep.
* `mem_filesIn_iff`, `nodup_filesIn`: every file of a tree is among its files, and only once.
-/

namespace Folio

/-- A regular file below a directory. -/
@[ext]
structure File where
  /-- The directories on the way to the file. -/
  above : List String
  name : String
  bytes : List UInt8

namespace File

/-- Whether a walk through real directories leads to the file. -/
def In (dir : Directory) (file : File) : Prop :=
  dir.node? file.above file.name = some (.file file.bytes)

/-- Whether the name of the file ends in a dot and the extension of a format, in any letter case,
with something before the dot. -/
def HasFormat (file : File) : Prop :=
  ∃ stem ext, file.name = stem ++ "." ++ ext ∧ stem ≠ "" ∧ '.' ∉ ext.toList ∧
    ∃ format : Format, ext.toList.map Char.toLower = format.ext.toList

/-- What the document says that a file of a category stands for. The slug is the name up to its
last dot, the format is that of the extension in any letter case, and the subcategory is the first
directory on the way, however long the way is. -/
structure Yields (category : String) (file : File) (d : Document) : Prop where
  category_eq : d.category = category
  subcategory_eq : d.subcategory = file.above.head?
  filename_eq : d.filename = file.name
  name_eq : ∃ ext, file.name = d.slug ++ "." ++ ext ∧ d.slug ≠ "" ∧ '.' ∉ ext.toList ∧
    ext.toList.map Char.toLower = d.format.ext.toList
  metadata_eq : d.metadata = (Extraction.ofFile (Catalog.textOf file.bytes) file.name).metadata

/-- The document that a file of a category stands for, if its name has a format. -/
def document? (category : String) (file : File) : Option Document :=
  (Format.ofName? file.name).map fun format =>
    .ofFile category file.above.head? file.name format
      (Extraction.ofFile (Catalog.textOf file.bytes) file.name).metadata

theorem document?_eq_some_iff {category : String} {file : File} {d : Document} :
    file.document? category = some d ↔ file.Yields category d := by
  rw [document?, Option.map_eq_some_iff]
  constructor
  · rintro ⟨format, hformat, rfl⟩
    obtain ⟨stem, ext, hname, hstem, hext, hformat⟩ := Format.ofName?_eq_some_iff.mp hformat
    have hslug : slugOf file.name = stem := hname ▸ slugOf_append hext
    refine ⟨rfl, rfl, rfl, ⟨ext, ?_, ?_, hext, hformat⟩, rfl⟩
    · exact hname.trans (by rw [← hslug]; rfl)
    · exact (show slugOf file.name ≠ "" from hslug ▸ hstem)
  · rintro ⟨rfl, hsubcategory, hfilename, ⟨ext, hname, hstem, hext, hformat⟩, hmetadata⟩
    have hslug : slugOf file.name = d.slug := hname ▸ slugOf_append hext
    refine ⟨d.format, Format.ofName?_eq_some_iff.mpr ⟨_, ext, hname, hstem, hext, hformat⟩, ?_⟩
    rw [← hsubcategory, ← hmetadata, Document.ofFile, hslug, ← hfilename]

/-- The walk to a file at most one directory below the category is its subcategory. -/
theorem Yields.toList_subcategory {category : String} {file : File} {d : Document}
    (h : file.Yields category d) (hdepth : file.above.length ≤ 1) :
    d.subcategory.toList = file.above := by
  rw [h.subcategory_eq]
  match hrest : file.above with
  | [] => rfl
  | [name] => rfl
  | name :: other :: rest =>
    rw [hrest] at hdepth
    simp at hdepth

theorem hasFormat_iff {file : File} :
    file.HasFormat ↔ ∃ format, Format.ofName? file.name = some format := by
  simp only [Format.ofName?_eq_some_iff, HasFormat]
  constructor
  · rintro ⟨stem, ext, hname, hstem, hext, format, hformat⟩
    exact ⟨format, stem, ext, hname, hstem, hext, hformat⟩
  · rintro ⟨format, stem, ext, hname, hstem, hext, hformat⟩
    exact ⟨stem, ext, hname, hstem, hext, format, hformat⟩

end File

/-! ## The files of a tree -/

/-- The file that a node is, if it is one. -/
def Entry.file? (entry : Entry) : Option File :=
  match entry.node with
  | .file bytes => some ⟨entry.above, entry.name, bytes⟩
  | _ => none

theorem Entry.file?_eq_some_iff {entry : Entry} {file : File} :
    entry.file? = some file ↔ entry = ⟨file.above, file.name, .file file.bytes⟩ := by
  obtain ⟨above, name, node⟩ := entry
  obtain ⟨above', name', bytes'⟩ := file
  cases node <;> simp [file?]

/-- The files that an entry below the directories `above` stands for. -/
def filesAt (above : List String) (name : String) (node : Node) : List File :=
  (nodesAt above name node).filterMap Entry.file?

/-- The files below a directory, which is itself at the end of the walk `above`. -/
def filesIn (above : List String) (dir : Directory) : List File :=
  (nodesIn above dir).filterMap Entry.file?

@[simp] theorem filesAt_file (above : List String) (name : String) (bytes : List UInt8) :
    filesAt above name (.file bytes) = [⟨above, name, bytes⟩] := rfl

@[simp] theorem filesAt_link (above : List String) (name target : String) :
    filesAt above name (.link target) = [] := rfl

@[simp] theorem filesAt_directory (above : List String) (name : String) (entries : Directory) :
    filesAt above name (.directory entries) = filesIn (above ++ [name]) entries := rfl

@[simp] theorem filesIn_nil (above : List String) : filesIn above [] = [] := rfl

theorem filesIn_cons (above : List String) (entry : String × Node) (rest : Directory) :
    filesIn above (entry :: rest) = filesAt above entry.1 entry.2 ++ filesIn above rest := by
  rw [filesIn, nodesIn, List.filterMap_append]
  rfl

theorem filesIn_eq_flatMap (above : List String) (dir : Directory) :
    filesIn above dir = dir.flatMap fun entry => filesAt above entry.1 entry.2 := by
  rw [filesIn, nodesIn_eq_flatMap, List.filterMap_flatMap]
  rfl

theorem filesIn_append (above : List String) (dir rest : Directory) :
    filesIn above (dir ++ rest) = filesIn above dir ++ filesIn above rest := by
  simp only [filesIn_eq_flatMap, List.flatMap_append]

theorem mem_filesIn_iff {dir : Directory} (hwf : dir.WellFormed) {above : List String}
    {file : File} :
    file ∈ filesIn above dir ↔
      ∃ rest, file.above = above ++ rest ∧ dir.node? rest file.name = some (.file file.bytes) := by
  simp only [filesIn, List.mem_filterMap, Entry.file?_eq_some_iff, exists_eq_right,
    mem_nodesIn_iff hwf]

theorem nodup_filesIn {dir : Directory} (hwf : dir.WellFormed) (above : List String) :
    (filesIn above dir).Nodup := by
  refine (nodup_nodesIn hwf above).filterMap fun entry entry' file hfile hfile' => ?_
  rw [Option.mem_def, Entry.file?_eq_some_iff] at hfile hfile'
  rw [hfile, hfile']

end Folio
