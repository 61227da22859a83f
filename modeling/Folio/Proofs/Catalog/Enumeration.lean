import Folio.Proofs.Catalog.Listing
import Folio.Proofs.FileSystem.Enumeration

/-!
# Listings in other orders of enumeration

A listing is sorted, but the keys of its documents need not be different: files of one name that lie
two or more directories below a category share their subcategory, their slug and their file name, and
may share their title. In another order of enumeration such documents change places. All else stays.

Main results:

* `categories_eq_of_reordered`: the categories are the same in all orders of enumeration.
* `filesIn_perm`: another order of enumeration has the same files.
* `exists_reordered_filesIn_eq_cons`: any file comes first in some order of enumeration.
* `listingOf_eq_iff`: the listing of a directory is the same in all orders of enumeration iff
  documents of one key are equal.
* `documents_eq_iff_of_reordered`: the same of what is read from disks.
-/

namespace Folio

theorem Directory.Reordered.directories_perm {dir dir' : Directory} (h : dir.Reordered dir') :
    dir.directories.Perm dir'.directories := by
  induction h with
  | here h => exact (h.filter _).map _
  | inside _ _ =>
    simp only [directories, List.filter_append, List.map_append, List.filter_cons,
      Node.isDirectory, if_true, List.map_cons, List.Perm.refl]
  | trans _ _ ih ih' => exact ih.trans ih'

theorem filesIn_perm {dir dir' : Directory} (h : dir.Reordered dir') (above : List String) :
    (filesIn above dir).Perm (filesIn above dir') := by
  induction h generalizing above with
  | here h =>
    rw [filesIn_eq_flatMap, filesIn_eq_flatMap]
    exact h.flatMap_right _
  | inside _ ih =>
    rw [filesIn_append, filesIn_append, filesIn_cons, filesIn_cons]
    exact ((ih _).append_right _).append_left _
  | trans _ _ ih ih' => exact (ih above).trans (ih' above)

/-- Any file of a tree comes first in some order of enumeration: the one that enumerates every
directory on the way to it, and the file itself, before what lies beside them. -/
theorem exists_reordered_filesIn_eq_cons {dir : Directory} {above : List String} {name : String}
    {bytes : List UInt8} (hfile : dir.node? above name = some (.file bytes)) (top : List String) :
    ∃ dir' rest, dir.Reordered dir' ∧
      filesIn top dir' = ⟨top ++ above, name, bytes⟩ :: rest := by
  induction above generalizing dir top with
  | nil =>
    obtain ⟨before, after, rfl⟩ := List.append_of_mem (Directory.mem_of_find? hfile)
    refine ⟨_, filesIn top (before ++ after), .here List.perm_middle, ?_⟩
    rw [filesIn_cons, filesAt_file, List.append_nil, List.singleton_append]
  | cons p above ih =>
    obtain ⟨entries, hp, hinner⟩ := Directory.node?_cons_eq_some_iff.mp hfile
    obtain ⟨entries', rest, hentries, hrest⟩ := ih hinner (top ++ [p])
    obtain ⟨before, after, rfl⟩ := List.append_of_mem (Directory.mem_of_find? hp)
    refine ⟨_, rest ++ filesIn top (before ++ after),
      .trans (.inside hentries) (.here List.perm_middle), ?_⟩
    rw [filesIn_cons, filesAt_directory, hrest, List.append_assoc, List.singleton_append,
      List.cons_append]

section Listing

variable {category : String} {entries entries' : Directory}

theorem mem_listingOf_iff (hwf : entries.WellFormed) {d : Document} :
    d ∈ listingOf category entries ↔ ∃ file : File, file.In entries ∧
      file.document? category = some d := by
  rw [listingOf, (Document.sort_perm _).mem_iff, List.mem_filterMap]
  simp only [mem_filesIn_iff hwf, List.nil_append, exists_eq_left']
  rfl

theorem listingOf_perm (h : entries.Reordered entries') :
    (listingOf category entries').Perm (listingOf category entries) := by
  have hfiles := (filesIn_perm h []).filterMap (File.document? category)
  exact (Document.sort_perm _).trans (hfiles.symm.trans (Document.sort_perm _).symm)

/-- Every position of a listing has the same key in all orders of enumeration. -/
theorem map_listingKey_listingOf (h : entries.Reordered entries') :
    (listingOf category entries').map Document.listingKey =
      (listingOf category entries).map Document.listingKey :=
  Sorting.map_mergeSort_eq_of_perm Document.isLE_compare_iff
    ((filesIn_perm h []).filterMap (File.document? category)).symm

theorem exists_reordered_listingOf {file : File} (hfile : file.In entries) {d : Document}
    (hd : file.document? category = some d) :
    ∃ entries' rest, entries.Reordered entries' ∧
      listingOf category entries' = Document.sort (d :: rest) := by
  obtain ⟨entries', rest, hentries, hrest⟩ := exists_reordered_filesIn_eq_cons hfile []
  refine ⟨entries', rest.filterMap (File.document? category), hentries, ?_⟩
  rw [listingOf, hrest, List.nil_append, List.filterMap_cons_some hd]

/-- The listing of a directory is the same in all orders of enumeration iff documents of one key are
equal. -/
theorem listingOf_eq_iff (hwf : entries.WellFormed) :
    (∀ entries', entries.Reordered entries' →
        listingOf category entries' = listingOf category entries) ↔
      ∀ d ∈ listingOf category entries, ∀ e ∈ listingOf category entries,
        d.listingKey = e.listingKey → d = e := by
  constructor
  · -- Of two documents of one key, the one that is enumerated first comes first.
    intro h d hd e he hkey
    by_contra hne
    obtain ⟨file, hfile, hd⟩ := (mem_listingOf_iff hwf).mp hd
    obtain ⟨file', hfile', he⟩ := (mem_listingOf_iff hwf).mp he
    obtain ⟨entries₁, rest₁, hentries₁, hlisting₁⟩ := exists_reordered_listingOf hfile hd
    obtain ⟨entries₂, rest₂, hentries₂, hlisting₂⟩ := exists_reordered_listingOf hfile' he
    apply Sorting.mergeSort_cons_ne Document.isLE_compare_iff hne hkey rest₁ rest₂
    rw [h _ hentries₁] at hlisting₁
    rw [h _ hentries₂] at hlisting₂
    exact hlisting₁.symm.trans hlisting₂
  · simp only [listingOf, (Document.sort_perm _).mem_iff]
    intro hinj entries' hentries
    have hdocuments := (filesIn_perm hentries []).filterMap (File.document? category)
    exact (Sorting.mergeSort_eq_of_perm Document.isLE_compare_iff hdocuments hinj).symm

/-- Documents of one key are equal if their files lie in the category or directly in a directory of
it: there the subcategory and the file name tell where the file is. -/
theorem eq_of_listingKey_eq {file file' : File} (hfile : file.In entries)
    (hfile' : file'.In entries) {d e : Document} (hd : file.Yields category d)
    (he : file'.Yields category e) (hdepth : file.above.length ≤ 1)
    (hdepth' : file'.above.length ≤ 1) (hkey : d.listingKey = e.listingKey) : d = e := by
  simp only [Document.listingKey, toLex_inj, Prod.mk.injEq, Document.subcategoryKey_inj] at hkey
  obtain ⟨-, -, hsubcategory, -, hfilename⟩ := hkey
  have habove : file.above = file'.above := by
    rw [← hd.toList_subcategory hdepth, ← he.toList_subcategory hdepth', hsubcategory]
  have hname : file.name = file'.name := by
    rw [← hd.filename_eq, ← he.filename_eq, hfilename]
  have hbytes : file.bytes = file'.bytes := by
    rw [File.In, habove, hname, hfile'] at hfile
    simpa using hfile.symm
  have hsame : file = file' := File.ext habove hname hbytes
  have hdocument := File.document?_eq_some_iff.mpr hd
  rw [hsame, File.document?_eq_some_iff.mpr he] at hdocument
  exact (Option.some.inj hdocument).symm

end Listing

/-! ## Disks -/

/-- Categories are listed alike in all orders of enumeration. -/
theorem categories_eq_of_reordered {catalog : Catalog} {fs fs' : FileSystem} {entries : Directory}
    (hroot : fs.readDirectory catalog.root = .ok entries) (hdisk : fs.root.WellFormed)
    (h : fs.Reordered fs') : catalog.categories fs' = catalog.categories fs := by
  obtain ⟨entries', hroot', hentries⟩ := h.readDirectory hdisk hroot
  have hnames := sortNames_eq_of_perm
    (hentries.directories_perm.filter fun name => !catalog.excluded.contains name)
  rw [Catalog.categories, Catalog.categories, hroot, hroot']
  exact congrArg Except.ok hnames.symm

theorem documents_of_reordered {catalog : Catalog} {fs fs' : FileSystem} {category : String}
    {entries entries' : Directory} (hwf : entries.WellFormed)
    (hdir : fs.readDirectory (Path.join catalog.root category) = .ok entries)
    (hread : Readable fs (Path.join catalog.root category) entries) (h : entries.Reordered entries')
    (hdir' : fs'.readDirectory (Path.join catalog.root category) = .ok entries') :
    catalog.documents fs' category = .ok (listingOf category entries') := by
  have hwf' := h.wellFormed hwf
  have hread' := hread.of_alike (h.alike hwf) hwf hdir hwf' hdir'
  exact (documents_eq_ok_iff hdir' hwf').mpr ⟨hread', rfl⟩

/-- In all orders of enumeration the listing of a category has the same documents, and in each
position the same key. It is the same list in all of them iff documents of one key are equal, as they
are if no file of a document lies deeper than in a directory of the category. -/
theorem documents_eq_iff_of_reordered {catalog : Catalog} {fs : FileSystem} {tree : Directory}
    (htree : catalog.HasTree fs tree) (hread : Readable fs catalog.root tree)
    (hdisk : fs.root.WellFormed) {category : String} {entries : Directory}
    (hcategory : tree.find? category = some (.directory entries)) :
    ∃ L, catalog.documents fs category = .ok L ∧
      (∀ fs', fs.Reordered fs' → ∃ L', catalog.documents fs' category = .ok L' ∧ L'.Perm L ∧
        L'.map Document.listingKey = L.map Document.listingKey) ∧
      ((∀ fs', fs.Reordered fs' → catalog.documents fs' category = .ok L) ↔
        ∀ d ∈ L, ∀ e ∈ L, d.listingKey = e.listingKey → d = e) ∧
      ((∀ file : File, file.In entries → file.HasFormat → file.above.length ≤ 1) →
        ∀ d ∈ L, ∀ e ∈ L, d.listingKey = e.listingKey → d = e) := by
  obtain ⟨hdir, hbelow⟩ := htree.readDirectory_category hread hcategory
  have hwf := htree.wellFormed.of_find? hcategory
  have hdocuments {fs' : FileSystem} {entries' : Directory} (h : entries.Reordered entries')
      (hdir' : fs'.readDirectory (Path.join catalog.root category) = .ok entries') :=
    documents_of_reordered hwf hdir hbelow h hdir'
  refine ⟨listingOf category entries, htree.documents_eq hread hcategory, ?_, ?_, ?_⟩
  · intro fs' hfs
    obtain ⟨entries', hdir', h⟩ := hfs.readDirectory hdisk hdir
    exact ⟨_, hdocuments h hdir', listingOf_perm h, map_listingKey_listingOf h⟩
  · rw [← listingOf_eq_iff hwf]
    constructor
    · intro hsame entries' h
      obtain ⟨fs', hfs, hdir'⟩ := FileSystem.exists_reordered_readDirectory hdisk hdir h
      have heq := hsame fs' hfs
      rw [hdocuments h hdir'] at heq
      exact Except.ok.inj heq
    · intro hsame fs' hfs
      obtain ⟨entries', hdir', h⟩ := hfs.readDirectory hdisk hdir
      rw [hdocuments h hdir', hsame entries' h]
  · intro hshallow d hd e he hkey
    obtain ⟨file, hfile, hd⟩ := (mem_listingOf_iff hwf).mp hd
    obtain ⟨file', hfile', he⟩ := (mem_listingOf_iff hwf).mp he
    have hdepth {file : File} {d : Document} (hfile : file.In entries)
        (hd : file.document? category = some d) : file.above.length ≤ 1 := by
      refine hshallow file hfile (File.hasFormat_iff.mpr ?_)
      obtain ⟨format, hformat, -⟩ := Option.map_eq_some_iff.mp hd
      exact ⟨format, hformat⟩
    exact eq_of_listingKey_eq hfile hfile' (File.document?_eq_some_iff.mp hd)
      (File.document?_eq_some_iff.mp he) (hdepth hfile hd) (hdepth hfile' he) hkey

/-- A category with two files of one name, each two directories below it. -/
def twinEntries : Directory :=
  [("dpp", .directory
    [("battery", .directory [("pass.json", .file [])]),
      ("textile", .directory [("pass.json", .file [123, 125])])])]

/-- A catalog of that category. -/
def twinTree : Directory := [("schemas", .directory twinEntries)]

/-- The document of a file of that name with the given bytes. -/
def twinDocument (bytes : List UInt8) : Document where
  slug := "pass"
  filename := "pass.json"
  category := "schemas"
  subcategory := some "dpp"
  format := .json
  metadata := (Extraction.ofFile (Catalog.textOf bytes) "pass.json").metadata

theorem twinDocument_ne : twinDocument [] ≠ twinDocument [123, 125] := by decide +kernel

theorem listingKey_twinDocument :
    (twinDocument []).listingKey = (twinDocument [123, 125]).listingKey := by
  have htitle : (twinDocument []).metadata.title = (twinDocument [123, 125]).metadata.title := by
    decide +kernel
  rw [Document.listingKey, Document.listingKey, Document.titleKey, Document.titleKey, htitle]
  rfl

theorem documents_eq_iff_of_reordered_twinTree :
    (Catalog.ofRoot "specs").HasTree (.holding "specs" twinTree) twinTree ∧
      Readable (.holding "specs" twinTree) "specs" twinTree ∧
      (FileSystem.holding "specs" twinTree).root.WellFormed ∧
      twinTree.find? "schemas" = some (.directory twinEntries) ∧
      ∃ L, (Catalog.ofRoot "specs").documents (.holding "specs" twinTree) "schemas" = .ok L ∧
        ∃ fs' L', (FileSystem.holding "specs" twinTree).Reordered fs' ∧
          (Catalog.ofRoot "specs").documents fs' "schemas" = .ok L' ∧ L'.Perm L ∧ L' ≠ L := by
  have hroot : IsEntryName "specs" := by decide
  have hwf : twinTree.WellFormed := by decide
  have hdisk : (FileSystem.holding "specs" twinTree).root.WellFormed := by decide
  have htree := hasTree_holding hroot hwf
  have hread := readable_holding hroot hwf (by decide)
  have hcategory : twinTree.find? "schemas" = some (.directory twinEntries) := rfl
  obtain ⟨L, hL, hsame, hiff, -⟩ :=
    documents_eq_iff_of_reordered htree hread hdisk hcategory
  refine ⟨htree, hread, hdisk, hcategory, L, hL, ?_⟩
  have hmem (above : List String) (bytes : List UInt8)
      (hfile : File.In twinEntries ⟨above, "pass.json", bytes⟩)
      (habove : above.head? = some "dpp") : twinDocument bytes ∈ L := by
    obtain ⟨hdir, -⟩ := htree.readDirectory_category hread hcategory
    refine (mem_documents_iff hdir (htree.wellFormed.of_find? hcategory) hL).mpr ⟨_, hfile, ?_⟩
    have hlower : "json".toList.map Char.toLower = Format.json.ext.toList := by decide
    exact ⟨rfl, habove.symm, rfl, ⟨"json", rfl, (by decide : "pass" ≠ ""), by decide, hlower⟩, rfl⟩
  have htie : ¬ ∀ fs', (FileSystem.holding "specs" twinTree).Reordered fs' →
      (Catalog.ofRoot "specs").documents fs' "schemas" = .ok L := by
    intro h
    have hbattery := hmem ["dpp", "battery"] [] rfl rfl
    have htextile := hmem ["dpp", "textile"] [123, 125] rfl rfl
    exact twinDocument_ne (hiff.mp h _ hbattery _ htextile listingKey_twinDocument)
  simp only [not_forall] at htie
  obtain ⟨fs', hfs, hne⟩ := htie
  obtain ⟨L', hL', hperm, -⟩ := hsame fs' hfs
  refine ⟨fs', L', hfs, hL', hperm, ?_⟩
  rintro rfl
  exact hne hL'

end Folio
